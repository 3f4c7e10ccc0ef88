import ConnectionPool.Proofs.Holding.Clients
import ConnectionPool.Proofs.Region.Runs
import ConnectionPool.Proofs.Session.Exclusive

/-!
# What is parked stays until it is asked for

A statement that is parked in the store of a connection stays there, untouched by the driver, until
a cache that is attached to the connection looks it up, it is withdrawn, or the store is drained, as
long as somebody holds the store (`parked_stays`). Nothing else displaces it: neither statements that
are parked or refused, on this connection or another one, nor checkouts and returns, whatever fails
meanwhile. The first look-up finds that very statement, and the next one finds nothing.

A store that nobody holds is given up with all that is in it. Where the chain of the connection has
no cache, nothing of this is heard (`parked_closed_lettingGo`).
-/

set_option autoImplicit false

namespace ConnectionPool

namespace World

variable {w : World} {c : ConnectionId} {key : CacheKey} {tracked : Tracked} {k : CacheId}
  {call : Call}

/-! ## Look-ups -/

/-- A cache is attached to a connection. -/
def AttachedTo (w : World) (k : CacheId) (c : ConnectionId) : Prop :=
  ∃ counter, (w.cache k).binding = some ⟨c, counter⟩

/-- **What is parked comes back once**: a look-up finds it and leaves the driver alone, and the
next look-up of the key finds nothing, whichever cache of the connection makes it. -/
structure ComesBack (w : World) (c : ConnectionId) (key : CacheKey) (tracked : Tracked)
    (k : CacheId) (call : Call) : Prop where
  found : (w.fetch k call).2 = .ok (some tracked)
  unused : (w.fetch k call).1.driver = w.driver
  gone : ∀ l again, (w.fetch k call).1.AttachedTo l c →
    ((w.fetch k call).1.cache l).policy.keyFor again = some key →
    ((w.fetch k call).1.fetch l again).2 = .ok none

/-- A cache that is attached to a connection looks up in its store. -/
theorem fetch_of_attachedTo (ha : w.AttachedTo k c)
    (hkey : (w.cache k).policy.keyFor call = some key) :
    (w.fetch k call).2 = .ok ((w.store c).entries.get? key) := by
  obtain ⟨counter, hb⟩ := ha
  have hskip : (!(w.cache k).policy.keeps call.method || call.sql?.isNone) = false := by
    rw [CachePolicy.keyFor] at hkey
    split at hkey
    · next hk => simpa using hk
    · cases hkey
  simp only [fetch]
  rw [if_neg (by rw [hskip]; decide), hkey, hb]
  simp only
  split
  · next hf => rw [hf]
  · next hf => rw [hf]

/-- What is parked comes back to a cache that is attached to the connection. -/
theorem comesBack (hf : (w.store c).entries.get? key = some tracked) (ha : w.AttachedTo k c)
    (hkey : (w.cache k).policy.keyFor call = some key) : w.ComesBack c key tracked k call := by
  have hknown : w.connections.Known c := by
    by_contra hc
    rw [w.store_of_not_known hc] at hf
    cases hf
  have hfetch := fetch_of_attachedTo ha hkey
  rw [hf] at hfetch
  obtain ⟨counter, hb⟩ := ha
  obtain (h | ⟨error, h⟩) | ⟨_, _, -, -, -, h⟩ | ⟨other, binding, found, hother, hb', -, h⟩ :=
    w.fetch_cases k call
  · rw [h] at hfetch
    cases hfetch
  · rw [h] at hfetch
    cases hfetch
  · rw [h] at hfetch
    cases hfetch
  · rw [hkey] at hother
    rw [hb] at hb'
    cases hother
    cases hb'
    refine ⟨hfetch, ?_, fun l again hl hagain => ?_⟩
    · rw [h]
      cases counter <;> rfl
    · rw [fetch_of_attachedTo hl hagain, h]
      have hstore : (w.found ⟨c, counter⟩ key).store c = ((w.store c).remove key).recordHit := by
        rw [← w.store_setStore_self hknown ((w.store c).remove key).recordHit]
        cases counter <;> rfl
      rw [hstore]
      exact congrArg Except.ok ((Table.get?_erase _ _ _).trans (if_pos rfl))

end World

/-! ## What bears on an entry -/

/-- **Whether a notice bears on an entry** of the store of a connection: a cache in its chain is
asked for it, or somebody is told that the connection is disconnected. Policies of caches never
change, and are read in an earlier world `w`. -/
def Notice.bearsOn (w : World) (c : ConnectionId) (key : CacheKey) : Notice → Bool
  | ⟨.link d _, ⟨_, .cache k⟩, .enter call _ _, _⟩ =>
      d == c && (w.cache k).policy.keyFor call == some key
  | ⟨_, _, .hook (.disconnected d _) _, _⟩ => d == c
  | _ => false

namespace Session

/-- **A command bears on an entry** of the store of a connection: with a cache of its own the
client looks it up, withdraws it, or drains the store. -/
inductive BearsOn (s : Session) (c : ConnectionId) (key : CacheKey) : Command → Prop
  | fetch {cache : Name} {request : CallRequest} {save : Option Name} {k : CacheId} {call : Call}
      (hfree : ∀ name, save = some name → s.tracked.get? name = none)
      (hk : s.caches.get? cache = some k) (hcall : request.read = .ok call)
      (ha : s.world.AttachedTo k c) (hkey : (s.world.cache k).policy.keyFor call = some key) :
      BearsOn s c key (.cache (.fetch cache request save))
  | withdraw {cache : Name} {request : CallRequest} {save : Option Name} {k : CacheId}
      {call : Call} (hfree : ∀ name, save = some name → s.tracked.get? name = none)
      (hk : s.caches.get? cache = some k) (hcall : request.read = .ok call)
      (ha : s.world.AttachedTo k c) (hkey : CacheKey.ofCall? call = some key) :
      BearsOn s c key (.cache (.withdraw cache request save))
  | drain {pool cache : Name} {via : Via} {p : PoolId} {k : CacheId}
      (hp : s.pools.get? pool = some p) (hk : s.caches.get? cache = some k)
      (hc : s.connection? via = some c) : BearsOn s c key (.cache (.drain pool cache via))

/-- **Commands leave an entry alone**: none of them bears on it, and neither does anything that an
interceptor is told or asked meanwhile. -/
def LeaveAlone (w : World) (c : ConnectionId) (key : CacheKey) : Session → List Command → Prop
  | _, [] => True
  | s, command :: rest =>
      (¬ s.BearsOn c key command
        ∧ ∀ notice ∈ (s.run command).1.world.journal.drop s.world.journal.length,
          notice.bearsOn w c key = false)
      ∧ LeaveAlone w c key (s.run command).1 rest

/-- **Somebody holds the store** of a connection after each of these commands: the connection is not
torn down, the client holds it, or a cache is attached to it. -/
def HeldThroughout (c : ConnectionId) : Session → List Command → Prop
  | _, [] => True
  | s, command :: rest =>
      (s.run command).1.world.isHeld c = true ∧ HeldThroughout c (s.run command).1 rest

variable {s : Session} {c : ConnectionId} {key : CacheKey} {tracked : Tracked}

/-! ## The region around an entry -/

/-- **Everything but one entry** and the statement that it reaches. -/
def around (w : World) (c : ConnectionId) (key : CacheKey) (tracked : Tracked) : Region where
  pools _ := True
  connections _ := True
  caches _ := True
  counters _ := True
  statements id := tracked.delegate.target? ≠ some id
  kept d other := d = c ∧ other = key
  policy k := (w.cache k).policy

theorem whole_around (w : World) (c : ConnectionId) (key : CacheKey) (tracked : Tracked) :
    (around w c key tracked).Whole :=
  ⟨fun _ => trivial, fun _ => trivial, fun _ => trivial, fun _ => trivial⟩

/-- A handle lies around an entry if it reaches something else. -/
theorem holds_around {w : World} {handle : Statement}
    (h : ∀ id, handle.target? = some id → tracked.delegate.target? ≠ some id) :
    (around w c key tracked).Holds handle := by
  induction handle with
  | physical id => exact h id rfl
  | facade _ _ inner ih => exact ⟨trivial, ih h⟩
  | spent => trivial

/-- What lies around an entry embraces the session: what is parked elsewhere and what the client
holds reaches other statements. -/
theorem around_embraces (he : Region.everything.Embraces s) (hd : s.Distinct)
    (hf : (s.world.store c).entries.get? key = some tracked) :
    (around s.world c key tracked).Embraces s := by
  have hparks : ∀ {id}, tracked.delegate.target? = some id → s.world.Parks c key id :=
    fun ht => ⟨tracked, hf, ht⟩
  have hheld : ∀ handle ∈ s.holdings, (around s.world c key tracked).Holds handle :=
    fun handle hm => holds_around fun id hid ht => hd.not_parks hm hid c key (hparks ht)
  refine ⟨{ he.closed with
      statements := fun id hid ht => hid (hd.known_of_parks (hparks ht))
      bound := fun k binding hk hb => { he.closed.bound k binding hk hb with }
      parked := fun d other entry _ hne hentry => holds_around fun id hid ht => ?_
      kept := ?_
      policy := fun _ _ _ _ _ => rfl }, fun name held hn => ?_, fun name entry hn => ?_,
    he.shared, he.caches⟩
  · exact hne (hd.parks_unique ⟨entry, hentry, hid⟩ (hparks ht))
  · rintro d other ⟨rfl, rfl⟩
    exact ⟨trivial, by rw [hf]; rfl⟩
  · exact hheld _ (Multiset.mem_add.mpr (Or.inl (mem_pockets hn)))
  · exact hheld _ (mem_holdings_of_tracked hn)

/-- Commands that leave an entry alone are peaceful around it while the store is held. -/
theorem LeaveAlone.peaceful {w : World} {commands : List Command}
    (h : LeaveAlone w c key s commands) (hh : HeldThroughout c s commands) :
    (around w c key tracked).Peaceful s commands := by
  induction commands generalizing s with
  | nil => trivial
  | cons command rest ih =>
      obtain ⟨⟨hcommand, hnotices⟩, hrest⟩ := h
      obtain ⟨hheld, hlater⟩ := hh
      refine ⟨⟨?_, ?_, fun notices hj notice hm => ?_⟩, ih hrest hlater⟩
      · unfold Region.Leaves
        split
        · rintro p k d hp hk hd other ⟨rfl, rfl⟩
          exact hcommand (.drain hp hk hd)
        · rintro hfree k call hk hcall ⟨_, counter⟩ hb other ⟨rfl, rfl⟩ hkey
          exact hcommand (.fetch hfree hk hcall ⟨counter, hb⟩ hkey)
        · rintro hfree k call other hk hcall hkey ⟨_, counter⟩ hb ⟨rfl, rfl⟩
          exact hcommand (.withdraw hfree hk hcall ⟨counter, hb⟩ hkey)
        · trivial
      · rintro d other ⟨rfl, rfl⟩
        exact hheld
      · rw [hj, List.drop_left] at hnotices
        have hbears := hnotices notice hm
        obtain ⟨receiver, ⟨name, role⟩, content, logged⟩ := notice
        refine ⟨?_, ?_⟩
        · rintro d position k call remaining number other rfl rfl rfl ⟨rfl, rfl⟩ hkey
          simp only [Notice.bearsOn, beq_self_eq_true, Bool.true_and] at hbears
          exact beq_eq_false_iff_ne.mp hbears hkey
        · rintro d finalizing sight other rfl ⟨rfl, rfl⟩
          simp [Notice.bearsOn] at hbears

/-! ## The theorem -/

/-- **What is parked stays until it is asked for.** In any state that a client comes to, let a
statement be parked under a key in the store of a connection. After any further commands that leave
this entry alone, and during which somebody holds the store, it is there as it was, and the driver
has not touched the statement. A look-up of the key by a cache that is attached to the connection
then finds that very statement, and the next one finds nothing. -/
theorem parked_stays (earlier later : List Command) {c : ConnectionId} {key : CacheKey}
    {tracked : Tracked}
    (hf : ((empty.runAll earlier).world.store c).entries.get? key = some tracked)
    (hl : LeaveAlone (empty.runAll earlier).world c key (empty.runAll earlier) later)
    (hh : HeldThroughout c (empty.runAll earlier) later) :
    (((empty.runAll (earlier ++ later)).world.store c).entries.get? key = some tracked
      ∧ ∀ id, tracked.delegate.target? = some id →
        (empty.runAll (earlier ++ later)).world.driver.statement id
          = (empty.runAll earlier).world.driver.statement id
        ∧ ∀ event ∈ (empty.runAll (earlier ++ later)).world.driver.log.drop
            (empty.runAll earlier).world.driver.log.length, event.statement? ≠ some id)
    ∧ ∀ k call, (empty.runAll (earlier ++ later)).world.AttachedTo k c →
        ((empty.runAll (earlier ++ later)).world.cache k).policy.keyFor call = some key →
        (empty.runAll (earlier ++ later)).world.ComesBack c key tracked k call := by
  have hembraces := around_embraces (Region.everything_embraces earlier) (distinct_runAll earlier)
    hf
  obtain ⟨-, hspares⟩ := hembraces.runAll (whole_around _ c key tracked)
    (accounted_empty.runAll earlier) (hl.peaceful hh)
  rw [← runAll_append] at hspares
  have hstays := (hspares.kept c key ⟨rfl, rfl⟩).trans hf
  refine ⟨⟨hstays, fun id hid => ⟨hspares.driver.statement id fun hne => hne hid, ?_⟩⟩,
    fun k call ha hkey => World.comesBack hstays ha hkey⟩
  obtain ⟨events, hlog, hevents⟩ := hspares.driver.log
  rw [hlog, List.drop_left]
  exact fun event hm he => hevents event hm id he hid

/-- The connection is returned and checked out again, and another statement is prepared and parked
next to the first one. -/
def reusing : List Command :=
  [.connection (.checkIn "g"), .pool (.checkOut "p" "h"),
    .connection (.prepare "h" ⟨.prepareStatement, [.text "SELECT 2"]⟩ (some "b")),
    .statement (.close "b")]

/-- The first statement comes back to the cache in the chain of the connection. -/
theorem parked_stays_reusing :
    (((empty.runAll (recycling.take 4)).world.store 1).entries.get? ⟨.prepared, selection.args⟩
        = some ⟨some ⟨.prepared, selection.args⟩, 2, .physical 1⟩
      ∧ LeaveAlone (empty.runAll (recycling.take 4)).world 1 ⟨.prepared, selection.args⟩
        (empty.runAll (recycling.take 4)) reusing
      ∧ HeldThroughout 1 (empty.runAll (recycling.take 4)) reusing)
    ∧ ((empty.runAll (recycling.take 4 ++ reusing)).world.fetch 2 selection).2
      = .ok (some ⟨some ⟨.prepared, selection.args⟩, 2, .physical 1⟩) := by
  have hf : ((empty.runAll (recycling.take 4)).world.store 1).entries.get?
      ⟨.prepared, selection.args⟩ = some ⟨some ⟨.prepared, selection.args⟩, 2, .physical 1⟩ := by
    rfl
  have hl : LeaveAlone (empty.runAll (recycling.take 4)).world 1 ⟨.prepared, selection.args⟩
      (empty.runAll (recycling.take 4)) reusing := by
    refine ⟨⟨by rintro ⟨⟩, by decide⟩, ⟨by rintro ⟨⟩, by decide⟩, ⟨by rintro ⟨⟩, by decide⟩,
      ⟨by rintro ⟨⟩, by decide⟩, trivial⟩
  have hh : HeldThroughout 1 (empty.runAll (recycling.take 4)) reusing :=
    ⟨by rfl, by rfl, by rfl, by rfl, trivial⟩
  exact ⟨⟨hf, hl, hh⟩, ((parked_stays (recycling.take 4) reusing hf hl hh).2 2 selection
    ⟨some 1, by rfl⟩ (by rfl)).found⟩

/-- A client parks a statement with a cache of its own on a connection that has no chain, detaches
the cache and takes the connection out of its pool. -/
def lettingGo : List Command :=
  [.pool (.start "p" {}), .pool (.checkOut "p" "g"), .cache (.create "k" {} false),
    .cache (.poolStarted "p" "k"), .cache (.attach "p" "k" (.guard "g")),
    .cache (.track "k" ⟨"prepareStatement", selection.args⟩ (.fresh "SELECT 1") "t"),
    .cache (.offer "k" "t" false), .cache (.detach "k"), .connection (.retire "g")]

/-- Nobody has asked for what was parked, and nobody was told that the connection is disconnected,
but nobody holds the store in the end: the statement is closed, after the connection. -/
theorem parked_closed_lettingGo :
    ((empty.runAll (lettingGo.take 7)).world.store 1).entries.get? ⟨.prepared, selection.args⟩
        = some ⟨some ⟨.prepared, selection.args⟩, 1, .physical 1⟩
      ∧ LeaveAlone (empty.runAll (lettingGo.take 7)).world 1 ⟨.prepared, selection.args⟩
        (empty.runAll (lettingGo.take 7)) (lettingGo.drop 7)
      ∧ ((empty.runAll lettingGo).world.store 1).entries.get? ⟨.prepared, selection.args⟩ = none
      ∧ (empty.runAll lettingGo).world.driver.log
        = (empty.runAll (lettingGo.take 7)).world.driver.log
          ++ [.connectionClosed 1, .statementClosed 1] :=
  ⟨by rfl, ⟨⟨by rintro ⟨⟩, by decide⟩, ⟨by rintro ⟨⟩, by decide⟩, trivial⟩, by rfl, by rfl⟩

end Session

end ConnectionPool
