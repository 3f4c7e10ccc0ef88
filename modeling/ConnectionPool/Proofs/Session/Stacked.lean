import ConnectionPool.Proofs.Closing.Reaching
import ConnectionPool.Proofs.Scene.Arriving

/-!
# Stacked caches

A call is answered by the first cache of the chain that finds a statement for it, in the store
that all caches of the connection share. On an even connection the statement was prepared by the
driver for the same call, with the same arguments, for which the driver would prepare one if all
stores were empty (`stacked_calls`).

Where a link between two caches appends an argument, the caches see different calls, and the outer
one can find what the inner one has parked for another call (`stacked_mixed_up`).
-/

set_option autoImplicit false

namespace ConnectionPool

/-! ## Empty stores -/

/-- The connection with nothing parked on it. -/
def Connection.unstocked (connection : Connection) : Connection :=
  match connection.store? with
  | none => connection
  | some store =>
      { connection with
        attributes := connection.attributes.insert .store { store with entries := Table.empty } }

/-- **The world with every store emptied.** -/
def World.unstocked (w : World) : World :=
  { w with connections := ⟨w.connections.rows.map Connection.unstocked⟩ }

theorem Connection.frame_unstocked (connection : Connection) :
    connection.unstocked.frame = connection.frame := by
  unfold unstocked
  split
  · rfl
  · rfl

theorem Connection.store?_unstocked (connection : Connection) :
    connection.unstocked.store?
      = connection.store?.map fun store => { store with entries := Table.empty } := by
  unfold unstocked
  cases h : connection.store? with
  | none => exact h
  | some store => exact Attributes.get?_insert_self _ _ _

namespace World

variable (w : World) (c : ConnectionId)

theorem known_unstocked : w.unstocked.connections.Known c ↔ w.connections.Known c := by
  simp only [Registry.Known, Registry.size, unstocked, List.length_map]

theorem connection_unstocked : w.unstocked.connection c = (w.connection c).unstocked := by
  cases c with
  | zero => rfl
  | succ n =>
      show ((w.connections.rows.map Connection.unstocked)[n]?).getD default
        = ((w.connections.rows[n]?).getD default).unstocked
      rw [List.getElem?_map]
      cases w.connections.rows[n]? with
      | none => rfl
      | some connection => rfl

theorem closed_unstocked : (w.unstocked.connection c).closed = (w.connection c).closed := by
  rw [connection_unstocked, Connection.unstocked]
  split <;> rfl

theorem frame_unstocked : (w.unstocked.connection c).frame = (w.connection c).frame := by
  rw [connection_unstocked, Connection.frame_unstocked]

theorem store_unstocked :
    w.unstocked.store c = { w.store c with entries := Table.empty } := by
  rw [store, connection_unstocked, Connection.store?_unstocked, store]
  cases (w.connection c).store? with
  | none => rfl
  | some store => rfl

/-- Emptying stores changes nothing else. -/
theorem later_unstocked : w.Later w.unstocked where
  connections c hc := ⟨(w.known_unstocked c).mpr hc, w.frame_unstocked c⟩
  stored c hc := by
    rw [connection_unstocked, Connection.store?_unstocked, Option.isSome_map]
    exact hc
  drained c hc := by
    rw [store_unstocked]
    exact hc
  ready c _ hr := by
    refine hr.congr (w.frame_unstocked c) (fun _ _ => rfl) fun hc => ?_
    rw [store_unstocked]
    exact hc
  caches _ hk := ⟨hk, rfl⟩
  statements _ hk := ⟨hk, rfl, fun h => h⟩
  journal := ⟨[], (List.append_nil _).symm⟩
  pools _ hp := hp

theorem answered_unstocked {position : Nat} {call : Call} {handle : Statement} :
    w.unstocked.Answered c position call handle ↔ w.Answered c position call handle := by
  have hframe := w.frame_unstocked c
  unfold Answered
  rw [Connection.chain_of_frame hframe, Connection.physical_of_frame hframe]
  rfl

end World

/-! ## Faithful scenes -/

namespace Scene

variable {S S' : Scene} {method : Method}

/-- **What holds of the scenes of a client without caches of its own**, with even connections
faithful. -/
structure Honest (method : Method) (S : Scene) : Prop where
  wired : S.Wired
  traced : S.Traced
  own : S.own = []
  sourced : S.Sourced
  faithful : S.Faithful method

theorem Turn.honest (h : Turn S S') (hp : method.prepares = true) (hS : S.Honest method) :
    S'.Honest method where
  wired := (h.later_and_wired hS.wired).2
  traced := h.traced hS.wired hS.traced
  own := h.own.trans hS.own
  sourced := h.sourced hS.wired hS.traced hS.own hS.sourced
  faithful := by
    have hlater := (h.later_and_wired hS.wired).1
    -- what starts and closes pools leaves the links of chains alone
    have hkept : (∀ {c position call handle}, S'.world.Left c position call handle →
        S.world.Left c position call handle) → S'.Faithful method := by
      refine fun hleft => ⟨fun {c position call handle} he hm hl => ?_⟩
      obtain ⟨hc, -, hk⟩ := hS.traced.left (hleft hl)
      have hframe := (hlater.connections c hc).2
      have hprepared := hS.faithful.left (he.congr (Connection.chain_of_frame hframe).symm) hm
        (hleft hl)
      exact hprepared.later hlater hc hk
    cases h with
    | step h => exact h.faithful hS.wired hS.traced hS.sourced hp hS.faithful
    | found _ => exact hkept fun hl => hl
    | @count p _ hn _ =>
        rw [S.world.startCounting_of_none hn] at hkept ⊢
        exact hkept fun hl => hl
    | close _ _ => exact hkept fun hl => hl
    | uncount _ => exact hkept fun hl => hl

theorem Turns.honest (h : Turns S S') (hp : method.prepares = true) (hS : S.Honest method) :
    S'.Honest method := by
  induction h with
  | refl => exact hS
  | tail _ hturn ih => exact hturn.honest hp ih

theorem honest_nothing : nothing.Honest method where
  wired := wired_nothing
  traced := sound_nothing.traced
  own := rfl
  sourced := sourced_nothing
  faithful.left _ _ hl := by
    obtain ⟨notice, hm, -⟩ := hl
    exact absurd hm List.not_mem_nil

/-- **Every statement that a call is answered with was prepared for the call.** -/
theorem Honest.perform (hS : S.Honest method) (hp : method.prepares = true) {c : ConnectionId}
    (he : (S.world.connection c).Even method) {call : Call} (hm : call.method = method)
    {handle : Statement} (h : (S.world.perform c call).2 = .ok (.statement handle)) :
    (S.world.perform c call).1.PreparedFor c 0 call handle
      ∧ ((S.world.perform c call).1.connection c).frame = (S.world.connection c).frame := by
  obtain ⟨hsteps, hanswered⟩ := steps_perform hS.wired c call
  have hc : S.world.connections.Known c := by
    by_contra hc
    rw [S.world.perform_of_not_known hc] at h
    exact nomatch h
  have hframe := ((hsteps.later_and_wired hS.wired).1.connections c hc).2
  obtain ⟨call', -, hcall, ha⟩ := hanswered handle h
  rw [hcall (by rw [hm]; exact hp)] at ha
  have hend := hsteps.turns.honest hp hS
  have heven := he.congr (Connection.chain_of_frame hframe)
  exact ⟨hend.faithful.answered heven hm ha, hframe⟩

/-- What is reached after some steps was reached before, or the driver made it on the way. -/
theorem Steps.targets (h : Steps S S') (hS : S.Wired) {id : StatementId} (hid : id ∈ S'.targets) :
    id ∈ S.targets ∨ ¬ S.world.driver.statements.Known id := by
  induction h with
  | refl => exact Or.inl hid
  | tail hsteps hstep ih =>
      obtain ⟨hlater, hwired⟩ := Steps.later_and_wired hsteps hS
      cases hstep.effect hwired with
      | kept ht _ _ =>
          rw [ht] at hid
          exact ih hid
      | made statement event ht _ _ _ _ =>
          rw [ht] at hid
          rcases Multiset.mem_cons.mp hid with rfl | hid
          · exact Or.inr fun hk => Registry.not_known_next _ (hlater.statements _ hk).1
          · exact ih hid
      | disposed _ ht _ _ | given _ ht _ _ _ =>
          apply ih
          rw [ht]
          exact Multiset.mem_cons_of_mem hid
      | shut _ _ ht _ _ =>
          rw [ht] at hid
          exact ih hid

/-- **The scene with every store emptied** and nothing out. -/
def unstocked (S : Scene) : Scene :=
  { S with world := S.world.unstocked, hands := 0 }

theorem targets_unstocked (S : Scene) : S.unstocked.targets = 0 := by
  refine Multiset.eq_zero_of_forall_notMem fun id hid => ?_
  rcases mem_targets.mp hid with ⟨_, hm, -⟩ | ⟨handle, hm, -⟩
  · exact absurd hm (Multiset.notMem_zero _)
  · rw [World.parkedHandles_eq_map] at hm
    obtain ⟨⟨c, key, tracked⟩, hm, -⟩ := Multiset.mem_map.mp hm
    have hget : (S.world.unstocked.store c).entries.get? key = some tracked :=
      World.mem_places.mp hm
    rw [World.store_unstocked] at hget
    exact nomatch hget

theorem Honest.unstocked (hS : S.Honest method) : S.unstocked.Honest method where
  wired := by
    have hempty : ∀ c, (S.world.unstocked.store c).entries.bag = 0 := fun c => by
      rw [World.store_unstocked]
      rfl
    refine hS.wired.reframe (fun c => S.world.known_unstocked c)
      (fun c => S.world.frame_unstocked c) S.world.later_unstocked (fun c _ => hempty c)
      (fun c _ => hempty c) fun c hc => ?_
    change (S.world.unstocked.connection c).closed = true at hc
    show _ ∨ (S.world.unstocked.store c).closed = true
    rw [World.store_unstocked]
    rw [World.closed_unstocked] at hc
    exact hS.wired.hung c hc
  traced :=
    { left := fun {c position call handle} hl => by
        obtain ⟨hc, hp, hk⟩ := hS.traced.left hl
        refine ⟨(S.world.known_unstocked c).mpr hc, ?_, hk⟩
        show position < (S.world.unstocked.connection c).chain.length
        rw [Connection.chain_of_frame (S.world.frame_unstocked c)]
        exact hp
      targets := by
        rw [targets_unstocked]
        exact fun _ hm => absurd hm (Multiset.notMem_zero _)
      loose := hS.traced.loose }
  own := hS.own
  sourced :=
    { hands := fun _ hm => absurd hm (Multiset.notMem_zero _)
      entries := fun {c key tracked} he => by
        change (S.world.unstocked.store c).entries.get? key = some tracked at he
        rw [World.store_unstocked] at he
        exact nomatch he
      obtained := by
        have hobtained : ∀ {c id}, S.world.unstocked.Obtained c id → S.world.Obtained c id :=
          fun {c id} ⟨position, call, handle, hp, ha, hid⟩ =>
            ⟨position, call, handle, hp, (S.world.answered_unstocked c).mp ha, hid⟩
        exact fun {c d id} hc hd => hS.sourced.obtained (hobtained hc) (hobtained hd) }
  faithful.left := fun {c position call handle} he hm hl => by
    obtain ⟨hc, -, hk⟩ := hS.traced.left hl
    have hchain := Connection.chain_of_frame (S.world.frame_unstocked c)
    exact (hS.faithful.left (he.congr hchain.symm) hm hl).later S.world.later_unstocked hc hk

/-- Where nothing is parked, a call is answered with a statement that the driver makes for it. -/
theorem Honest.fresh (hS : S.unstocked.Honest method) {c : ConnectionId} {call : Call}
    {handle : Statement} {id : StatementId}
    (h : (S.world.unstocked.perform c call).2 = .ok (.statement handle))
    (hid : handle.target? = some id) : ¬ S.world.driver.statements.Known id := by
  have hsteps := (steps_perform hS.wired c call).1
  have hm : handle ∈ Answer.hands (S.world.unstocked.perform c call).2 + S.unstocked.hands := by
    rw [h]
    exact Multiset.mem_add.mpr (Or.inl (Multiset.mem_singleton_self _))
  have hreached := hsteps.targets hS.wired (mem_targets_of_hands hm hid)
  rw [targets_unstocked] at hreached
  exact hreached.resolve_left (Multiset.notMem_zero _)

end Scene

namespace Session

variable {s : Session} {c : ConnectionId} {call : Call} {handle : Statement}

/-- **Stacked caches keep the meaning of a call.** A client without caches of its own, who may
have done anything before, makes a call that prepares on an even connection. The statement that it
gets, from the store or not, was prepared by the driver, on the line of the connection, for what
arrives there of the call when no cache answers. If all stores were empty, the driver would prepare
a new statement for the same. -/
theorem stacked_calls (hs : Reaches empty s) (hp : call.method.prepares = true)
    (he : (s.world.connection c).Even call.method)
    (h : (s.world.perform c call).2 = .ok (.statement handle)) :
    ∃ id made, handle.target? = some id
      ∧ ((s.world.perform c call).1.driver.statement id).origin
        = some ((s.world.connection c).physical, made)
      ∧ arrives? (s.world.connection c).chain call = some made
      ∧ ∀ handle', (s.world.unstocked.perform c call).2 = .ok (.statement handle') →
        ∃ id', handle'.target? = some id' ∧ ¬ s.world.driver.statements.Known id'
          ∧ ((s.world.unstocked.perform c call).1.driver.statement id').origin
            = some ((s.world.connection c).physical, made) := by
  obtain ⟨S, hturns, hdepicts⟩ := hs.inOrder inOrder_empty
  have hS := hturns.honest hp Scene.honest_nothing
  rw [← hdepicts.depicts.world] at he h ⊢
  obtain ⟨⟨id, made, hid, harrives, horigin⟩, hframe⟩ := hS.perform hp he rfl h
  rw [Connection.chain_of_frame hframe] at harrives
  rw [Connection.physical_of_frame hframe] at horigin
  refine ⟨id, made, hid, horigin, harrives, fun handle' h' => ?_⟩
  -- the same call, where nothing is parked
  have hempty := hS.unstocked
  have hsame := S.world.frame_unstocked c
  obtain ⟨⟨id', made', hid', harrives', horigin'⟩, hframe'⟩ :=
    hempty.perform hp (he.congr (Connection.chain_of_frame hsame)) rfl h'
  rw [Connection.chain_of_frame (hframe'.trans hsame)] at harrives'
  rw [Connection.physical_of_frame (hframe'.trans hsame)] at horigin'
  obtain rfl : made = made' := Option.some.inj (harrives.symm.trans harrives')
  exact ⟨id', hid', hempty.fresh h' hid', horigin'⟩

/-- A client has prepared statements and closed their handles. -/
def parking (request : PoolRequest) (calls : List (Name × Call)) : Session :=
  empty.runAll
    (.pool (.start "p" request) :: .pool (.checkOut "p" "g") ::
      calls.map (fun entry => .connection (.prepare "g" entry.2 (some entry.1)))
        ++ calls.map (fun entry => .statement (.close entry.1)))

/-- A call with the argument that is appended to calls. -/
def flagged : Call := ⟨.prepareStatement, [.text "SELECT 1", .int 7]⟩

/-- A pool with two caches, in front of which an argument is appended. -/
def layered : PoolRequest :=
  { interceptors := [{ name := "flag", role := .appendFlag none },
      { name := "outer", role := .cache false }, { name := "between", role := .trace },
      { name := "inner", role := .cache false }] }

/-- Behind the link in front, every link hands a call on as it is. -/
theorem even_layered :
    ((parking layered [("a", selection)]).world.connection 1).Even .prepareStatement := by
  have hchain : ((parking layered [("a", selection)]).world.connection 1).chain
      = [⟨"flag", .appendFlag none⟩, ⟨cachingName, .cache 3⟩, ⟨"between", .trace⟩,
        ⟨cachingName, .cache 4⟩] := by rfl
  constructor
  · rw [hchain]
    rintro interceptor hm ⟨scope, hr, -⟩
    simp only [List.mem_cons, List.not_mem_nil, or_false] at hm
    obtain rfl | rfl | rfl | rfl := hm <;> exact nomatch hr
  · intro i q j k k' interceptor _ _ hiq _ hq call _
    rw [hchain] at hq
    match q with
    | 0 => exact absurd hiq (Nat.not_lt_zero i)
    | 1 | 2 | 3 =>
        cases hq
        rfl
    | q + 4 => exact nomatch hq

/-- A facade of the cache `outer` before one of the cache `inner`. -/
def doubled (outer inner : CacheId) (call call' : Call) (id : StatementId) : Statement :=
  .facade (CacheKey.ofCall? call) outer (.facade (CacheKey.ofCall? call') inner (.physical id))

/-- The statement that was parked is handed out again. It was prepared with the appended argument,
as the one would be that the driver would prepare if nothing were parked. -/
theorem stacked_calls_layered :
    ((parking layered [("a", selection)]).world.perform 1 selection).2
        = .ok (.statement (doubled 3 4 flagged flagged 1))
      ∧ (((parking layered [("a", selection)]).world.perform 1 selection).1.driver.statement
          1).origin = some (1, flagged)
      ∧ ∃ id, (doubled 3 4 flagged flagged 2).target? = some id
        ∧ ¬ (parking layered [("a", selection)]).world.driver.statements.Known id
        ∧ (((parking layered [("a", selection)]).world.unstocked.perform 1
            selection).1.driver.statement id).origin = some (1, flagged) := by
  have hreaches : Reaches empty (parking layered [("a", selection)]) :=
    Reaches.runAll (by simp) .refl
  have hhandle : ((parking layered [("a", selection)]).world.perform 1 selection).2
      = .ok (.statement (doubled 3 4 flagged flagged 1)) := by rfl
  obtain ⟨id, made, hid, horigin, harrives, hempty⟩ :=
    stacked_calls hreaches (by rfl) even_layered hhandle
  obtain rfl : 1 = id := Option.some.inj hid
  obtain rfl : flagged = made := Option.some.inj harrives
  exact ⟨hhandle, horigin, hempty (doubled 3 4 flagged flagged 2) (by rfl)⟩

/-- A pool with two caches, between which an argument is appended. -/
def mixed : PoolRequest :=
  { interceptors := [{ name := "outer", role := .cache false },
      { name := "flag", role := .appendFlag none }, { name := "inner", role := .cache false }] }

/-- Of two statements prepared for one call, one is parked by each cache. The outer cache finds the
one that the inner cache has parked under another call, which the driver prepared for one argument
less than it would be asked for if nothing were parked. -/
theorem stacked_mixed_up :
    ((parking mixed [("a", selection), ("b", selection)]).world.perform 1 flagged).2
        = .ok (.statement (.facade (CacheKey.ofCall? flagged) 4 (.physical 2)))
      ∧ (((parking mixed [("a", selection), ("b", selection)]).world.perform 1
          flagged).1.driver.statement 2).origin = some (1, flagged)
      ∧ ((parking mixed [("a", selection), ("b", selection)]).world.unstocked.perform 1 flagged).2
        = .ok (.statement (doubled 3 4 flagged
          ⟨.prepareStatement, [.text "SELECT 1", .int 7, .int 7]⟩ 3))
      ∧ (((parking mixed [("a", selection), ("b", selection)]).world.unstocked.perform 1
          flagged).1.driver.statement 3).origin
        = some (1, ⟨.prepareStatement, [.text "SELECT 1", .int 7, .int 7]⟩) :=
  ⟨by rfl, by rfl, by rfl, by rfl⟩

end Session

end ConnectionPool
