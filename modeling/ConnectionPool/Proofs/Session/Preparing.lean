import ConnectionPool.Proofs.Calls.Preparing
import ConnectionPool.Proofs.Closing.Sealed
import ConnectionPool.Proofs.Holding.Clients
import ConnectionPool.Proofs.Session.Admission
import ConnectionPool.Proofs.Session.Offering
import Mathlib.Algebra.Order.BigOperators.Group.Finset

/-!
# Preparing is safe under failures

In any state that a client comes to, a call that prepares comes to the only cache of a chain.
However it ends there, it is safe (`World.Safe`), what was found for it has left the store and given
its slot back (`World.Consumed`), and nobody else notices: what any handle reaches, and what is
still parked, is not touched (`Session.preparing_safe`). Any other call, and one that does not come
to the cache, is answered as if there were no cache.

What the cache closes is a statement of the driver: behind the only cache of a chain no link puts a
facade before anything (`Scene.Uncovered`), so that nothing else gets into the store unless a client
has caches of its own.
-/

set_option autoImplicit false

namespace ConnectionPool

theorem Statement.eq_physical_of_layers {handle : Statement} {id : StatementId}
    (hl : handle.layers = []) (hid : handle.target? = some id) : handle = .physical id := by
  cases handle with
  | physical other => rw [Option.some.inj hid]
  | facade key k inner => cases hl
  | spent => cases hid

namespace Scene

variable {S S' : Scene} {c : ConnectionId} {position : Nat} {k : CacheId}

/-- **No facade leaves a link behind the only cache** of a chain. -/
def Uncovered (S : Scene) : Prop :=
  ∀ c position q k call handle, (S.world.connection c).caches = [k] →
    (S.world.connection c).cacheAt? position = some k → position < q →
    S.world.Left c q call handle → handle.layers = []

theorem Uncovered.answered (hu : S.Uncovered) (honly : (S.world.connection c).caches = [k])
    (hlink : (S.world.connection c).cacheAt? position = some k) {q : Nat} (hq : position < q)
    {call : Call} {handle : Statement} (ha : S.world.Answered c q call handle) :
    handle.layers = [] := by
  obtain hl | ⟨-, id, rfl, -⟩ := ha
  · exact hu c position q k call handle honly hlink hq hl
  · rfl

theorem Turn.uncovered (h : Turn S S') (hS : S.Wired) (ht : S.Traced) (hu : S.Uncovered) :
    S'.Uncovered := by
  intro c position q k call handle honly hlink hq hl
  -- the chain is the one that the connection had before
  have hbefore : S.world.connections.Known c → (S.world.connection c).caches = [k]
      ∧ (S.world.connection c).cacheAt? position = some k := by
    intro hc
    have hframe := ((h.later_and_wired hS).1.connections c hc).2
    rw [← Connection.caches_of_frame hframe, ← Connection.cacheAt?_of_frame hframe]
    exact ⟨honly, hlink⟩
  have hkept : S.world.Left c q call handle → handle.layers = [] := fun hl =>
    have hchain := hbefore (ht.left hl).1
    hu c position q k call handle hchain.1 hchain.2 hq hl
  have hlinked : ∀ {interceptor}, (S.world.connection c).chain[q]? = some interceptor →
      S.world.connections.Known c := by
    intro interceptor hi
    refine S.world.known_of_chain_ne_nil fun hnil => ?_
    rw [hnil] at hi
    cases hi
  -- a cache would be the only one, which is further up
  have hnone : ∀ {interceptor k'}, (S.world.connection c).chain[q]? = some interceptor →
      interceptor.cache? ≠ some k' := by
    intro interceptor k' hi hk
    obtain ⟨honly, hlink⟩ := hbefore (hlinked hi)
    have hat := World.cacheAt?_of_link hi hk
    have hmem := (Connection.mem_caches _ k').mpr ⟨q, hat⟩
    rw [honly, List.mem_singleton] at hmem
    rw [hmem] at hat
    exact absurd (Connection.cacheAt?_inj (hS.nodup c) hlink hat) (Nat.ne_of_lt hq)
  cases h with
  | step h =>
      cases h.departs hl with
      | kept hl => exact hkept hl
      | supplied _ _ _ hh _ _ =>
          rw [hh]
          rfl
      | passed hi _ _ _ ha =>
          obtain ⟨honly, hlink⟩ := hbefore (hlinked hi)
          exact hu.answered honly hlink (Nat.lt_succ_of_lt hq) ha
      | covered hi hk _ _ _ _ => exact absurd hk (hnone hi)
      | found hi hk _ _ _ _ _ => exact absurd hk (hnone hi)
  | @count p _ hn _ =>
      rw [S.world.startCounting_of_none hn] at hl
      exact hkept hl
  | _ => exact hkept hl

theorem Turns.uncovered (h : Turns S S') (hS : S.Sound) (hu : S.Uncovered) : S'.Uncovered := by
  induction h with
  | refl => exact hu
  | tail hturns hturn ih =>
      have hsound := Turns.sound hturns hS
      exact hturn.uncovered hsound.wired hsound.traced ih

theorem uncovered_nothing : nothing.Uncovered := by
  rintro c position q k call handle - - - ⟨notice, hm, -⟩
  exact absurd hm List.not_mem_nil

/-- **What is parked by the only cache of a chain is a statement of the driver.** -/
theorem Uncovered.bare_of_parked (hu : S.Uncovered) (hS : S.Wired) (hs : S.Sourced)
    (honly : (S.world.connection c).caches = [k]) {key : CacheKey} {tracked : Tracked}
    (hget : (S.world.store c).entries.get? key = some tracked) :
    ∃ id, tracked.delegate = .physical id := by
  have hshelved := hs.entries hget
  obtain ⟨id, hid⟩ := hshelved.target
  obtain ⟨⟨d, position, call, hsource⟩, -⟩ := hshelved.rooted
  have hmem := (Connection.mem_caches _ _).mpr ⟨position, hsource.link⟩
  obtain rfl := hS.apart hmem hshelved.cache
  have hk := hshelved.cache
  rw [honly, List.mem_singleton] at hk
  have hlink := hsource.link
  rw [hk] at hlink
  exact ⟨id, Statement.eq_physical_of_layers
    (hu.answered honly hlink (Nat.lt_succ_self _) hsource.answered) hid⟩

end Scene

namespace World

variable {w v looked : World} {c : ConnectionId} {position : Nat} {k : CacheId} {call : Call}
  {answer : Answer} {tracked : Tracked} {found : Option Tracked}

/-- **What was found for a call is used up**: it was parked under the key of the call, where it is
no more, and the slot of it is given back. The counter was not at zero then, if it was exact. -/
structure Consumed (w : World) (k : CacheId) (call : Call) (tracked : Tracked) (v : World)
    (key : CacheKey) (binding : Binding) : Prop where
  keyed : (w.cache k).policy.keyFor call = some key
  bound : (w.cache k).binding = some binding
  parked : (w.store binding.connection).entries.get? key = some tracked
  store : v.store binding.connection = ((w.store binding.connection).remove key).recordHit
  slot : ∀ n, binding.counter = some n → (v.counter n).count = (w.counter n).count - 1
    ∧ ∀ p, (w.connection binding.connection).pool = p → w.Counts p n → 0 < (w.counter n).count

/-- A pool that has something parked has a counter that is not at zero. -/
theorem Counts.pos {p : PoolId} {n : CounterId} (h : w.Counts p n)
    (hp : (w.connection c).pool = p) {key : CacheKey}
    (hget : (w.store c).entries.get? key = some tracked) : 0 < (w.counter n).count := by
  have hc : w.connections.Known c := by
    by_contra hc
    rw [World.store, World.connection, Registry.get_of_not_known hc] at hget
    cases hget
  have hmem : c ∈ w.connectionsOf p :=
    Finset.mem_filter.mpr ⟨(w.mem_everyConnection c).mpr hc, hp⟩
  have hsize : 0 < (w.store c).size := by
    rw [Store.size, ← Table.card_bag]
    exact Multiset.card_pos_iff_exists_mem.mpr ⟨⟨key, tracked⟩, (Table.mem_bag _ _ _).mpr hget⟩
  rw [h.exact]
  exact hsize.trans_le
    (Finset.single_le_sum (f := fun d => (w.store d).size) (fun _ _ => Nat.zero_le _) hmem)

/-- What is parked after a call that was safe was parked before. -/
theorem Safe.parks (h : w.Safe c position k call v answer) {d : ConnectionId} {key : CacheKey}
    {id : StatementId} (hp : v.Parks d key id) : w.Parks d key id := by
  obtain ⟨looked, hlooks, hrest⟩ := h.books
  obtain ⟨tracked, hget, hid⟩ := hp
  rw [hrest] at hget
  exact ⟨tracked, hlooks.entry hget, hid⟩

/-- What a look-up finds is used up. -/
theorem Looks.consumed (h : w.Looks k call looked (some tracked)) (hm : w.Moored k)
    (hrest : v = { looked with
      driver := v.driver, wrapFaults := v.wrapFaults, journal := v.journal }) :
    ∃ key binding, w.Consumed k call tracked v key binding := by
  generalize hfound : some tracked = found at h
  cases h with
  | unasked _ => cases hfound
  | missed _ _ _ => cases hfound
  | @found key binding _ hkey hb hget =>
      cases hfound
      obtain ⟨hc, hn⟩ := hm binding hb
      refine ⟨key, binding, hkey, hb, hget, ?_, fun n hbn => ⟨?_, fun p hp hcounts =>
        hcounts.pos hp hget⟩⟩
      · have hstore : v.store binding.connection
            = (w.found binding key).store binding.connection := by
          rw [hrest]
          rfl
        rw [hstore, World.store, connection_found]
        exact w.store_setStore_self hc _
      · have hcounter : v.counter n = (w.found binding key).counter n := by
          rw [hrest]
          rfl
        rw [hcounter, World.found, hbn]
        exact congrArg Counter.count
          ((counter_updateCounter _ n _ n).trans (if_pos ⟨rfl, hn n hbn⟩))

end World

namespace Session

variable {s : Session} {w v : World} {c : ConnectionId} {position : Nat} {k : CacheId} {call : Call}
  {answer : Answer} {tracked : Tracked}

/-- **Nobody else notices**: whatever the driver touches is closed in the end, or is what the caller
gets, and it is nothing that the client held before or that is still parked. -/
def Discreet (s : Session) (v : World) (answer : Answer) : Prop :=
  s.world.driver.Touches (fun id =>
    ((v.driver.statement id).closed = true
      ∨ ∃ handle, answer = .ok (.statement handle) ∧ handle.target? = some id)
    ∧ (∀ handle ∈ s.holdings, handle.target? ≠ some id)
    ∧ ∀ d key, ¬ v.Parks d key id) v.driver

/-- **A call that was safe is noticed by nobody else.** -/
theorem Distinct.discreet (hd : s.Distinct) (h : s.world.Safe c position k call v answer)
    (hused : ∀ tracked, s.world.finds? k call = some tracked →
      ∃ key binding, s.world.Consumed k call tracked v key binding) : s.Discreet v answer := by
  refine h.touches.mono fun id hid => ?_
  rcases hid with hnew | ⟨tracked, hfinds, hbreak, hid⟩
  · refine ⟨h.owned id hnew, fun handle hm ht => hnew ?_, fun d key hp => hnew ?_⟩
    · exact hd.known id ((Multiset.mem_filterMap _ _).mpr
        ⟨handle, Multiset.mem_add.mpr (Or.inl hm), ht⟩)
    · exact World.Distinct.known_of_parks hd (h.parks hp)
  · obtain ⟨key, binding, hconsumed⟩ := hused tracked hfinds
    have hparks : s.world.Parks binding.connection key id := ⟨tracked, hconsumed.parked, hid⟩
    refine ⟨Or.inl (h.spoils tracked id hfinds hbreak hid), fun handle hm ht => ?_,
      fun d key' hp => ?_⟩
    · exact World.Distinct.not_parks hd hm ht _ _ hparks
    · -- it would be parked where it was found
      obtain ⟨rfl, rfl⟩ := World.Distinct.parks_unique hd (h.parks hp) hparks
      obtain ⟨tracked', hget, -⟩ := hp
      rw [hconsumed.store] at hget
      have herased := Table.get?_erase (s.world.store binding.connection).entries key' key'
      rw [if_pos rfl] at herased
      exact absurd (herased.symm.trans hget) (Option.some_ne_none tracked').symm

/-- **Preparing is safe under failures.** In any state that a client comes to, take a connection
with one cache in its chain, whose facades may fail. If a call that prepares comes to the cache, and
what is parked for it is a statement of the driver, then however the call ends it is safe, what was
found is used up, and nobody else notices. A call that comes to the cache and does not prepare is
answered as the links behind the cache answer it, and a call that does not come to the cache is
answered plainly too: nothing but the driver is written to then. Unless the client has caches of its
own, what is parked for a call is a statement of the driver. -/
theorem preparing_safe (commands : List Command) {c : ConnectionId} {position : Nat} {k : CacheId}
    (hlink : ((empty.runAll commands).world.connection c).cacheAt? position = some k)
    (honly : ((empty.runAll commands).world.connection c).caches = [k]) :
    (∀ call call',
      comesThrough (((empty.runAll commands).world.connection c).chain.take position) call
        = some call' →
      (call'.method.prepares = true →
        (∀ tracked, (empty.runAll commands).world.finds? k call' = some tracked →
          ∃ id, tracked.delegate = .physical id) →
        (empty.runAll commands).world.Safe c position k call'
            ((empty.runAll commands).world.perform c call).1
            ((empty.runAll commands).world.perform c call).2
          ∧ (∀ tracked, (empty.runAll commands).world.finds? k call' = some tracked →
            ∃ key binding, (empty.runAll commands).world.Consumed k call' tracked
              ((empty.runAll commands).world.perform c call).1 key binding)
          ∧ (empty.runAll commands).Discreet ((empty.runAll commands).world.perform c call).1
            ((empty.runAll commands).world.perform c call).2)
      ∧ (call'.method.prepares = false →
        (empty.runAll commands).world.Plain ((empty.runAll commands).world.perform c call).1
            ((empty.runAll commands).world.perform c call).2
          ∧ ((empty.runAll commands).world.perform c call).2
            = (empty.runAll commands).world.answerBehind c position call'))
    ∧ (∀ call,
      comesThrough (((empty.runAll commands).world.connection c).chain.take position) call = none →
      (empty.runAll commands).world.Plain ((empty.runAll commands).world.perform c call).1
        ((empty.runAll commands).world.perform c call).2)
    ∧ ((∀ c, .cache c ∉ commands) → ∀ call tracked,
      (empty.runAll commands).world.finds? k call = some tracked →
        ∃ id, tracked.delegate = .physical id) := by
  have hd := distinct_runAll commands
  have hmoored := moored_runAll commands k
  refine ⟨fun call call' hthrough => ⟨fun hp hbare => ?_, fun hp => ?_⟩,
    fun call hthrough => World.plain_perform hlink honly hthrough, fun hc call tracked hfinds => ?_⟩
  · have hsafe := World.safe_perform hlink honly hthrough hp fun tracked hfinds => by
      obtain ⟨id, hid⟩ := hbare tracked hfinds
      obtain ⟨key, binding, -, -, hget⟩ := World.parked_of_finds? hfinds
      exact ⟨id, hid, World.Distinct.known_of_parks hd ⟨tracked, hget, by rw [hid]; rfl⟩⟩
    have hused : ∀ tracked, (empty.runAll commands).world.finds? k call' = some tracked →
        ∃ key binding, (empty.runAll commands).world.Consumed k call' tracked
          ((empty.runAll commands).world.perform c call).1 key binding := by
      intro tracked hfinds
      obtain ⟨looked, hlooks, hrest⟩ := hsafe.books
      rw [hfinds] at hlooks
      exact hlooks.consumed hmoored hrest
    exact ⟨hsafe, hused, hd.discreet hsafe hused⟩
  · exact World.plain_perform_through hlink honly hthrough hp
  · obtain ⟨S, hturns, h⟩ := keeps_empty.runAll hc
    have hS := h.sound.wired
    have hs := hturns.sourced Scene.sound_nothing Scene.sourced_nothing
    have hu := hturns.uncovered Scene.sound_nothing Scene.uncovered_nothing
    obtain ⟨key, binding, -, hb, hget⟩ := World.parked_of_finds? hfinds
    rw [← h.depicts.world] at hlink honly hb hget
    obtain rfl := hS.binding_connection ((Connection.mem_caches _ k).mpr ⟨position, hlink⟩) hb
    exact hu.bare_of_parked hS hs honly hget

/-- A client prepares a statement, closes its handle, and prepares another one; from then on the
next two facades fail. -/
def spoiling : List Command :=
  [.pool (.start "p" { interceptors := [{ name := "cache", role := .cache true }] }),
    .pool (.checkOut "p" "g"), .connection (.prepare "g" selection (some "a")),
    .statement (.close "a"),
    .connection (.prepare "g" ⟨.prepareStatement, [.text "SELECT 2"]⟩ (some "b")),
    .switch (.wrap 2)]

/-- The statement that is found and the one that is made instead of it are both closed, the failure
is reported, the slot is given back, and the other handle still reaches an open statement. Asking
whether the connection is valid involves the cache in nothing. -/
theorem preparing_safe_spoiling :
    (empty.runAll spoiling).world.finds? 2 selection
        = some ⟨some ⟨.prepared, selection.args⟩, 2, .physical 1⟩
      ∧ ((empty.runAll spoiling).world.perform 1 selection).2 = .error (.driver World.wrapFailed)
      ∧ (((empty.runAll spoiling).world.perform 1 selection).1.driver.statement 1).closed = true
      ∧ (((empty.runAll spoiling).world.perform 1 selection).1.driver.statement 3).closed = true
      ∧ (((empty.runAll spoiling).world.perform 1 selection).1.driver.statement 2).closed = false
      ∧ (((empty.runAll spoiling).world.perform 1 selection).1.counter 1).count = 0
      ∧ (empty.runAll spoiling).Discreet ((empty.runAll spoiling).world.perform 1 selection).1
        (.error (.driver World.wrapFailed))
      ∧ ((empty.runAll spoiling).world.perform 1 ⟨.isValid, []⟩).2 = .ok (.truth true) := by
  have hc : ∀ c, .cache c ∉ spoiling := by simp [spoiling]
  have hfinds : (empty.runAll spoiling).world.finds? 2 selection
      = some ⟨some ⟨.prepared, selection.args⟩, 2, .physical 1⟩ := by rfl
  have hbreaks : (empty.runAll spoiling).world.Breaks 2 0 := ⟨by rfl, by decide⟩
  have hagain : (empty.runAll spoiling).world.Breaks 2
      ((empty.runAll spoiling).world.tries 2 selection) := ⟨by rfl, by decide⟩
  have hbehind : (empty.runAll spoiling).world.answerBehind 1 0 selection
      = .ok (.statement (.physical 3)) := by rfl
  obtain ⟨hthrough, -, hbare⟩ := @preparing_safe spoiling 1 0 2 (by rfl) (by rfl)
  obtain ⟨hsafe, hused, hdiscreet⟩ :=
    (hthrough selection selection (by rfl)).1 (by rfl) (hbare hc selection)
  obtain ⟨hanswer, id, hid, -, -, hclosed⟩ := hsafe.breaks (Or.inr hbreaks) _ hbehind hagain
  cases hid
  obtain ⟨key, binding, hconsumed⟩ := hused _ hfinds
  have hbinding : binding = ⟨1, some 1⟩ := Option.some.inj (hconsumed.bound.symm.trans (by rfl))
  rw [hanswer] at hdiscreet
  refine ⟨hfinds, hanswer, hsafe.spoils _ 1 hfinds hbreaks rfl, hclosed, by rfl, ?_, hdiscreet, ?_⟩
  · rw [(hconsumed.slot 1 (by rw [hbinding])).1]
    rfl
  · exact ((hthrough ⟨.isValid, []⟩ ⟨.isValid, []⟩ (by rfl)).2 (by rfl)).2.trans (by rfl)

end Session

end ConnectionPool
