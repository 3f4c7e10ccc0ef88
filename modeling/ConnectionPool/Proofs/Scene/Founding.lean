import ConnectionPool.Proofs.Scene.Admission
import ConnectionPool.Proofs.Scene.Pooling

/-!
# How a pool gets its counter

A pool with a caching interceptor gets a counter when it starts, before it opens any connection,
and the counter serves it from then on (`admits_startPool`).
-/

set_option autoImplicit false

namespace ConnectionPool

namespace World

/-- A cache that is told that its pool has started makes sure that the pool has a counter. -/
theorem react_started {p : PoolId} {interceptor : Interceptor} {k : CacheId} (w : World)
    (hk : interceptor.cache? = some k) :
    react p interceptor .poolStarted w = w.startCounting p := by
  simp only [react, Interceptor.role_of_cache hk]

theorem startCounting_of_some {p : PoolId} {n : CounterId} {w : World}
    (h : (w.pool p).counter? = some n) : w.startCounting p = w := by
  rw [startCounting, h]

end World

namespace Scene

variable {S S' : Scene} {p : PoolId} {n : CounterId} {Fits : CachePolicy → Prop}

/-- **A caching pool that was just founded**: it is open, has no counter and no connection. -/
structure Founded (Fits : CachePolicy → Prop) (p : PoolId) (S : Scene) : Prop where
  wired : S.Wired
  numbered : Numbered S
  isOpen : (S.world.pool p).closed = false
  uncounted : (S.world.pool p).counter? = none
  caching : (S.world.pool p).config.Caching
  unconnected : ∀ c, S.world.connections.Known c → (S.world.connection c).pool ≠ p
  fitted : Fitted Fits S p
  owed : S.owed = 0

/-- **A pool that has a counter**, which serves it. -/
structure Counted (Fits : CachePolicy → Prop) (p : PoolId) (n : CounterId) (S : Scene) :
    Prop where
  wired : S.Wired
  counter : (S.world.pool p).counter? = some n
  admits : Admits Fits p n S

/-- A notice that a pool has started changes nothing else. -/
theorem ownTurn_started (Fits : CachePolicy → Prop) (S : Scene) (receiver : Receiver)
    (interceptor : Interceptor) (sight : Sight) :
    OwnTurn Fits S
      (S.inWorld (S.world.note receiver interceptor (.hook .poolStarted sight))) :=
  .turn (.step (steps_note S receiver interceptor fun _ _ h => nomatch h))

theorem Founded.note (h : Founded Fits p S) (receiver : Receiver) (interceptor : Interceptor)
    (sight : Sight) :
    Founded Fits p (S.inWorld (S.world.note receiver interceptor (.hook .poolStarted sight))) := by
  have hturn := ownTurn_started Fits S receiver interceptor sight
  exact
    { wired := (hturn.later_and_wired h.wired).2
      numbered := hturn.numbered h.numbered
      isOpen := h.isOpen
      uncounted := h.uncounted
      caching := h.caching
      unconnected := h.unconnected
      fitted := hturn.fitted h.wired (S.world.known_of_pool_open h.isOpen) h.fitted
      owed := h.owed }

theorem Counted.note (h : Counted Fits p n S) (receiver : Receiver) (interceptor : Interceptor)
    (sight : Sight) :
    Counted Fits p n
      (S.inWorld (S.world.note receiver interceptor (.hook .poolStarted sight))) := by
  have hturn := ownTurn_started Fits S receiver interceptor sight
  exact
    { wired := (hturn.later_and_wired h.wired).2
      counter := h.counter
      admits := hturn.admits h.wired h.admits }

/-- Nothing is parked in a pool without connections. -/
theorem Founded.parkedIn (h : Founded Fits p S) : S.world.parkedIn p = 0 := by
  rw [World.parkedIn, World.total]
  refine Finset.sum_eq_zero fun c hc => ?_
  exact if_neg (h.unconnected c ((S.world.mem_everyConnection c).mp hc))

/-- **The first cache gives a pool its counter.** -/
theorem Founded.count (h : Founded Fits p S) :
    Counted Fits p S.world.counters.next (S.inWorld (S.world.startCounting p)) := by
  have hturn : OwnTurn Fits S (S.inWorld (S.world.startCounting p)) :=
    .turn (.count h.isOpen h.uncounted h.caching)
  have hp := S.world.known_of_pool_open h.isOpen
  have hw := S.world.startCounting_of_none h.uncounted
  have hnew := S.world.counters.not_known_next
  have hcounters : (S.world.startCounting p).counters = S.world.counters.register {} := by
    rw [hw]
    rfl
  have hcount : ((S.world.startCounting p).counter S.world.counters.next).count = 0 := by
    rw [World.counter, hcounters, Registry.get_register_next]
  have hcounter : ((S.world.startCounting p).pool p).counter? = some S.world.counters.next := by
    rw [hw, World.pool_updatePool, if_pos ⟨rfl, hp⟩]
    exact Attributes.get?_insert_self _ _ _
  refine ⟨(hturn.later_and_wired h.wired).2, hcounter, ?_, ?_, ?_, Or.inl hcount⟩
  · refine ⟨(hturn.later_and_wired h.wired).1.pools p hp, ?_, Or.inl hcounter, fun q hq => ?_,
      fun {k binding} hb => ?_⟩
    · show (S.world.startCounting p).counters.Known _
      rw [hcounters]
      exact (Registry.known_register _ _ _).mpr (Or.inr rfl)
    · by_contra hne
      change ((S.world.startCounting p).pool q).counter? = _ at hq
      rw [hw, World.pool_updatePool, if_neg fun hpq => hne hpq.1.symm] at hq
      exact hnew (h.numbered.pools hq)
    · -- no cache is attached to a connection of the pool, or counts with the new counter
      change ((S.world.startCounting p).cache k).binding = some binding at hb
      show ((S.world.startCounting p).connection binding.connection).pool = p ↔ _
      rw [hw] at hb ⊢
      have hk := World.known_of_isSome_store? (h.wired.bound hb).1
      exact ⟨fun hpool => absurd hpool (h.unconnected _ hk),
        fun hcounter => absurd (h.numbered.caches hb hcounter) hnew⟩
  · have hparked : (S.world.startCounting p).parkedIn p = 0 := by
      rw [← h.parkedIn, hw]
      rfl
    show ((S.world.startCounting p).counter _).count
      = (S.world.startCounting p).parkedIn p + S.owed.count _
    rw [hcount, hparked, h.owed, Multiset.count_zero]
  · exact hturn.fitted h.wired hp h.fitted

/-! ## Telling the listeners -/

/-- What the listeners of a pool do when they are told that it has started. -/
def told (p : PoolId) (l : List (Interceptor × Nat)) (w : World) : World :=
  l.foldl (fun w entry =>
    World.deliver p .poolStarted (Receiver.listener p entry.2) entry.1 w) w

/-- A pool that has a counter keeps it. -/
theorem Counted.told (l : List (Interceptor × Nat)) :
    ∀ S : Scene, Counted Fits p n S → Counted Fits p n (S.inWorld (told p l S.world)) := by
  induction l with
  | nil => exact fun _ h => h
  | cons e l ih =>
      intro S h
      have hnoted := h.note (Receiver.listener p e.2) e.1 (S.world.sight p none)
      have hdeliver : World.deliver p .poolStarted (Receiver.listener p e.2) e.1 S.world
          = S.world.note (Receiver.listener p e.2) e.1
            (.hook .poolStarted (S.world.sight p none)) := by
        cases hk : e.1.cache? with
        | none => exact World.react_of_no_cache hk
        | some k =>
            rw [World.deliver, World.react_started _ hk]
            exact World.startCounting_of_some hnoted.counter
      rw [Scene.told, List.foldl_cons, hdeliver]
      exact ih _ hnoted

/-- **A pool with a cache among its listeners gets a counter.** -/
theorem Founded.told (l : List (Interceptor × Nat)) :
    ∀ S : Scene, Founded Fits p S → (∃ e ∈ l, e.1.cache?.isSome = true) →
      ∃ n, Counted Fits p n (S.inWorld (told p l S.world)) := by
  induction l with
  | nil => exact fun _ _ ⟨_, he, _⟩ => absurd he List.not_mem_nil
  | cons e l ih =>
      intro S h ⟨e', he', hcache⟩
      have hnoted := h.note (Receiver.listener p e.2) e.1 (S.world.sight p none)
      rw [Scene.told, List.foldl_cons]
      cases hk : e.1.cache? with
      | none =>
          have hdeliver : World.deliver p .poolStarted (Receiver.listener p e.2) e.1 S.world
              = S.world.note (Receiver.listener p e.2) e.1
                (.hook .poolStarted (S.world.sight p none)) := World.react_of_no_cache hk
          rw [hdeliver]
          refine ih _ hnoted ⟨e', (List.mem_cons.mp he').resolve_left ?_, hcache⟩
          rintro rfl
          rw [hk] at hcache
          exact nomatch hcache
      | some k =>
          rw [World.deliver, World.react_started _ hk]
          exact ⟨_, hnoted.count.told l⟩

/-- **A pool with a caching interceptor has a counter when it has started**, and the counter
serves it. -/
theorem counted_startPool (hS : S.Wired) (hn : Numbered S) (ho : S.owed = 0)
    (hown : ∀ k ∈ S.own, Fits (S.world.cache k).policy) {config : PoolConfig}
    (hfits : ∀ definition ∈ config.interceptors, ∀ fallible,
      definition.role = .cache fallible → Fits (.ofProperties definition.properties))
    (hcache : ∃ definition ∈ config.interceptors, ∃ fallible, definition.role = .cache fallible)
    {w : World} (h : S.world.startPool config = (w, .ok p)) :
    ∃ n, Counted Fits p n (S.inWorld w) := by
  obtain ⟨error, hstart⟩ | ⟨sources, hstart⟩ := S.world.startPool_cases config <;>
    rw [hstart] at h
  · exact nomatch h
  · have hlistens := World.exists_cache_of_makeInterceptors hcache S.world
    obtain ⟨rfl, hp⟩ := Prod.mk.inj h
    obtain rfl := Except.ok.inj hp
    have hturn : OwnTurn Fits S (S.inWorld (S.world.founded config sources)) :=
      .turn (.found (World.equipped_makeInterceptors config.interceptors S.world))
    have hpool := S.world.pool_founded_next config sources
    have hunconnected : ∀ c, S.world.connections.Known c →
        (S.world.connection c).pool ≠ S.world.pools.next :=
      fun c hc hp => S.world.pools.not_known_next (hp ▸ hS.pool_known c hc)
    have hfounded : Founded Fits S.world.pools.next (S.inWorld (S.world.founded config sources)) :=
      { wired := (hturn.later_and_wired hS).2
        numbered := hturn.numbered hn
        isOpen := by
          show ((S.world.founded config sources).pool _).closed = false
          rw [hpool]
        uncounted := by
          show ((S.world.founded config sources).pool _).counter? = none
          rw [hpool]
          rfl
        caching := by
          show ((S.world.founded config sources).pool _).config.Caching
          rw [hpool]
          exact hcache
        unconnected := hunconnected
        fitted := by
          refine ⟨?_, fun k hk => ?_⟩
          · show ∀ definition ∈ ((S.world.founded config sources).pool _).config.interceptors, _
            rw [hpool]
            exact hfits
          · rcases hk with hk | ⟨c, hc, hk⟩
            · have hkept := ((hturn.later_and_wired hS).1.caches k (hS.own_known k hk)).2
              show Fits ((S.inWorld (S.world.founded config sources)).world.cache k).policy
              rw [hkept]
              exact hown k hk
            · exact absurd hc (hunconnected c (World.known_of_mem_caches hk))
        owed := ho }
    rw [World.tellListeners, hpool]
    refine hfounded.told _ _ ?_
    obtain ⟨interceptor, hi, hc⟩ := hlistens
    obtain ⟨i, hi⟩ := List.mem_iff_getElem?.mp hi
    exact ⟨(interceptor, i), List.mk_mem_zipIdx_iff_getElem?.mpr hi, hc⟩

end Scene

end ConnectionPool
