import ConnectionPool.Proofs.Scene.Whereabouts

/-!
# The count of admitted statements

The counter that serves a pool counts the statements parked on the connections of that pool,
and the slots that are still to be given back (`Exact`). It does so from the moment at which the
pool gets it, also after the pool has closed and the counter was taken away from it: what ties
counter and pool together is not the pool but the caches, each of which counts with the counter
of the pool whose connection it is attached to (`Serves`).
-/

set_option autoImplicit false

namespace ConnectionPool

namespace World

/-- How many statements are parked on the connections of a pool. -/
def parkedIn (w : World) (p : PoolId) : Nat :=
  w.total fun c store => if (w.connection c).pool = p then store.size else 0

theorem parkedIn_congr {w w' : World} {p : PoolId}
    (hs : w'.connections.size = w.connections.size)
    (hp : ∀ c, w.connections.Known c → (w'.connection c).pool = (w.connection c).pool)
    (hz : ∀ c, w.connections.Known c → (w'.store c).size = (w.store c).size) :
    w'.parkedIn p = w.parkedIn p :=
  total_congr hs fun c hc => by rw [hp c hc, hz c hc]

theorem pool_setStore (w : World) (c : ConnectionId) (store : Store) (d : ConnectionId) :
    ((w.setStore c store).connection d).pool = (w.connection d).pool :=
  Connection.pool_of_frame (w.frame_setStore c store d)

theorem parkedIn_setStore {w : World} {c : ConnectionId} (hc : w.connections.Known c)
    (store : Store) (p : PoolId) :
    (w.setStore c store).parkedIn p + (if (w.connection c).pool = p then (w.store c).size else 0)
      = w.parkedIn p + (if (w.connection c).pool = p then store.size else 0) := by
  have h := w.total_setStore hc store fun d store =>
    if (w.connection d).pool = p then store.size else 0
  have he : (w.setStore c store).parkedIn p
      = (w.setStore c store).total fun d store =>
        if (w.connection d).pool = p then store.size else 0 := by
    rw [parkedIn]
    simp only [w.pool_setStore]
  rw [he]
  exact h

/-- A connection that is opened has nothing parked. -/
theorem parkedIn_register (w : World) (p : PoolId) {connection : Connection}
    (hc : connection.store? = none) :
    ({ w with connections := w.connections.register connection } : World).parkedIn p
      = w.parkedIn p := by
  have htotal := w.total_register connection fun d store =>
    if ((w.connections.register connection).get d).pool = p then store.size else 0
  have hsize : (default : Store).size = 0 := rfl
  rw [hc, Option.getD_none, hsize, ite_self, add_zero] at htotal
  refine htotal.trans (total_congr rfl fun d hd => ?_)
  rw [Registry.get_register_of_known _ hd, ← World.connection]

theorem parkedIn_releaseSlot (w : World) (n : Option CounterId) (p : PoolId) :
    (w.releaseSlot n).parkedIn p = w.parkedIn p := by
  cases n <;> rfl

theorem counter_releaseSlot (w : World) {n : CounterId} (hn : w.counters.Known n)
    (m : Option CounterId) :
    ((w.releaseSlot m).counter n).count
      = if m = some n then (w.counter n).count - 1 else (w.counter n).count := by
  cases m with
  | none => rfl
  | some m =>
      rw [releaseSlot, counter_updateCounter]
      by_cases h : m = n
      · subst h
        rw [if_pos ⟨rfl, hn⟩, if_pos rfl]
        rfl
      · rw [if_neg fun h' => h h'.1, if_neg fun h' => h (Option.some.inj h')]

end World

theorem Store.size_erase {store store' : Store} {key : CacheKey} {tracked : Tracked}
    (h : store.entries.get? key = some tracked) (he : store'.entries = store.entries.erase key) :
    store'.size + 1 = store.size := by
  rw [size, he, Table.size_erase]
  · rfl
  · rw [Table.contains_eq_isSome_get?, h]
    rfl

theorem Store.size_park (store : Store) {key : CacheKey} (tracked : Tracked)
    (h : store.entries.get? key = none) : (store.park key tracked).size = store.size + 1 := by
  show (store.entries.insert key tracked).size = store.entries.size + 1
  rw [Table.size_insert, (Table.contains_eq_false_iff _ _).mpr h]
  rfl

namespace Scene

variable {S S' : Scene} {p : PoolId} {n : CounterId} {Fits : CachePolicy → Prop}

/-- Every counter that a pool or a cache refers to was made. -/
structure Numbered (S : Scene) : Prop where
  pools : ∀ {q m}, (S.world.pool q).counter? = some m → S.world.counters.Known m
  caches : ∀ {k binding m}, (S.world.cache k).binding = some binding →
    binding.counter = some m → S.world.counters.Known m

/-- **A counter serves a pool**: the pool has it, or had it until it was closed; no other pool
does; and a cache counts with it exactly while attached to a connection of the pool. -/
structure Serves (S : Scene) (p : PoolId) (n : CounterId) : Prop where
  pool : S.world.pools.Known p
  counter : S.world.counters.Known n
  own : (S.world.pool p).counter? = some n
    ∨ ((S.world.pool p).closed = true ∧ (S.world.pool p).counter? = none)
  other : ∀ q, (S.world.pool q).counter? = some n → q = p
  caches : ∀ {k binding}, (S.world.cache k).binding = some binding →
    ((S.world.connection binding.connection).pool = p ↔ binding.counter = some n)

/-- **The count is exact**: it is that of the parked statements and of the slots still to be
given back. -/
def Exact (S : Scene) (p : PoolId) (n : CounterId) : Prop :=
  (S.world.counter n).count = S.world.parkedIn p + S.owed.count (some n)

/-- A cache may be attached to a connection of a pool. -/
def Eligible (S : Scene) (p : PoolId) (k : CacheId) : Prop :=
  k ∈ S.own ∨ ∃ c, (S.world.connection c).pool = p ∧ k ∈ (S.world.connection c).caches

/-- **What a turn does to the slots of a pool.** -/
inductive Flow (S S' : Scene) (p : PoolId) (n : CounterId) : Prop
  | kept (hn : (S'.world.counter n).count = (S.world.counter n).count)
      (hp : S'.world.parkedIn p + S'.owed.count (some n)
        = S.world.parkedIn p + S.owed.count (some n))
  | taken {k : CacheId} (hk : Eligible S p k)
      (hl : (S.world.counter n).count < (S.world.cache k).policy.limit)
      (hn : (S'.world.counter n).count = (S.world.counter n).count + 1)
      (hp : S'.world.parkedIn p + S'.owed.count (some n)
        = S.world.parkedIn p + S.owed.count (some n) + 1)
  | released (hn : (S'.world.counter n).count = (S.world.counter n).count - 1)
      (hp : S'.world.parkedIn p + S'.owed.count (some n) + 1
        = S.world.parkedIn p + S.owed.count (some n))

/-! ## What single changes do -/

/-- Only the books are changed, or nothing that a counter depends on. -/
theorem Flow.same (hc : S'.world.counters = S.world.counters) (ho : S'.owed = S.owed)
    (hs : S'.world.connections.size = S.world.connections.size)
    (hp : ∀ c, (S'.world.connection c).pool = (S.world.connection c).pool)
    (hz : ∀ c, (S'.world.store c).size = (S.world.store c).size) : Flow S S' p n := by
  refine .kept ?_ ?_
  · rw [World.counter, hc, ← World.counter]
  · rw [ho, World.parkedIn_congr hs (fun c _ => hp c) fun c _ => hz c]

/-- A cache takes a statement out of a store, and may give back its slot at once. -/
theorem Serves.parkedIn_take (h : Serves S p n) (hS : S.Wired) {k : CacheId} {binding : Binding}
    {key : CacheKey} {tracked : Tracked} {store : Store}
    (hb : (S.world.cache k).binding = some binding)
    (hf : (S.world.store binding.connection).entries.get? key = some tracked)
    (he : store.entries = (S.world.store binding.connection).entries.erase key) :
    (S.world.setStore binding.connection store).parkedIn p
        + (if binding.counter = some n then 1 else 0) = S.world.parkedIn p := by
  have hset := World.parkedIn_setStore (World.known_of_binding hS hb) store p
  have hsize := Store.size_erase hf he
  by_cases hc : binding.counter = some n
  · have hp := (h.caches hb).mpr hc
    rw [if_pos hp, if_pos hp] at hset
    rw [if_pos hc]
    omega
  · have hp := fun hp => hc ((h.caches hb).mp hp)
    rw [if_neg hp, if_neg hp] at hset
    rw [if_neg hc]
    omega

/-- A statement is parked, which takes a slot of the pool whose connection the cache is
attached to. -/
theorem Serves.flow_park (h : Serves S p n) (hS : S.Wired) {k : CacheId} {key : CacheKey}
    {tracked : Tracked} {c : ConnectionId} {m : CounterId}
    (hb : (S.world.cache k).binding = some ⟨c, some m⟩)
    (hl : (S.world.counter m).count < (S.world.cache k).policy.limit)
    (hf : (S.world.store c).entries.get? key = none)
    (hw : S'.world = (S.world.updateCounter m fun _ => ⟨(S.world.counter m).count + 1⟩).setStore c
      ((S.world.store c).park key tracked)) (ho : S'.owed = S.owed) : Flow S S' p n := by
  have hset : S'.world.parkedIn p + (if (S.world.connection c).pool = p then (S.world.store c).size
      else 0) = S.world.parkedIn p
        + (if (S.world.connection c).pool = p then (S.world.store c).size + 1 else 0) := by
    rw [hw, ← Store.size_park _ tracked hf]
    exact World.parkedIn_setStore (w := S.world.updateCounter m fun _ =>
      ⟨(S.world.counter m).count + 1⟩) (World.known_of_binding hS hb) _ p
  have hcount : (S'.world.counter n).count
      = if m = n then (S.world.counter n).count + 1 else (S.world.counter n).count := by
    rw [hw]
    show ((S.world.updateCounter m _).counter n).count = _
    rw [World.counter_updateCounter]
    by_cases hm : m = n
    · subst hm
      rw [if_pos ⟨rfl, h.counter⟩, if_pos rfl]
    · rw [if_neg fun hm' => hm hm'.1, if_neg hm]
  by_cases hm : m = n
  · subst hm
    have hp := (h.caches hb).mpr rfl
    have hk : Eligible S p k := (hS.bound hb).2.imp id fun hk => ⟨c, hp, hk⟩
    rw [if_pos hp, if_pos hp] at hset
    rw [if_pos rfl] at hcount
    exact .taken hk hl hcount (by rw [ho]; omega)
  · have hp : (S.world.connection c).pool ≠ p := fun hp =>
      hm (Option.some.inj ((h.caches hb).mp hp))
    rw [if_neg hp, if_neg hp] at hset
    rw [if_neg hm] at hcount
    exact .kept hcount (by rw [ho]; omega)

/-- A slot is given back. -/
theorem Serves.flow_repay (h : Serves S p n) {m : Option CounterId}
    {O : Multiset (Option CounterId)} (ho : S.owed = m ::ₘ O)
    (hw : S'.world = S.world.releaseSlot m) (ho' : S'.owed = O) : Flow S S' p n := by
  have hcount := S.world.counter_releaseSlot h.counter m
  have hparked := S.world.parkedIn_releaseSlot m p
  rw [← hw] at hcount hparked
  by_cases hm : m = some n
  · rw [if_pos hm] at hcount
    refine .released hcount ?_
    rw [ho, ho', hparked, hm, Multiset.count_cons_self]
    rfl
  · rw [if_neg hm] at hcount
    refine .kept hcount ?_
    rw [ho, ho', hparked, Multiset.count_cons_of_ne (Ne.symm hm)]

/-- A look-up finds a statement, and its slot is given back. -/
theorem Serves.flow_found (h : Serves S p n) (hS : S.Wired) {k : CacheId} {binding : Binding}
    {key : CacheKey} {tracked : Tracked} (hb : (S.world.cache k).binding = some binding)
    (hf : (S.world.store binding.connection).entries.get? key = some tracked)
    (hn : ∀ m, S'.world.counter m = (S.world.found binding key).counter m)
    (hp : S'.world.parkedIn p = (S.world.found binding key).parkedIn p)
    (ho : S'.owed = S.owed) : Flow S S' p n := by
  obtain ⟨store, hs⟩ : ∃ store,
    ((S.world.store binding.connection).remove key).recordHit = store := ⟨_, rfl⟩
  have hfound : S.world.found binding key
      = (S.world.setStore binding.connection store).releaseSlot binding.counter := by
    rw [← hs]
    rfl
  have htake := h.parkedIn_take hS hb hf (show store.entries = _ by rw [← hs]; rfl)
  have hcount := (S.world.setStore binding.connection store).counter_releaseSlot h.counter
    binding.counter
  have hparked := (S.world.setStore binding.connection store).parkedIn_releaseSlot
    binding.counter p
  rw [← hfound] at hcount hparked
  rw [← hn] at hcount
  rw [← hp] at hparked
  by_cases hc : binding.counter = some n
  · rw [if_pos hc] at hcount htake
    exact .released hcount (by rw [ho, hparked, ← htake]; omega)
  · rw [if_neg hc] at hcount htake
    exact .kept hcount (by rw [ho, hparked, ← htake, Nat.add_zero])

/-- A store is drained by a cache of its connection, which owes as many slots from then on. -/
theorem Serves.flow_drain (h : Serves S p n) (hS : S.Wired) {c : ConnectionId} {k : CacheId}
    (hk : k ∈ (S.world.connection c).caches)
    (hb : (∃ m, (S.world.cache k).binding = some ⟨c, m⟩) ∨ (S.world.store c).closed = true)
    (hw : S'.world = S.world.setStore c (S.world.store c).drained)
    (ho : S'.owed = Multiset.replicate (S.world.store c).size
      (S.world.countedBy k (S.world.connection c).pool) + S.owed) : Flow S S' p n := by
  have hset : S'.world.parkedIn p + (if (S.world.connection c).pool = p
      then (S.world.store c).size else 0) = S.world.parkedIn p := by
    have hset := World.parkedIn_setStore (World.known_of_mem_caches hk) (S.world.store c).drained p
    rw [hw, hset]
    split <;> rfl
  -- what the slots are owed to
  have howed : (Multiset.replicate (S.world.store c).size
      (S.world.countedBy k (S.world.connection c).pool)).count (some n)
        = if (S.world.connection c).pool = p then (S.world.store c).size else 0 := by
    obtain ⟨m, hb⟩ | hd := hb
    · have hcounted : S.world.countedBy k (S.world.connection c).pool
          = m.or (S.world.pool (S.world.connection c).pool).counter? := by
        rw [World.countedBy, hb]
        rfl
      have hiff : S.world.countedBy k (S.world.connection c).pool = some n
          ↔ (S.world.connection c).pool = p := by
        rw [hcounted]
        constructor
        · intro hc
          cases m with
          | none => exact h.other _ hc
          | some m => exact (h.caches hb).mpr hc
        · intro hp
          have hm : m = some n := (h.caches hb).mp hp
          rw [hm, Option.some_or]
      rw [Multiset.count_replicate]
      simp only [hiff]
    · have hsize : (S.world.store c).size = 0 := by
        rw [Store.size, ← Table.card_bag, hS.drained c hd, Multiset.card_zero]
      rw [hsize, Multiset.replicate_zero, Multiset.count_zero]
      split <;> rfl
  refine .kept (by rw [hw]; rfl) ?_
  rw [ho, Multiset.count_add, howed]
  omega

/-! ## Steps, turns and own turns -/

theorem Step.flow (h : Step S S') (hS : S.Wired) (hs : Serves S p n) : Flow S S' p n := by
  cases h with
  | book hw =>
      exact .same hw.counters rfl hw.connections_size
        (fun c => Connection.pool_of_frame (hw.frame c)) fun c => by rw [hw.store c]
  | use _ _ | shut _ | dispose _ | peel _ | lapse _ | spend | give _ _ | issue _ _ _
  | answer _ _ _ _ | passUp _ _ _ _ _ | fill _ _ _ _ _ | handOut _ _ _ _ _ | dial | cut _
  | misdial => exact .kept rfl rfl
  | hit call hl hk hb hkey hf => exact hs.flow_found hS hb hf (fun _ => rfl) rfl rfl
  | park h hb hn hc hf ht hr => exact hs.flow_park hS hb hn hf rfl rfl
  | @take k binding key tracked store hb hf he hc =>
      have htake := hs.parkedIn_take hS hb hf he
      refine .kept rfl ?_
      show (S.world.setStore binding.connection store).parkedIn p
        + (binding.counter ::ₘ S.owed).count (some n) = _
      rw [Multiset.count_cons, ← htake]
      simp only [eq_comm (a := some n)]
      omega
  | @tally c store he hc =>
      refine .same rfl rfl (Registry.size_modify _ _ _) (S.world.pool_setStore c store) fun d => ?_
      rw [World.store_setStore]
      split
      · next h => rw [Store.size, ← Table.card_bag, he, h.1, Table.card_bag, ← Store.size]
      · rfl
  | drain hk hb => exact hs.flow_drain hS hk hb rfl rfl
  | repay h => exact hs.flow_repay h rfl rfl
  | attach _ _ _ | detach _ => exact .kept rfl rfl
  | @hangUp c hk _ =>
      refine .same rfl rfl (Registry.size_modify _ _ _)
        (S.world.connection_updateConnection_congr c
          (fun connection => { connection with closed := true }) Connection.pool fun _ => rfl)
        fun d => ?_
      exact congrArg Store.size (S.world.store_setClosed c d)
  | connect metadata _ _ =>
      refine .kept rfl ?_
      exact congrArg (· + S.owed.count (some n)) (World.parkedIn_register { S.world with
        driver := S.world.driver.openConnection.1, caches := _ } p rfl)

theorem Turn.flow (h : Turn S S') (hS : S.Wired) (hs : Serves S p n) : Flow S S' p n := by
  cases h with
  | step h => exact h.flow hS hs
  | found _ => exact .kept rfl rfl
  | @count q ho hn _ =>
      rw [S.world.startCounting_of_none hn]
      refine .kept ?_ rfl
      show ((S.world.counters.register {}).get n).count = _
      rw [Registry.get_register_of_known _ hs.counter, ← World.counter]
  | close _ _ => exact .kept rfl rfl
  | uncount _ => exact .kept rfl rfl

theorem OwnTurn.flow (h : OwnTurn Fits S S') (hS : S.Wired) (hs : Serves S p n) :
    Flow S S' p n := by
  cases h with
  | turn h => exact h.flow hS hs
  | sort _ _ => exact .kept rfl rfl
  | adopt _ _ => exact .kept rfl rfl
  | offer h hb hn hc hf => exact hs.flow_park hS hb hn hf rfl rfl

end Scene

end ConnectionPool
