import ConnectionPool.Pool.Checkout
import Mathlib.Tactic.Common

/-!
# Reading a world after writing to it

For every writing operation of a world and every thing that can be read from it, what is read
afterwards. A number that was never given out is not `Known`; writing to it does nothing, and
reading it gives the default thing.
-/

set_option autoImplicit false

namespace ConnectionPool

namespace Registry

variable {α : Type}

/-- A number that was given out. -/
def Known (r : Registry α) (n : Nat) : Prop := n ≠ 0 ∧ n ≤ r.size

instance (r : Registry α) (n : Nat) : Decidable (r.Known n) := inferInstanceAs (Decidable (_ ∧ _))

/-- Which numbers are known is a matter of the size. -/
theorem known_congr {β : Type} {r : Registry α} {r' : Registry β} (h : r'.size = r.size)
    (n : Nat) : r'.Known n ↔ r.Known n := by
  rw [Known, Known, h]

theorem known_iff_isSome_get? (r : Registry α) (n : Nat) :
    r.Known n ↔ (r.get? n).isSome = true := by
  rw [Option.isSome_iff_ne_none, Ne, get?_eq_none_iff]
  unfold Known
  omega

@[simp] theorem known_register (r : Registry α) (a : α) (n : Nat) :
    (r.register a).Known n ↔ r.Known n ∨ n = r.next := by
  simp only [Known, size_register, next]
  omega

@[simp] theorem known_modify (r : Registry α) (n : Nat) (f : α → α) (m : Nat) :
    (r.modify n f).Known m ↔ r.Known m := by
  simp [Known]

theorem not_known_next (r : Registry α) : ¬ r.Known r.next := by
  simp only [Known, next]
  omega

theorem not_known_empty (n : Nat) : ¬ ({} : Registry α).Known n := by
  rintro ⟨hn, hle⟩
  exact hn (Nat.le_zero.mp hle)

theorem next_ne {r : Registry α} {n : Nat} (h : r.Known n) : r.next ≠ n := by
  rintro rfl
  exact r.not_known_next h

/-- To change what was just registered is to register it changed. -/
theorem modify_register_next (r : Registry α) (a : α) (f : α → α) :
    (r.register a).modify r.next f = r.register (f a) :=
  congrArg mk (List.modifyTailIdx_add (List.modifyHead f) 0 r.rows [a])

variable [Inhabited α]

theorem get_of_not_known {r : Registry α} {n : Nat} (h : ¬ r.Known n) : r.get n = default := by
  rw [known_iff_isSome_get?, Option.not_isSome_iff_eq_none] at h
  rw [get, h, Option.getD_none]

@[simp] theorem get_register_next (r : Registry α) (a : α) : (r.register a).get r.next = a := by
  rw [get_register, if_pos rfl]

theorem get_register_of_known {r : Registry α} (a : α) {n : Nat} (h : r.Known n) :
    (r.register a).get n = r.get n := by
  rw [get_register, if_neg (next_ne h).symm]

theorem get_modify (r : Registry α) (n : Nat) (f : α → α) (m : Nat) :
    (r.modify n f).get m = if n = m ∧ r.Known m then f (r.get m) else r.get m := by
  by_cases hnm : n = m
  · subst hnm
    by_cases hk : r.Known n
    · rw [if_pos ⟨rfl, hk⟩, get_modify_self r f ((known_iff_isSome_get? r n).mp hk)]
    · rw [if_neg fun h => hk h.2, get_of_not_known hk, get_of_not_known (by simpa using hk)]
  · rw [if_neg fun h => hnm h.1, get_modify_of_ne r f hnm]

/-- What a change of one thing leaves alone is left alone everywhere. -/
theorem get_modify_congr {β : Type} (r : Registry α) (n : Nat) (f : α → α) (read : α → β)
    (h : ∀ a, read (f a) = read a) (m : Nat) : read ((r.modify n f).get m) = read (r.get m) := by
  rw [get_modify]
  split
  · exact h _
  · rfl

end Registry

namespace World

variable (w : World)

/-! ## Pools -/

theorem pool_updatePool (p : PoolId) (f : Pool → Pool) (q : PoolId) :
    (w.updatePool p f).pool q = if p = q ∧ w.pools.Known q then f (w.pool q) else w.pool q :=
  w.pools.get_modify p f q

/-- What a change of a pool leaves alone. -/
theorem pool_updatePool_congr {β : Type} (p : PoolId) (f : Pool → Pool) (read : Pool → β)
    (h : ∀ a, read (f a) = read a) (q : PoolId) :
    read ((w.updatePool p f).pool q) = read (w.pool q) :=
  w.pools.get_modify_congr p f read h q

theorem known_of_pool_open {p : PoolId} (h : (w.pool p).closed = false) : w.pools.Known p := by
  by_contra hp
  rw [pool, Registry.get_of_not_known hp] at h
  exact absurd h (by decide)

/-- A pool without a counter gets a new one. -/
theorem startCounting_of_none {p : PoolId} (h : (w.pool p).counter? = none) :
    w.startCounting p = ({ w with counters := w.counters.register {} } : World).updatePool p
      fun pool => { pool with
        attributes := pool.attributes.insert .counter w.counters.next } := by
  rw [startCounting, h]

/-- What a counter that is given or taken away leaves alone. -/
theorem pool_startCounting_congr {β : Type} (p : PoolId) (read : Pool → β)
    (h : ∀ (pool : Pool) attributes, read { pool with attributes } = read pool) (q : PoolId) :
    read ((w.startCounting p).pool q) = read (w.pool q) := by
  unfold startCounting
  split
  · rfl
  · exact w.pools.get_modify_congr p _ read (fun pool => h pool _) q

theorem pool_stopCounting_congr {β : Type} (p : PoolId) (read : Pool → β)
    (h : ∀ (pool : Pool) attributes, read { pool with attributes } = read pool) (q : PoolId) :
    read ((w.stopCounting p).pool q) = read (w.pool q) :=
  w.pools.get_modify_congr p _ read (fun pool => h pool _) q

/-! ## Connections -/

theorem connection_updateConnection (c : ConnectionId) (f : Connection → Connection)
    (d : ConnectionId) :
    (w.updateConnection c f).connection d
      = if c = d ∧ w.connections.Known d then f (w.connection d) else w.connection d :=
  w.connections.get_modify c f d

/-- What a change of a connection leaves alone. -/
theorem connection_updateConnection_congr {β : Type} (c : ConnectionId)
    (f : Connection → Connection) (read : Connection → β) (h : ∀ a, read (f a) = read a)
    (d : ConnectionId) :
    read ((w.updateConnection c f).connection d) = read (w.connection d) :=
  w.connections.get_modify_congr c f read h d

theorem known_of_chain_ne_nil {c : ConnectionId} (h : (w.connection c).chain ≠ []) :
    w.connections.Known c := by
  by_contra hc
  rw [connection, Registry.get_of_not_known hc] at h
  exact h rfl

/-! ## Stores -/

theorem store_setStore (c : ConnectionId) (store : Store) (d : ConnectionId) :
    (w.setStore c store).store d
      = if c = d ∧ w.connections.Known d then store else w.store d := by
  rw [World.store, setStore, connection_updateConnection]
  split
  · simp [Connection.store?]
  · rfl

theorem store_setStore_self {c : ConnectionId} (h : w.connections.Known c) (store : Store) :
    (w.setStore c store).store c = store := by
  rw [store_setStore, if_pos ⟨rfl, h⟩]

theorem store_setStore_of_ne {c d : ConnectionId} (h : c ≠ d) (store : Store) :
    (w.setStore c store).store d = w.store d := by
  rw [store_setStore, if_neg fun hcd => h hcd.1]

theorem isSome_store?_setStore {c d : ConnectionId} {store : Store}
    (h : ((w.connection d).store?).isSome = true) :
    (((w.setStore c store).connection d).store?).isSome = true := by
  rw [setStore, connection_updateConnection]
  split
  · simp [Connection.store?]
  · exact h

theorem store_of_not_known {c : ConnectionId} (h : ¬ w.connections.Known c) :
    w.store c = default := by
  rw [World.store, connection, Registry.get_of_not_known h]
  rfl

/-- A connection that is marked closed keeps its store. -/
theorem store_setClosed (c d : ConnectionId) :
    (w.updateConnection c fun connection => { connection with closed := true }).store d
      = w.store d :=
  congrArg (Option.getD · default) (w.connection_updateConnection_congr c
    (fun connection => { connection with closed := true }) Connection.store? (fun _ => rfl) d)

/-! ## Caches and counters -/

theorem cache_updateCache (k : CacheId) (f : StatementCache → StatementCache) (l : CacheId) :
    (w.updateCache k f).cache l
      = if k = l ∧ w.caches.Known l then f (w.cache l) else w.cache l :=
  w.caches.get_modify k f l

/-- What a change of a cache leaves alone. -/
theorem cache_updateCache_congr {β : Type} (k : CacheId) (f : StatementCache → StatementCache)
    (read : StatementCache → β) (h : ∀ a, read (f a) = read a) (l : CacheId) :
    read ((w.updateCache k f).cache l) = read (w.cache l) :=
  w.caches.get_modify_congr k f read h l

theorem counter_updateCounter (n : CounterId) (f : Counter → Counter) (m : CounterId) :
    (w.updateCounter n f).counter m
      = if n = m ∧ w.counters.Known m then f (w.counter m) else w.counter m :=
  w.counters.get_modify n f m

end World

end ConnectionPool
