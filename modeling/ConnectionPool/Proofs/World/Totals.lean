import ConnectionPool.Proofs.World.Fields
import ConnectionPool.Proofs.Table.Entries
import Mathlib.Algebra.BigOperators.Group.Finset.Basic
import Mathlib.Order.Interval.Finset.Nat
import Mathlib.Tactic.Abel

/-!
# Sums over all connections

`World.total` adds something up over the stores of all connections. Writing one store changes
one summand (`total_setStore`), and opening a connection adds one (`total_register`). The sums
of interest are the number of parked statements and the multiset of the facades that parked
statements would have.
-/

set_option autoImplicit false

namespace ConnectionPool

namespace World

variable {M : Type} [AddCommMonoid M]

/-- All connections that were ever opened. -/
def everyConnection (w : World) : Finset ConnectionId := Finset.Icc 1 w.connections.size

theorem mem_everyConnection (w : World) (c : ConnectionId) :
    c ∈ w.everyConnection ↔ w.connections.Known c := by
  rw [everyConnection, Finset.mem_Icc, Registry.Known]
  exact and_congr_left' Nat.one_le_iff_ne_zero

/-- **The sum over all connections** of what `μ` says of their stores. -/
def total (w : World) (μ : ConnectionId → Store → M) : M :=
  ∑ c ∈ w.everyConnection, μ c (w.store c)

theorem total_congr {w w' : World} (hs : w'.connections.size = w.connections.size)
    {μ μ' : ConnectionId → Store → M}
    (h : ∀ c, w.connections.Known c → μ' c (w'.store c) = μ c (w.store c)) :
    w'.total μ' = w.total μ := by
  have he : w'.everyConnection = w.everyConnection := by rw [everyConnection, hs, everyConnection]
  rw [total, total, he]
  exact Finset.sum_congr rfl fun c hc => h c ((w.mem_everyConnection c).mp hc)

theorem total_setStore {w : World} {c : ConnectionId} (hc : w.connections.Known c)
    (store : Store) (μ : ConnectionId → Store → M) :
    (w.setStore c store).total μ + μ c (w.store c) = w.total μ + μ c store := by
  have he : (w.setStore c store).everyConnection = w.everyConnection := by
    simp [everyConnection, setStore, updateConnection]
  have hm : c ∈ w.everyConnection := (w.mem_everyConnection c).mpr hc
  rw [total, total, he, ← Finset.add_sum_erase _ _ hm, ← Finset.add_sum_erase _ _ hm,
    w.store_setStore_self hc]
  have hrest : ∑ d ∈ w.everyConnection.erase c, μ d ((w.setStore c store).store d)
      = ∑ d ∈ w.everyConnection.erase c, μ d (w.store d) :=
    Finset.sum_congr rfl fun d hd => by
      rw [w.store_setStore_of_ne (Finset.ne_of_mem_erase hd).symm]
  rw [hrest]
  abel

theorem total_register (w : World) (connection : Connection)
    (μ : ConnectionId → Store → M) :
    ({ w with connections := w.connections.register connection } : World).total μ
      = w.total μ + μ w.connections.next (connection.store?.getD default) := by
  have he : ({ w with connections := w.connections.register connection } : World).everyConnection
      = insert w.connections.next w.everyConnection := by
    ext c
    rw [mem_everyConnection, Finset.mem_insert, mem_everyConnection]
    exact (Registry.known_register _ _ _).trans or_comm
  have hn : w.connections.next ∉ w.everyConnection := by
    rw [mem_everyConnection]
    exact w.connections.not_known_next
  rw [total, he, Finset.sum_insert hn, add_comm]
  congr 1
  · refine Finset.sum_congr rfl fun c hc => ?_
    have hk := (w.mem_everyConnection c).mp hc
    simp only [World.store, World.connection, Registry.get_register_of_known _ hk]
  · simp only [World.store, World.connection, Registry.get_register_next]

end World

end ConnectionPool
