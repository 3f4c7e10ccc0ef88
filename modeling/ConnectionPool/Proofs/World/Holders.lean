import ConnectionPool.Proofs.Table.Entries
import ConnectionPool.Proofs.World.Fields

/-!
# Who holds a connection, and what comes of it when nobody does

Nobody holds the store of a connection that was torn down, that no client shares, and to which no
cache is attached (`World.isHeld_eq_false_iff`). Only then, and only if something is parked there,
does `World.forget` do anything (`World.forget_cases`). What forgetting a connection keeps is kept
when several are forgotten (`World.forgetAll_rule`), or a cache is attached to something else
(`World.rebind_rule`).
-/

set_option autoImplicit false

namespace ConnectionPool

theorem Registry.any_eq_false_iff {α : Type} [Inhabited α] (r : Registry α) {property : α → Bool}
    (hd : property default = false) :
    r.any property = false ↔ ∀ n, property (r.get n) = false := by
  rw [any, List.any_eq_false]
  constructor
  · intro h n
    rw [get]
    cases hn : r.get? n with
    | none => exact hd
    | some a =>
        cases n with
        | zero => cases hn
        | succ n => exact Bool.eq_false_iff.mpr (h a (List.mem_of_getElem? hn))
  · intro h a ha
    obtain ⟨n, hn⟩ := List.mem_iff_getElem?.mp ha
    have hread : r.get (n + 1) = a := by rw [get, get?, hn]; rfl
    rw [← hread, h (n + 1)]
    exact Bool.false_ne_true

namespace World

variable {w w' : World} {c : ConnectionId}

theorem isTornDown_iff (connection : Connection) : connection.isTornDown = true
    ↔ connection.closed = true ∧ connection.metadata.state = .closed := by
  rw [Connection.isTornDown, Bool.and_eq_true, decide_eq_true_iff]

/-- **Nobody holds a store**: the connection was torn down, is not shared, and no cache is attached
to it. -/
theorem isHeld_eq_false_iff (w : World) (c : ConnectionId) : w.isHeld c = false
    ↔ (w.connection c).isTornDown = true ∧ c ∉ w.shares
      ∧ ∀ k binding, (w.cache k).binding = some binding → binding.connection ≠ c := by
  rw [isHeld, Bool.or_eq_false_iff, Bool.or_eq_false_iff, Bool.not_eq_false',
    List.contains_eq_mem, decide_eq_false_iff_not, Registry.any_eq_false_iff _ rfl, and_assoc]
  have hattached : ∀ cache : StatementCache, cache.isAttachedTo c = false
      ↔ ∀ binding, cache.binding = some binding → binding.connection ≠ c := by
    intro cache
    rw [StatementCache.isAttachedTo]
    cases cache.binding <;> simp
  simp only [hattached, cache]

/-- A connection that was not torn down is held. -/
theorem isHeld_of_not_isTornDown (h : (w.connection c).isTornDown = false) :
    w.isHeld c = true := by
  rw [isHeld, h]
  rfl

/-! ## Letting go -/

/-- **Nothing is forgotten** where nothing is parked. -/
theorem forget_of_bag_eq_zero (h : (w.store c).entries.bag = 0) : w.forget c = w := by
  have hempty : (w.store c).entries.isEmpty = true :=
    List.isEmpty_iff.mpr (Multiset.coe_eq_zero _ |>.mp h)
  rw [forget, hempty, Bool.or_true, if_pos rfl]

/-- **To forget a connection** is to do nothing, or to close all that is parked there once nobody
holds it. -/
theorem forget_cases (w : World) (c : ConnectionId) : w.forget c = w
    ∨ (w.isHeld c = false ∧ w.connections.Known c
      ∧ w.forget c = (w.store c).parked.foldl dropTracked (w.setStore c (w.store c).drained)) := by
  by_cases hb : (w.store c).entries.bag = 0
  · exact Or.inl (forget_of_bag_eq_zero hb)
  have hknown : w.connections.Known c := by
    by_contra hc
    rw [w.store_of_not_known hc] at hb
    exact hb rfl
  rw [forget]
  split
  · exact Or.inl rfl
  · next h =>
      rw [Bool.or_eq_true, not_or] at h
      exact Or.inr ⟨Bool.eq_false_iff.mpr h.1, hknown, rfl⟩

/-- Statements are let go of as they are discharged, but that no slot is given back. -/
theorem discharge_none : discharge none = dropTracked := rfl

/-- What forgetting a connection keeps, forgetting several keeps. -/
theorem forgetAll_rule {P : World → Prop} (l : List ConnectionId) (h : P w)
    (hforget : ∀ v c, P v → P (v.forget c)) : P (l.foldl forget w) :=
  List.foldlRecOn l forget h fun v hv c _ => hforget v c hv

/-- **To attach a cache to something else** is to write down what it is attached to, and then to
forget what it was attached to. -/
theorem rebind_cases (w : World) (k : CacheId) (binding : Option Binding) :
    w.rebind k binding = w.updateCache k (fun cache => { cache with binding })
    ∨ ∃ earlier, (w.cache k).binding = some earlier ∧ w.rebind k binding
      = (w.updateCache k fun cache => { cache with binding }).forget earlier.connection := by
  unfold rebind
  cases (w.cache k).binding with
  | none => exact Or.inl rfl
  | some earlier => exact Or.inr ⟨earlier, rfl, rfl⟩

theorem rebind_rule {P : World → Prop} {k : CacheId} {binding : Option Binding}
    (h : P (w.updateCache k fun cache => { cache with binding }))
    (hforget : ∀ v c, P v → P (v.forget c)) : P (w.rebind k binding) := by
  rcases w.rebind_cases k binding with hr | ⟨earlier, -, hr⟩ <;> rw [hr]
  · exact h
  · exact hforget _ _ h

end World

end ConnectionPool
