import ConnectionPool.Table
import Mathlib.Data.List.Basic

/-!
# One table laid over another

`Table.overlay` is the union of two tables in which the values of the second one win
(`get?_overlay`). A value that is inserted into the second table is inserted into the union
(`overlay_insert`), the order of the entries included.
-/

set_option autoImplicit false

namespace ConnectionPool

namespace Table

variable {κ : Type} [DecidableEq κ] {β : κ → Type}

/-- **The union of two tables**, with the values of the second one where both have one. -/
def overlay (lower upper : Table β) : Table β :=
  upper.entries.foldl (fun table entry => table.insert entry.1 entry.2) lower

/-! ## Insertions one after the other -/

theorem put_put (rows : List ((k : κ) × β k)) (k : κ) (v v' : β k) :
    put (put rows k v) k v' = put rows k v' := by
  induction rows with
  | nil => simp [put]
  | cons row rest ih =>
      obtain ⟨q, u⟩ := row
      by_cases hq : q = k
      · simp [put, hq]
      · simp [put, hq, ih]

/-- Where there is an entry already, it does not matter when it is replaced. -/
theorem put_comm {rows : List ((k : κ) × β k)} {k q : κ} (hne : k ≠ q)
    (hk : k ∈ rows.map Sigma.fst) (v : β k) (u : β q) :
    put (put rows q u) k v = put (put rows k v) q u := by
  induction rows with
  | nil => exact absurd hk List.not_mem_nil
  | cons row rest ih =>
      obtain ⟨k', v'⟩ := row
      by_cases hk' : k' = k
      · subst hk'
        simp [put, hne]
      · have hrest : k ∈ rest.map Sigma.fst := by
          rw [List.map_cons, List.mem_cons] at hk
          exact hk.resolve_left fun he => hk' he.symm
        by_cases hq : k' = q
        · subst hq
          simp [put, hk']
        · simp [put, hk', hq, ih hrest]

theorem insert_insert (table : Table β) (k : κ) (v v' : β k) :
    (table.insert k v).insert k v' = table.insert k v' := by
  simp only [insert, put_put]

theorem insert_comm {table : Table β} {k q : κ} (hne : k ≠ q) (hk : k ∈ table.keys) (v : β k)
    (u : β q) : (table.insert q u).insert k v = (table.insert k v).insert q u := by
  simp only [insert, put_comm hne hk v u]

theorem mem_keys_insert (table : Table β) (k : κ) (v : β k) (q : κ) :
    q ∈ (table.insert k v).keys ↔ q = k ∨ q ∈ table.keys :=
  mem_keys_put table.entries k v q

/-! ## The union -/

/-- An entry that is there stays in its place while others are inserted. -/
theorem foldl_insert_comm {rows : List ((k : κ) × β k)} {k : κ} (hrows : k ∉ rows.map Sigma.fst)
    (v : β k) : ∀ table : Table β, k ∈ table.keys →
      (rows.foldl (fun table entry => table.insert entry.1 entry.2) table).insert k v
        = rows.foldl (fun table entry => table.insert entry.1 entry.2) (table.insert k v) := by
  induction rows with
  | nil =>
      intro table _
      rfl
  | cons row rest ih =>
      intro table hk
      obtain ⟨q, u⟩ := row
      rw [List.map_cons, List.mem_cons, not_or] at hrows
      have hkept : k ∈ (table.insert q u).keys := (mem_keys_insert table q u k).mpr (Or.inr hk)
      rw [List.foldl_cons, List.foldl_cons, ih hrows.2 _ hkept, insert_comm hrows.1 hk v u]

/-- The induction is on the entries of the second table, in which `k` may be anywhere. -/
theorem foldl_put {rows : List ((k : κ) × β k)} (hn : (rows.map Sigma.fst).Nodup) (k : κ)
    (v : β k) : ∀ table : Table β,
      (put rows k v).foldl (fun table entry => table.insert entry.1 entry.2) table
        = (rows.foldl (fun table entry => table.insert entry.1 entry.2) table).insert k v := by
  induction rows with
  | nil =>
      intro table
      rfl
  | cons row rest ih =>
      intro table
      obtain ⟨q, u⟩ := row
      rw [List.map_cons, List.nodup_cons] at hn
      by_cases hq : q = k
      · subst hq
        have hthere : q ∈ (table.insert q u).keys := (mem_keys_insert table q u q).mpr (Or.inl rfl)
        rw [put, if_pos rfl, List.foldl_cons, List.foldl_cons,
          foldl_insert_comm hn.1 v _ hthere, insert_insert]
      · rw [put, if_neg hq, List.foldl_cons, List.foldl_cons, ih hn.2]

/-- **A value that is inserted on top is inserted into the union.** -/
theorem overlay_insert (lower upper : Table β) (k : κ) (v : β k) :
    lower.overlay (upper.insert k v) = (lower.overlay upper).insert k v :=
  foldl_put upper.nodup k v lower

@[simp] theorem overlay_empty (lower : Table β) : lower.overlay empty = lower := rfl

/-- **Values on top win.** -/
theorem get?_overlay (lower upper : Table β) (k : κ) :
    (lower.overlay upper).get? k = (upper.get? k).or (lower.get? k) := by
  obtain ⟨rows, hn⟩ := upper
  show (rows.foldl (fun table entry => table.insert entry.1 entry.2) lower).get? k
    = (find? rows k).or (lower.get? k)
  induction rows generalizing lower with
  | nil => rfl
  | cons row rest ih =>
      obtain ⟨q, u⟩ := row
      rw [List.map_cons, List.nodup_cons] at hn
      rw [List.foldl_cons, ih _ hn.2, get?_insert, find?]
      by_cases hq : q = k
      · subst hq
        rw [dif_pos rfl, dif_pos rfl, find?_eq_none_iff.mpr hn.1]
        rfl
      · rw [dif_neg hq, dif_neg hq]

end Table

end ConnectionPool
