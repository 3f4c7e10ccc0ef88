import ConnectionPool.Table
import Mathlib.Data.Multiset.MapFold

/-!
# The entries of a table as a multiset

Inserting under a free key adds one entry, erasing a taken key removes one, and an entry is
there exactly when looking up its key finds its value.
-/

set_option autoImplicit false

namespace ConnectionPool

namespace Table

variable {κ : Type} [DecidableEq κ] {β : κ → Type}

theorem put_of_find?_eq_none {rows : List ((k : κ) × β k)} {k : κ} (v : β k)
    (h : find? rows k = none) : put rows k v = rows ++ [⟨k, v⟩] := by
  induction rows with
  | nil => rfl
  | cons row rest ih =>
      obtain ⟨k', v'⟩ := row
      by_cases hk : k' = k
      · simp [find?, hk] at h
      · simp only [find?, hk, dite_false] at h
        simp [put, hk, ih h]

theorem mem_iff_find? {rows : List ((k : κ) × β k)} (hn : (rows.map Sigma.fst).Nodup) (k : κ)
    (v : β k) : ⟨k, v⟩ ∈ rows ↔ find? rows k = some v := by
  induction rows with
  | nil => simp [find?]
  | cons row rest ih =>
      obtain ⟨k', v'⟩ := row
      simp only [List.map_cons, List.nodup_cons] at hn
      by_cases hk : k' = k
      · subst hk
        have hrest : ⟨k', v⟩ ∉ rest := fun hm => hn.1 (List.mem_map_of_mem (f := Sigma.fst) hm)
        simp [find?, hrest, eq_comm]
      · simp only [List.mem_cons, find?, hk, dite_false, ih hn.2]
        constructor
        · rintro (h | h)
          · exact absurd (congrArg Sigma.fst h).symm hk
          · exact h
        · exact Or.inr

theorem perm_cons_filter {rows : List ((k : κ) × β k)} (hn : (rows.map Sigma.fst).Nodup)
    {k : κ} {v : β k} (h : find? rows k = some v) :
    rows.Perm (⟨k, v⟩ :: rows.filter (·.1 ≠ k)) := by
  induction rows with
  | nil => exact nomatch h
  | cons row rest ih =>
      obtain ⟨k', v'⟩ := row
      simp only [List.map_cons, List.nodup_cons] at hn
      by_cases hk : k' = k
      · subst hk
        obtain rfl : v' = v := by simpa [find?] using h
        have hkeep : rest.filter (·.1 ≠ k') = rest := by
          rw [List.filter_eq_self]
          intro e he
          simpa using fun heq : e.1 = k' => hn.1 (heq ▸ List.mem_map_of_mem he)
        rw [List.filter_cons_of_neg (by simp), hkeep]
      · simp only [find?, hk, dite_false] at h
        rw [List.filter_cons_of_pos (by simpa using hk)]
        exact ((ih hn.2 h).cons _).trans (List.Perm.swap _ _ _)

/-- The entries, without their order. -/
def bag (t : Table β) : Multiset ((k : κ) × β k) := (t.entries : Multiset _)

omit [DecidableEq κ] in
@[simp] theorem card_bag (t : Table β) : t.bag.card = t.size := rfl

omit [DecidableEq κ] in
@[simp] theorem bag_empty : (empty : Table β).bag = 0 := rfl

theorem mem_bag (t : Table β) (k : κ) (v : β k) : ⟨k, v⟩ ∈ t.bag ↔ t.get? k = some v :=
  mem_iff_find? t.nodup k v

/-- What a table holds does not depend on the order of its entries. -/
theorem get?_congr {t t' : Table β} (h : t.bag = t'.bag) (k : κ) : t.get? k = t'.get? k := by
  apply Option.ext
  intro v
  rw [← mem_bag, ← mem_bag, h]

theorem bag_insert_of_free (t : Table β) {k : κ} (v : β k) (h : t.get? k = none) :
    (t.insert k v).bag = ⟨k, v⟩ ::ₘ t.bag := by
  have hrows : (t.insert k v).entries = t.entries ++ [⟨k, v⟩] := put_of_find?_eq_none v h
  rw [bag, hrows, ← Multiset.coe_add, Multiset.add_comm]
  rfl

theorem bag_erase (t : Table β) {k : κ} {v : β k} (h : t.get? k = some v) :
    ⟨k, v⟩ ::ₘ (t.erase k).bag = t.bag :=
  (Multiset.coe_eq_coe.mpr (perm_cons_filter t.nodup h)).symm

theorem bag_insert_of_taken (t : Table β) {k : κ} {v : β k} (v' : β k) (h : t.get? k = some v) :
    ⟨k, v⟩ ::ₘ (t.insert k v').bag = ⟨k, v'⟩ ::ₘ t.bag := by
  rw [← bag_erase (t.insert k v') (t.get?_insert_self k v'), ← bag_erase t h,
    Multiset.cons_swap]
  have hrows : ((t.insert k v').erase k).entries = (t.erase k).entries :=
    filter_put t.entries k v'
  rw [bag, hrows, ← bag]
where
  filter_put : ∀ (rows : List ((k : κ) × β k)) (k : κ) (v : β k),
      (put rows k v).filter (·.1 ≠ k) = rows.filter (·.1 ≠ k)
    | [], k, v => by simp [put]
    | ⟨k', v'⟩ :: rest, k, v => by
        by_cases hk : k' = k
        · simp [put, hk]
        · simpa [put, hk] using filter_put rest k v

/-- Whatever was there under a key before, inserting adds at most one entry. -/
theorem bag_insert_le (t : Table β) (k : κ) (v : β k) : (t.insert k v).bag ≤ ⟨k, v⟩ ::ₘ t.bag := by
  cases h : t.get? k with
  | none => rw [bag_insert_of_free t v h]
  | some v' =>
      rw [← bag_insert_of_taken t v h]
      exact Multiset.le_cons_self _ _

theorem contains_eq_false_iff (t : Table β) (k : κ) :
    t.contains k = false ↔ t.get? k = none := by
  rw [contains_eq_isSome_get?, Option.isSome_eq_false_iff, Option.isNone_iff_eq_none]

theorem get?_insert_eq_some {V : Type} (t : Table fun _ : κ => V) {k q : κ} {v v' : V}
    (h : (t.insert k v).get? q = some v') : v' = v ∨ t.get? q = some v' := by
  rw [get?_insert] at h
  split at h
  · next hk =>
      subst hk
      exact Or.inl (Option.some.inj h).symm
  · exact Or.inr h

theorem get?_of_erase (t : Table β) {k q : κ} {v : β q} (h : (t.erase k).get? q = some v) :
    t.get? q = some v := by
  rw [get?_erase] at h
  split at h
  · cases h
  · exact h

/-- Writing the value that is there already changes nothing. -/
theorem insert_eq_self (t : Table β) {k : κ} {v : β k} (h : t.get? k = some v) :
    t.insert k v = t := by
  have key : ∀ rows : List ((k : κ) × β k), find? rows k = some v → put rows k v = rows := by
    intro rows
    induction rows with
    | nil => intro h; exact nomatch h
    | cons row rest ih =>
        obtain ⟨k', v'⟩ := row
        intro h
        by_cases hk : k' = k
        · subst hk
          obtain rfl : v' = v := by simpa [find?] using h
          simp [put]
        · simp only [find?, hk, dite_false] at h
          simp [put, hk, ih h]
  obtain ⟨rows, hn⟩ := t
  simp only [insert, key rows h]

end Table

end ConnectionPool
