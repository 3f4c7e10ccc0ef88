/-!
# Finite tables

A `Table β` holds at most one value `β k` under each key `k`; the type of a value may depend
on its key. Entries keep the order in which their keys first came. Property sets, the parked
statements of a connection, the attributes of pools and connections and the named handles of
a client are tables.

A table is described by its view `get?`: `get?_insert` and `get?_erase` say what the two
writing operations do to it, and `size_insert` and `size_erase` what they do to the number of
entries.
-/

set_option autoImplicit false

namespace ConnectionPool

/-- **A finite table** with at most one entry for a key. -/
structure Table {κ : Type} (β : κ → Type) where
  /-- The entries, each a key with its value. -/
  entries : List ((k : κ) × β k) := []
  /-- No key has two entries. -/
  nodup : (entries.map Sigma.fst).Nodup := by simp

namespace Table

variable {κ : Type} [DecidableEq κ] {β : κ → Type}

/-! ## Rows: lists of entries -/

/-- The value of the first entry for `k`. -/
def find? : List ((k : κ) × β k) → (k : κ) → Option (β k)
  | [], _ => none
  | ⟨k', v⟩ :: rest, k => if h : k' = k then some (h ▸ v) else find? rest k

/-- The entries with `v` under `k`: in the place of an entry for `k`, or else at the end. -/
def put : List ((k : κ) × β k) → (k : κ) → β k → List ((k : κ) × β k)
  | [], k, v => [⟨k, v⟩]
  | ⟨k', v'⟩ :: rest, k, v => if k' = k then ⟨k, v⟩ :: rest else ⟨k', v'⟩ :: put rest k v

theorem mem_keys_put (rows : List ((k : κ) × β k)) (k : κ) (v : β k) (q : κ) :
    q ∈ (put rows k v).map Sigma.fst ↔ q = k ∨ q ∈ rows.map Sigma.fst := by
  induction rows with
  | nil => simp [put]
  | cons row rest ih =>
      obtain ⟨k', v'⟩ := row
      by_cases h : k' = k
      · subst h
        simp [put]
      · simp only [put, if_neg h, List.map_cons, List.mem_cons, ih]
        constructor
        · rintro (rfl | rfl | hq)
          · exact Or.inr (Or.inl rfl)
          · exact Or.inl rfl
          · exact Or.inr (Or.inr hq)
        · rintro (rfl | rfl | hq)
          · exact Or.inr (Or.inl rfl)
          · exact Or.inl rfl
          · exact Or.inr (Or.inr hq)

theorem nodup_put {rows : List ((k : κ) × β k)} (h : (rows.map Sigma.fst).Nodup) (k : κ)
    (v : β k) : ((put rows k v).map Sigma.fst).Nodup := by
  induction rows with
  | nil => simp [put]
  | cons row rest ih =>
      obtain ⟨k', v'⟩ := row
      simp only [List.map_cons, List.nodup_cons] at h
      by_cases hk : k' = k
      · subst hk
        simpa [put] using h
      · simp only [put, if_neg hk, List.map_cons, List.nodup_cons, mem_keys_put, not_or]
        exact ⟨⟨hk, h.1⟩, ih h.2⟩

theorem find?_put (rows : List ((k : κ) × β k)) (k : κ) (v : β k) (q : κ) :
    find? (put rows k v) q = if h : k = q then some (h ▸ v) else find? rows q := by
  induction rows with
  | nil => simp [put, find?]
  | cons row rest ih =>
      obtain ⟨k', v'⟩ := row
      by_cases hk : k' = k
      · subst hk
        by_cases hq : k' = q <;> simp [put, find?, hq]
      · simp only [put, if_neg hk, find?, ih]
        by_cases hq : k' = q
        · subst hq
          simp [Ne.symm hk]
        · simp [hq]

theorem find?_eq_none_iff {rows : List ((k : κ) × β k)} {k : κ} :
    find? rows k = none ↔ k ∉ rows.map Sigma.fst := by
  induction rows with
  | nil => simp [find?]
  | cons row rest ih =>
      obtain ⟨k', v'⟩ := row
      by_cases h : k' = k
      · simp [find?, h]
      · simp only [find?, h, dite_false, ih, List.map_cons, List.mem_cons, not_or]
        exact ⟨fun hr => ⟨Ne.symm h, hr⟩, And.right⟩

theorem find?_filter_ne (rows : List ((k : κ) × β k)) (k q : κ) :
    find? (rows.filter (·.1 ≠ k)) q = if q = k then none else find? rows q := by
  induction rows with
  | nil => simp [find?]
  | cons row rest ih =>
      obtain ⟨k', v'⟩ := row
      by_cases hk : k' = k
      · subst hk
        by_cases hq : q = k'
        · subst hq
          simpa using ih
        · simp only [ne_eq, decide_not, List.filter_cons, decide_true, Bool.not_true,
            Bool.false_eq_true, if_false, find?, Ne.symm hq, dite_false] at ih ⊢
          exact ih
      · by_cases hq : k' = q
        · subst hq
          simp [find?, hk]
        · simp only [ne_eq, decide_not, List.filter_cons, hk, decide_false, Bool.not_false,
            if_true, find?, hq, dite_false] at ih ⊢
          exact ih

theorem length_put (rows : List ((k : κ) × β k)) (k : κ) (v : β k) :
    (put rows k v).length = if (find? rows k).isSome then rows.length else rows.length + 1 := by
  induction rows with
  | nil => simp [put, find?]
  | cons row rest ih =>
      obtain ⟨k', v'⟩ := row
      by_cases h : k' = k
      · simp [put, find?, h]
      · simp only [put, find?, h, if_false, dite_false, List.length_cons, ih]
        split <;> simp

theorem length_filter_ne {rows : List ((k : κ) × β k)} (h : (rows.map Sigma.fst).Nodup)
    {k : κ} (hk : k ∈ rows.map Sigma.fst) :
    (rows.filter (·.1 ≠ k)).length + 1 = rows.length := by
  induction rows with
  | nil => simp at hk
  | cons row rest ih =>
      obtain ⟨k', v'⟩ := row
      simp only [List.map_cons, List.nodup_cons] at h
      by_cases hkk : k' = k
      · subst hkk
        have hkeep : rest.filter (·.1 ≠ k') = rest := by
          rw [List.filter_eq_self]
          intro e he
          simpa using fun heq : e.1 = k' => h.1 (heq ▸ List.mem_map_of_mem he)
        simpa [List.filter_cons] using hkeep
      · have hrest : k ∈ rest.map Sigma.fst := by
          simpa [Ne.symm hkk] using hk
        simpa [List.filter_cons, hkk] using ih h.2 hrest

/-! ## Tables -/

/-- The table without entries. -/
def empty : Table β := {}

instance : Inhabited (Table β) := ⟨empty⟩

/-- The value under `k`. -/
def get? (t : Table β) (k : κ) : Option (β k) := find? t.entries k

/-- Whether there is an entry for `k`. -/
def contains (t : Table β) (k : κ) : Bool := t.entries.any (·.1 = k)

/-- The number of entries. -/
def size (t : Table β) : Nat := t.entries.length

/-- Whether there is no entry. -/
def isEmpty (t : Table β) : Bool := t.entries.isEmpty

/-- The keys, in order. -/
def keys (t : Table β) : List κ := t.entries.map Sigma.fst

/-- The table with `v` under `k`, whatever was there before. -/
def insert (t : Table β) (k : κ) (v : β k) : Table β :=
  ⟨put t.entries k v, nodup_put t.nodup k v⟩

/-- The table without an entry for `k`. -/
def erase (t : Table β) (k : κ) : Table β :=
  ⟨t.entries.filter (·.1 ≠ k), t.nodup.sublist ((List.filter_sublist).map _)⟩

@[simp] theorem get?_empty (k : κ) : (empty : Table β).get? k = none := rfl

omit [DecidableEq κ] in
@[simp] theorem size_empty : (empty : Table β).size = 0 := rfl

theorem get?_insert (t : Table β) (k : κ) (v : β k) (q : κ) :
    (t.insert k v).get? q = if h : k = q then some (h ▸ v) else t.get? q :=
  find?_put t.entries k v q

@[simp] theorem get?_insert_self (t : Table β) (k : κ) (v : β k) :
    (t.insert k v).get? k = some v := by
  simp [get?_insert]

theorem get?_insert_of_ne (t : Table β) {k q : κ} (v : β k) (h : k ≠ q) :
    (t.insert k v).get? q = t.get? q := by
  simp [get?_insert, h]

theorem get?_erase (t : Table β) (k q : κ) :
    (t.erase k).get? q = if q = k then none else t.get? q :=
  find?_filter_ne t.entries k q

theorem contains_eq_isSome_get? (t : Table β) (k : κ) : t.contains k = (t.get? k).isSome := by
  rw [Bool.eq_iff_iff, Option.isSome_iff_ne_none, Ne, get?, find?_eq_none_iff,
    Decidable.not_not, contains, List.any_eq_true, List.mem_map]
  simp only [decide_eq_true_eq]

theorem size_insert (t : Table β) (k : κ) (v : β k) :
    (t.insert k v).size = if t.contains k then t.size else t.size + 1 := by
  rw [contains_eq_isSome_get?]
  exact length_put t.entries k v

theorem mem_keys_iff_contains (t : Table β) (k : κ) : k ∈ t.keys ↔ t.contains k = true := by
  simp [keys, contains]

theorem size_erase (t : Table β) {k : κ} (h : t.contains k = true) :
    (t.erase k).size + 1 = t.size :=
  length_filter_ne t.nodup ((mem_keys_iff_contains t k).mpr h)

end Table

end ConnectionPool
