import ConnectionPool.Attributes
import Mathlib

/-!
# Attributes as a finite map

The specification of attributes is a function from kinds to optional values (`View`), on which an
operation changes nothing but the value of its own kind (`Operation.apply`). One operation on
attributes is that operation on what is seen of them (`seen_perform`), so any number of operations
gives the same answers and leaves the client in the same state as on the function
(`seen_performAll`).

Of a kind the value is seen that was stored last and not removed since (`LastStored`). The main
result, `acts_as_map`, is about the attributes that any operations lead to, at any mix of kinds.
-/

set_option autoImplicit false

namespace ConnectionPool

namespace Attributes

variable {κ : Type} [DecidableEq κ] {β : κ → Type} {σ : Type}

/-! ## Functions from kinds to values -/

/-- A function that gives of each kind the value, or none. -/
abbrev View (β : κ → Type) := (k : κ) → Option (β k)

/-- The attributes as a function. -/
def view (attributes : Attributes β) : View β := attributes.get?

theorem view_insert (attributes : Attributes β) (k : κ) (v : β k) :
    (attributes.insert k v).view = Function.update attributes.view k (some v) := by
  funext q
  rw [view, get?_insert]
  split
  · next h =>
      subst h
      rw [Function.update_self]
  · next h => rw [Function.update_of_ne (Ne.symm h), view]

theorem view_erase (attributes : Attributes β) (k : κ) :
    (attributes.erase k).view = Function.update attributes.view k none := by
  funext q
  rw [view, get?_erase]
  split
  · next h =>
      subst h
      rw [Function.update_self]
  · next h => rw [Function.update_of_ne h, view]

/-- **The operations of a finite map**: what an operation does to a function. -/
def Operation.apply (op : Operation σ β) (view : View β) (s : σ) : (View β × σ) × Answer β :=
  match op with
  | get k => ((view, s), .value k (view k))
  | insert k v => ((Function.update view k (some v), s), .value k (view k))
  | ensure k init =>
      match view k with
      | some v => ((view, s), .value k (some v))
      | none =>
          let (made, s) := init s
          ((Function.update view k (some made), s), .value k (some made))
  | remove k => ((Function.update view k none, s), .value k (view k))
  | contains k => ((view, s), .truth (view k).isSome)

/-- Apply operations one after the other, and collect the answers. -/
def Operation.applyAll : List (Operation σ β) → View β → σ → (View β × σ) × List (Answer β)
  | [], view, s => ((view, s), [])
  | op :: rest, view, s =>
      let ((view, s), answer) := op.apply view s
      let (final, answers) := applyAll rest view s
      (final, answer :: answers)

/-- The outcome of operations with the attributes as a function. -/
def seen {α : Type} (outcome : (Attributes β × σ) × α) : (View β × σ) × α :=
  ((outcome.1.1.view, outcome.1.2), outcome.2)

/-- **One operation on attributes is that operation on what is seen of them.** -/
theorem seen_perform (op : Operation σ β) (attributes : Attributes β) (s : σ) :
    seen (op.perform attributes s) = op.apply attributes.view s := by
  cases op with
  | get k => rfl
  | insert k v =>
      rw [seen, Operation.perform, exchange, view_insert]
      rfl
  | ensure k init =>
      rw [Operation.perform, Operation.apply]
      cases h : attributes.get? k with
      | some v =>
          have hview : attributes.view k = some v := h
          rw [ensure_of_some h, hview]
          rfl
      | none =>
          have hview : attributes.view k = none := h
          rw [ensure_of_none h, hview, seen, view_insert]
  | remove k =>
      rw [seen, Operation.perform, withdraw, view_erase]
      rfl
  | contains k =>
      rw [seen, Operation.perform, contains_eq_isSome_get?]
      rfl

/-- **Any operations give the answers that a finite map gives.** -/
theorem seen_performAll (operations : List (Operation σ β)) (attributes : Attributes β) (s : σ) :
    seen (Operation.performAll operations attributes s)
      = Operation.applyAll operations attributes.view s := by
  induction operations generalizing attributes s with
  | nil => rfl
  | cons op rest ih =>
      have hrest := ih (op.perform attributes s).1.1 (op.perform attributes s).1.2
      rw [Operation.applyAll, ← seen_perform op attributes s]
      simp only [seen]
      rw [← hrest]
      rfl

/-! ## What is stored under a kind -/

/-- An operation that stores `v` under `k`: it inserts `v`, or there is no value and it makes `v`. -/
inductive Stores (attributes : Attributes β) (s : σ) (k : κ) : Operation σ β → β k → Prop
  | insert (v : β k) : Stores attributes s k (.insert k v) v
  | ensure (init : σ → β k × σ) (hfree : attributes.get? k = none) :
      Stores attributes s k (.ensure k init) (init s).1

/-- An operation that neither stores nor removes a value under `k`. -/
def Spares (attributes : Attributes β) (s : σ) (k : κ) (op : Operation σ β) : Prop :=
  op ≠ .remove k ∧ ∀ v, ¬ Stores attributes s k op v

/-- Operations none of which stores or removes a value under `k`. -/
def SparesAll (k : κ) : List (Operation σ β) → Attributes β → σ → Prop
  | [], _, _ => True
  | op :: rest, attributes, s =>
      Spares attributes s k op
        ∧ SparesAll k rest (op.perform attributes s).1.1 (op.perform attributes s).1.2

/-- **The value stored last**: one of the operations stores it under `k`, and none of the later ones
stores or removes a value there. -/
inductive LastStored (k : κ) (v : β k) : List (Operation σ β) → Attributes β → σ → Prop
  | here {op : Operation σ β} {rest : List (Operation σ β)} {attributes : Attributes β} {s : σ}
      (h : Stores attributes s k op v)
      (hrest : SparesAll k rest (op.perform attributes s).1.1 (op.perform attributes s).1.2) :
      LastStored k v (op :: rest) attributes s
  | later {op : Operation σ β} {rest : List (Operation σ β)} {attributes : Attributes β} {s : σ}
      (h : LastStored k v rest (op.perform attributes s).1.1 (op.perform attributes s).1.2) :
      LastStored k v (op :: rest) attributes s

theorem Stores.get?_perform {attributes : Attributes β} {s : σ} {k : κ} {op : Operation σ β}
    {v : β k} (h : Stores attributes s k op v) :
    (op.perform attributes s).1.1.get? k = some v := by
  cases h with
  | insert => exact get?_insert_self attributes k v
  | ensure init hfree =>
      rw [Operation.perform, ensure_of_none hfree]
      exact get?_insert_self attributes k _

theorem get?_perform_remove (attributes : Attributes β) (s : σ) (k : κ) :
    ((Operation.remove k).perform attributes s).1.1.get? k = none :=
  (get?_erase attributes k k).trans (if_pos rfl)

/-- **An operation changes nothing at another kind.** -/
theorem get?_perform_of_kind_ne (op : Operation σ β) (attributes : Attributes β) (s : σ) {k : κ}
    (h : op.kind ≠ k) : (op.perform attributes s).1.1.get? k = attributes.get? k := by
  cases op with
  | get q => rfl
  | contains q => rfl
  | insert q v => exact get?_insert_of_ne attributes v h
  | remove q => exact (get?_erase attributes q k).trans (if_neg (Ne.symm h))
  | ensure q init =>
      rw [Operation.perform]
      cases hq : attributes.get? q with
      | some v => rw [ensure_of_some hq]
      | none =>
          rw [ensure_of_none hq]
          exact get?_insert_of_ne attributes _ h

/-- An operation that stores and removes nothing changes nothing. -/
theorem Spares.get?_perform {attributes : Attributes β} {s : σ} {k : κ} {op : Operation σ β}
    (h : Spares attributes s k op) :
    (op.perform attributes s).1.1.get? k = attributes.get? k := by
  by_cases hk : op.kind = k
  · subst hk
    cases op with
    | get q => rfl
    | contains q => rfl
    | insert q v => exact absurd (Stores.insert v) (h.2 v)
    | remove q => exact absurd rfl h.1
    | ensure q init =>
        have hq : ∃ v, attributes.get? q = some v :=
          Option.ne_none_iff_exists'.mp fun hfree => h.2 _ (Stores.ensure init hfree)
        obtain ⟨v, hv⟩ := hq
        rw [Operation.perform, ensure_of_some hv]
  · exact get?_perform_of_kind_ne op attributes s hk

/-- **Where a value comes from that is seen after an operation.** -/
theorem get?_perform_eq_some_iff (op : Operation σ β) (attributes : Attributes β) (s : σ) (k : κ)
    (v : β k) :
    (op.perform attributes s).1.1.get? k = some v
      ↔ Stores attributes s k op v ∨ attributes.get? k = some v ∧ Spares attributes s k op := by
  constructor
  · intro h
    by_cases hr : op = .remove k
    · rw [hr, get?_perform_remove] at h
      cases h
    by_cases hs : ∃ v', Stores attributes s k op v'
    · obtain ⟨v', hv'⟩ := hs
      obtain rfl : v' = v := Option.some.inj (hv'.get?_perform.symm.trans h)
      exact Or.inl hv'
    · have hspares : Spares attributes s k op := ⟨hr, not_exists.mp hs⟩
      exact Or.inr ⟨hspares.get?_perform ▸ h, hspares⟩
  · rintro (hv | ⟨hv, hspares⟩)
    · exact hv.get?_perform
    · exact hspares.get?_perform.trans hv

/-- What is seen after operations was stored by one of them, or was there and was spared. -/
theorem get?_performAll_eq_some_iff (operations : List (Operation σ β)) (attributes : Attributes β)
    (s : σ) (k : κ) (v : β k) :
    (Operation.performAll operations attributes s).1.1.get? k = some v
      ↔ LastStored k v operations attributes s
        ∨ attributes.get? k = some v ∧ SparesAll k operations attributes s := by
  induction operations generalizing attributes s with
  | nil =>
      refine ⟨fun h => Or.inr ⟨h, trivial⟩, ?_⟩
      rintro (h | ⟨h, -⟩)
      · cases h
      · exact h
  | cons op rest ih =>
      have hrest := ih (op.perform attributes s).1.1 (op.perform attributes s).1.2
      rw [get?_perform_eq_some_iff] at hrest
      refine hrest.trans ?_
      constructor
      · rintro (h | ⟨h | ⟨h, hop⟩, hrest⟩)
        · exact Or.inl (.later h)
        · exact Or.inl (.here h hrest)
        · exact Or.inr ⟨h, hop, hrest⟩
      · rintro (h | ⟨h, hop, hrest⟩)
        · cases h with
          | here h hrest => exact Or.inr ⟨Or.inl h, hrest⟩
          | later h => exact Or.inl h
        · exact Or.inr ⟨Or.inr ⟨h, hop⟩, hrest⟩

/-! ## How many values there are -/

theorem contains_iff (attributes : Attributes β) (k : κ) :
    attributes.contains k = true ↔ ∃ v, attributes.get? k = some v := by
  rw [contains_eq_isSome_get?, Option.isSome_iff_exists]

/-- There are as many entries as there are kinds of which a value is seen. -/
theorem size_eq_ncard (attributes : Attributes β) :
    attributes.size = {k | ∃ v, attributes.get? k = some v}.ncard := by
  have hkeys : {k | ∃ v, attributes.get? k = some v} = ↑attributes.entries.keys.toFinset := by
    ext k
    rw [Set.mem_ofPred_eq, ← contains_iff, Finset.mem_coe, List.mem_toFinset,
      Table.mem_keys_iff_contains]
    rfl
  have hcard : attributes.entries.keys.toFinset.card = attributes.entries.keys.length :=
    List.toFinset_card_of_nodup attributes.entries.nodup
  rw [hkeys, Set.ncard_coe_finset, hcard]
  exact (List.length_map _).symm

theorem isEmpty_iff (attributes : Attributes β) :
    attributes.isEmpty = true ↔ ∀ k, attributes.get? k = none := by
  rw [isEmpty, Table.isEmpty, List.isEmpty_iff_length_eq_zero]
  constructor
  · intro h k
    cases hk : attributes.get? k with
    | none => rfl
    | some v =>
        have hmem := (Table.mem_keys_iff_contains attributes.entries k).mpr
          ((contains_iff attributes k).mpr ⟨v, hk⟩)
        rw [Table.keys, List.eq_nil_of_length_eq_zero h] at hmem
        cases hmem
  · intro h
    have hnone : {k | ∃ v, attributes.get? k = some v} = ∅ :=
      Set.eq_empty_of_forall_notMem fun k hk => by
        obtain ⟨v, hv⟩ := hk
        rw [h k] at hv
        cases hv
    exact (size_eq_ncard attributes).trans (by rw [hnone, Set.ncard_empty])

/-! ## After any operations -/

/-- The attributes after operations from the beginning. -/
def after (operations : List (Operation σ β)) (s : σ) : Attributes β :=
  (Operation.performAll operations empty s).1.1

/-- **What it is for attributes to act as a finite map**, after operations from the beginning. -/
structure ActsAsMap (operations : List (Operation σ β)) (s : σ) : Prop where
  /-- Every answer, what is seen in the end and the client's state are those of a function from
  kinds to optional values. -/
  refines :
    seen (Operation.performAll operations empty s)
      = Operation.applyAll operations (fun _ : κ => none) s
  /-- What is seen of a kind is the value stored last and not removed since. -/
  last : ∀ k v, (after operations s).get? k = some v ↔ LastStored k v operations empty s
  /-- Storing a value answers with the previous one. -/
  exchanged : ∀ k v, ((after operations s).exchange k v).2 = (after operations s).get? k
    ∧ ((after operations s).exchange k v).1.get? k = some v
  /-- Removing a value answers with it. -/
  withdrawn : ∀ k, ((after operations s).withdraw k).2 = (after operations s).get? k
    ∧ ((after operations s).withdraw k).1.get? k = none
  /-- A value that is there is never replaced by a new one, and none is made. -/
  present : ∀ k v (init : σ → β k × σ) t, (after operations s).get? k = some v →
    (after operations s).ensure k init t = (after operations s, v, t)
  /-- Where there is none, one is made and stored. -/
  absent : ∀ k (init : σ → β k × σ) t, (after operations s).get? k = none →
    (after operations s).ensure k init t
      = ((after operations s).insert k (init t).1, (init t).1, (init t).2)
  /-- The answer is in either case what is seen from then on. -/
  ensured : ∀ k (init : σ → β k × σ) t,
    ((after operations s).ensure k init t).1.get? k
      = some ((after operations s).ensure k init t).2.1
  /-- There is an entry exactly where a value is seen. -/
  contained : ∀ k, (after operations s).contains k = true
    ↔ ∃ v, (after operations s).get? k = some v
  /-- No value is lost in a cast: that of the entry under a kind is what is seen. -/
  intact : ∀ k entry, (after operations s).entries.get? k = some entry →
    ∃ v, entry.downcast? k = some v ∧ (after operations s).get? k = some v
  /-- The attributes are empty when no value is seen of any kind. -/
  isEmpty : (after operations s).isEmpty = true ↔ ∀ k, (after operations s).get? k = none
  /-- The size is the number of kinds of which a value is seen. -/
  size : (after operations s).size = {k | ∃ v, (after operations s).get? k = some v}.ncard
  /-- Another operation changes nothing at kinds that are not its own. -/
  apart : ∀ (op : Operation σ β) t k, op.kind ≠ k →
    (op.perform (after operations s) t).1.1.get? k = (after operations s).get? k

/-- **Attributes act as a finite map from kinds to values**, after any operations at any mix of
kinds. -/
theorem acts_as_map (operations : List (Operation σ β)) (s : σ) : ActsAsMap operations s where
  refines := seen_performAll operations empty s
  last k v := by
    have hfree : (empty : Attributes β).get? k ≠ some v := Option.some_ne_none v |>.symm
    rw [after, get?_performAll_eq_some_iff]
    exact or_iff_left fun h => hfree h.1
  exchanged k v := ⟨rfl, get?_insert_self _ k v⟩
  withdrawn k := ⟨rfl, (get?_erase _ k k).trans (if_pos rfl)⟩
  present _ _ init t h := ensure_of_some h init t
  absent _ init t h := ensure_of_none h init t
  ensured k init t := by
    cases h : (after operations s).get? k with
    | some v => rw [ensure_of_some h, h]
    | none => rw [ensure_of_none h, get?_insert_self]
  contained := contains_iff _
  intact k entry h := by
    obtain ⟨v, hv⟩ := downcast?_of_get? h
    exact ⟨v, hv, by rw [get?, h, Option.bind_some, hv]⟩
  isEmpty := isEmpty_iff _
  size := size_eq_ncard _
  apart op t _ h := get?_perform_of_kind_ne op _ t h

/-- Of two kinds one is there already, so one value is made. -/
example :
    (Operation.performAll (β := fun _ : Bool => Nat)
      [.insert true 42, .ensure true fun made => (7, made + 1),
        .ensure false fun made => (8, made + 1)] empty 0).1.2 = 1 :=
  rfl

end Attributes

end ConnectionPool
