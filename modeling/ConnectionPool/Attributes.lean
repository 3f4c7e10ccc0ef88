import ConnectionPool.Table
import ConnectionPool.Text.Layout

/-!
# Attributes

What interceptors keep on a pool or on a connection: at most one value of each kind, where the
kind decides the type of the value. The values of all kinds stand in one table, whose entries are
values that carry their kind with them; to read an entry it is cast down to the kind that is asked
for, and a cast to another kind fails. The entry under a kind is of that kind, so no cast of an
entry that is there fails (`downcast?_of_get?`).

`get?_insert` and `get?_erase` say what the writing operations do to what is seen, and that an
operation at one kind never changes what is seen at another. `Operation` puts the operations in one
type, so that a client's dealings with its attributes are a list.
-/

set_option autoImplicit false

namespace ConnectionPool

/-- A value of some kind, with the kind it is of. -/
structure Entry {κ : Type} (β : κ → Type) where
  kind : κ
  value : β kind

/-- The value of an entry, if it is of the kind `k`. -/
def Entry.downcast? {κ : Type} [DecidableEq κ] {β : κ → Type} (entry : Entry β) (k : κ) :
    Option (β k) :=
  if h : entry.kind = k then some (h ▸ entry.value) else none

/-- **Attributes**: at most one value of each kind. -/
structure Attributes {κ : Type} [DecidableEq κ] (β : κ → Type) where
  /-- The entries, each under a kind. -/
  entries : Table fun _ : κ => Entry β := Table.empty
  /-- The entry under a kind is of that kind. -/
  tagged : ∀ k entry, entries.get? k = some entry → entry.kind = k := by simp

namespace Attributes

variable {κ : Type} [DecidableEq κ] {β : κ → Type} {σ : Type}

/-- The attributes without a value. -/
def empty : Attributes β := {}

instance : Inhabited (Attributes β) := ⟨empty⟩

/-- The value of a kind. -/
def get? (attributes : Attributes β) (k : κ) : Option (β k) :=
  (attributes.entries.get? k).bind fun entry => entry.downcast? k

/-- The attributes with the value `v` of the kind `k`, whatever was there before. -/
def insert (attributes : Attributes β) (k : κ) (v : β k) : Attributes β where
  entries := attributes.entries.insert k ⟨k, v⟩
  tagged q entry h := by
    rw [Table.get?_insert] at h
    split at h
    · next hq =>
        subst hq
        cases h
        rfl
    · exact attributes.tagged q entry h

/-- The attributes without a value of the kind `k`. -/
def erase (attributes : Attributes β) (k : κ) : Attributes β where
  entries := attributes.entries.erase k
  tagged q entry h := by
    rw [Table.get?_erase] at h
    split at h
    · cases h
    · exact attributes.tagged q entry h

/-- Store `v`, and answer with the value that it replaces. -/
def exchange (attributes : Attributes β) (k : κ) (v : β k) : Attributes β × Option (β k) :=
  (attributes.insert k v, (attributes.entries.get? k).bind fun entry => entry.downcast? k)

/-- Take the value of a kind away, and answer with it. -/
def withdraw (attributes : Attributes β) (k : κ) : Attributes β × Option (β k) :=
  (attributes.erase k, (attributes.entries.get? k).bind fun entry => entry.downcast? k)

/-- The value of a kind; or, where there is none, the value that `init` makes, which is stored. The
entry is looked up a second time before a new one is written. The client's state is what `init` may
read and change. -/
def ensure (attributes : Attributes β) (k : κ) (init : σ → β k × σ) (s : σ) :
    Attributes β × β k × σ :=
  match attributes.get? k with
  | some existing => (attributes, existing, s)
  | none =>
      match (attributes.entries.get? k).bind fun entry => entry.downcast? k with
      | some existing => (attributes, existing, s)
      | none =>
          let (made, s) := init s
          (attributes.insert k made, made, s)

/-- Whether there is an entry for a kind. -/
def contains (attributes : Attributes β) (k : κ) : Bool := attributes.entries.contains k

/-- The number of entries. -/
def size (attributes : Attributes β) : Nat := attributes.entries.size

/-- Whether there is no entry. -/
def isEmpty (attributes : Attributes β) : Bool := attributes.entries.isEmpty

/-- The printed form, which gives the number of values only. -/
def describe (attributes : Attributes β) : String :=
  Text.record "Extensions" [("len", toString attributes.size)]

/-! ## What is seen of a kind -/

/-- No cast of an entry that is there fails. -/
theorem downcast?_of_get? {attributes : Attributes β} {k : κ} {entry : Entry β}
    (h : attributes.entries.get? k = some entry) : ∃ v, entry.downcast? k = some v :=
  ⟨attributes.tagged k entry h ▸ entry.value, dif_pos (attributes.tagged k entry h)⟩

@[simp] theorem get?_empty (k : κ) : (empty : Attributes β).get? k = none := rfl

theorem get?_insert (attributes : Attributes β) (k : κ) (v : β k) (q : κ) :
    (attributes.insert k v).get? q = if h : k = q then some (h ▸ v) else attributes.get? q := by
  rw [get?, insert, Table.get?_insert]
  split
  · next h =>
      subst h
      exact dif_pos rfl
  · rfl

@[simp] theorem get?_insert_self (attributes : Attributes β) (k : κ) (v : β k) :
    (attributes.insert k v).get? k = some v := by
  simp [get?_insert]

theorem get?_insert_of_ne (attributes : Attributes β) {k q : κ} (v : β k) (h : k ≠ q) :
    (attributes.insert k v).get? q = attributes.get? q := by
  simp [get?_insert, h]

theorem get?_erase (attributes : Attributes β) (k q : κ) :
    (attributes.erase k).get? q = if q = k then none else attributes.get? q := by
  rw [get?, erase, Table.get?_erase]
  split
  · rfl
  · rfl

theorem contains_eq_isSome_get? (attributes : Attributes β) (k : κ) :
    attributes.contains k = (attributes.get? k).isSome := by
  rw [contains, Table.contains_eq_isSome_get?, get?]
  cases h : attributes.entries.get? k with
  | none => rfl
  | some entry =>
      obtain ⟨v, hv⟩ := downcast?_of_get? h
      rw [Option.bind_some, hv]
      rfl

/-- A value that is there stays, and `init` is not called. -/
theorem ensure_of_some {attributes : Attributes β} {k : κ} {v : β k}
    (h : attributes.get? k = some v) (init : σ → β k × σ) (s : σ) :
    attributes.ensure k init s = (attributes, v, s) := by
  rw [ensure, h]

/-- Where there is no value the one that `init` makes is stored. -/
theorem ensure_of_none {attributes : Attributes β} {k : κ} (h : attributes.get? k = none)
    (init : σ → β k × σ) (s : σ) :
    attributes.ensure k init s
      = (attributes.insert k (init s).1, (init s).1, (init s).2) := by
  have hagain : ((attributes.entries.get? k).bind fun entry => entry.downcast? k) = none := h
  rw [ensure, h]
  dsimp only
  rw [hagain]

/-! ## Operations -/

/-- **An operation on attributes**, by a client with a state of its own. -/
inductive Operation (σ : Type) {κ : Type} (β : κ → Type)
  | get (k : κ)
  | insert (k : κ) (v : β k)
  | ensure (k : κ) (init : σ → β k × σ)
  | remove (k : κ)
  | contains (k : κ)

/-- What an operation answers: the value of a kind, or none, or whether there is one. -/
inductive Answer {κ : Type} (β : κ → Type)
  | value (k : κ) (v : Option (β k))
  | truth (b : Bool)

namespace Operation

/-- The kind that an operation is about. -/
def kind : Operation σ β → κ
  | get k => k
  | insert k _ => k
  | ensure k _ => k
  | remove k => k
  | contains k => k

/-- What an operation does to the attributes and to the client's state, and its answer. -/
def perform (op : Operation σ β) (attributes : Attributes β) (s : σ) :
    (Attributes β × σ) × Answer β :=
  match op with
  | get k => ((attributes, s), .value k (attributes.get? k))
  | insert k v =>
      let (next, previous) := attributes.exchange k v
      ((next, s), .value k previous)
  | ensure k init =>
      let (next, value, s) := attributes.ensure k init s
      ((next, s), .value k (some value))
  | remove k =>
      let (next, previous) := attributes.withdraw k
      ((next, s), .value k previous)
  | contains k => ((attributes, s), .truth (attributes.contains k))

/-- Carry out operations one after the other, and collect the answers. -/
def performAll : List (Operation σ β) → Attributes β → σ →
    (Attributes β × σ) × List (Answer β)
  | [], attributes, s => ((attributes, s), [])
  | op :: rest, attributes, s =>
      let ((attributes, s), answer) := op.perform attributes s
      let (final, answers) := performAll rest attributes s
      (final, answer :: answers)

end Operation

end Attributes

end ConnectionPool
