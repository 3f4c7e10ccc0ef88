/-!
# Numbered registries

A `Registry α` numbers things 1, 2, 3, … in the order in which they are registered. Nothing
is ever taken out, so a number names the same thing for good. A number that was never given
out reads as the default value, which for every registry of the library is a thing that is
closed and holds nothing.

`get_register`, `get_modify_self` and `get_modify_of_ne` describe the two writing operations.
-/

set_option autoImplicit false

namespace ConnectionPool

/-- **A registry** of numbered things. -/
structure Registry (α : Type) where
  /-- The things, in the order of their numbers. -/
  rows : List α := []
  deriving DecidableEq, Repr

namespace Registry

variable {α : Type}

instance : Inhabited (Registry α) := ⟨{}⟩

/-- How many numbers were given out. -/
def size (r : Registry α) : Nat := r.rows.length

/-- The thing with number `n`, if that number was given out. -/
def get? (r : Registry α) : Nat → Option α
  | 0 => none
  | n + 1 => r.rows[n]?

/-- The thing with number `n`, or the default one. -/
def get [Inhabited α] (r : Registry α) (n : Nat) : α := (r.get? n).getD default

/-- The number that the next thing will have. -/
def next (r : Registry α) : Nat := r.size + 1

/-- The registry with one more thing, numbered `r.next`. -/
def register (r : Registry α) (a : α) : Registry α := ⟨r.rows ++ [a]⟩

/-- The registry with the thing numbered `n` changed. -/
def modify (r : Registry α) (n : Nat) (f : α → α) : Registry α :=
  match n with
  | 0 => r
  | n + 1 => ⟨r.rows.modify n f⟩

/-- Whether something in the registry has a property. -/
def any (r : Registry α) (property : α → Bool) : Bool := r.rows.any property

@[simp] theorem size_register (r : Registry α) (a : α) : (r.register a).size = r.size + 1 := by
  simp [size, register]

@[simp] theorem size_modify (r : Registry α) (n : Nat) (f : α → α) :
    (r.modify n f).size = r.size := by
  cases n <;> simp [size, modify]

theorem get?_eq_none_iff (r : Registry α) (n : Nat) : r.get? n = none ↔ n = 0 ∨ r.size < n := by
  cases n with
  | zero => simp [get?]
  | succ n =>
      rw [get?, List.getElem?_eq_none_iff]
      show r.rows.length ≤ n ↔ n + 1 = 0 ∨ r.rows.length < n + 1
      omega

theorem get?_register (r : Registry α) (a : α) (n : Nat) :
    (r.register a).get? n = if n = r.next then some a else r.get? n := by
  cases n with
  | zero => simp [get?, next]
  | succ n =>
      simp only [get?, register, next, size, Nat.add_right_cancel_iff]
      rcases Nat.lt_trichotomy n r.rows.length with h | h | h
      · rw [List.getElem?_append_left h, if_neg (by omega)]
      · simp [h]
      · rw [List.getElem?_eq_none (by simp; omega), List.getElem?_eq_none (by omega),
          if_neg (by omega)]

theorem get?_modify (r : Registry α) (n : Nat) (f : α → α) (m : Nat) :
    (r.modify n f).get? m = if n = m then (r.get? m).map f else r.get? m := by
  cases n with
  | zero => cases m <;> simp [modify, get?]
  | succ n =>
      cases m with
      | zero => simp [get?]
      | succ m =>
          simp only [modify, get?, List.getElem?_modify, Nat.add_right_cancel_iff]
          by_cases h : n = m <;> simp [h]

theorem get_register [Inhabited α] (r : Registry α) (a : α) (n : Nat) :
    (r.register a).get n = if n = r.next then a else r.get n := by
  unfold get
  rw [get?_register]
  split <;> rfl

theorem get_modify_self [Inhabited α] (r : Registry α) {n : Nat} (f : α → α)
    (h : (r.get? n).isSome) : (r.modify n f).get n = f (r.get n) := by
  obtain ⟨a, ha⟩ := Option.isSome_iff_exists.mp h
  simp [get, get?_modify, ha]

theorem get_modify_of_ne [Inhabited α] (r : Registry α) {n m : Nat} (f : α → α) (h : n ≠ m) :
    (r.modify n f).get m = r.get m := by
  simp [get, get?_modify, h]

end Registry

end ConnectionPool
