/-!
# Admission to a cache

The number of statements parked across all connections of a pool is counted in slots. A slot
is taken only while the count is below the limit, so the count never passes the limit of a
cache that takes one; giving back a slot that was never taken leaves the count at zero. A
statement that is not parked is refused for one of four reasons.
-/

set_option autoImplicit false

namespace ConnectionPool

/-- **The admission counter** of a pool. -/
structure Counter where
  /-- How many slots are taken. -/
  count : Nat := 0
  deriving DecidableEq, Repr, Inhabited

namespace Counter

/-- The counter with one more slot taken, if fewer than `limit` are taken. -/
def acquire? (counter : Counter) (limit : Nat) : Option Counter :=
  if counter.count < limit then some ⟨counter.count + 1⟩ else none

/-- The counter with one slot given back. -/
def release (counter : Counter) : Counter := ⟨counter.count - 1⟩

theorem acquire?_eq_some_iff (counter next : Counter) (limit : Nat) :
    counter.acquire? limit = some next
      ↔ counter.count < limit ∧ next.count = counter.count + 1 := by
  obtain ⟨n⟩ := next
  simp [acquire?, eq_comm]

/-- Giving back the slot just taken restores the counter. -/
theorem release_of_acquire? {counter next : Counter} {limit : Nat}
    (h : counter.acquire? limit = some next) : next.release = counter := by
  have := (acquire?_eq_some_iff counter next limit).mp h
  simp [release, this.2]

end Counter

/-- **Why a statement was not parked.** -/
inductive RejectReason
  /-- The statement has no key. -/
  | noKey
  /-- The cache is not attached, its pool had no counter, or the connection is gone. -/
  | unbound
  /-- A statement with the same key is parked already. -/
  | duplicate
  /-- The limit of the pool is reached. -/
  | full
  deriving DecidableEq, Repr

/-- The name of a reason. -/
def RejectReason.word : RejectReason → String
  | noKey => "NoKey"
  | unbound => "Unbound"
  | duplicate => "Duplicate"
  | full => "Full"

end ConnectionPool
