import ConnectionPool.Statement.Handle
import ConnectionPool.Table

/-!
# The store of a connection

The statements parked on one connection, by their keys, with a tally of look-ups. A statement
enters only under a key that is free and leaves only by value, so that at any time it is
either parked or held by someone. When the connection is torn down the store is drained and
stays closed.
-/

set_option autoImplicit false

namespace ConnectionPool

/-- **The store of a connection.** -/
structure Store where
  /-- The parked statements. -/
  entries : Table (fun _ : CacheKey => Tracked) := .empty
  /-- Whether the store was drained. -/
  closed : Bool := false
  /-- Look-ups that found a statement. -/
  hits : UInt64 := 0
  /-- Look-ups that found none. -/
  misses : UInt64 := 0

namespace Store

instance : Inhabited Store := ⟨{}⟩

/-- How many statements are parked. -/
def size (store : Store) : Nat := store.entries.size

/-- The store without the statement under a key. -/
def remove (store : Store) (key : CacheKey) : Store :=
  { store with entries := store.entries.erase key }

/-- The store with a statement parked under a key. -/
def park (store : Store) (key : CacheKey) (tracked : Tracked) : Store :=
  { store with entries := store.entries.insert key tracked }

/-- The parked statements, in the order in which their keys came. -/
def parked (store : Store) : List Tracked := store.entries.entries.map Sigma.snd

/-- The store emptied for good. -/
def drained (store : Store) : Store :=
  { store with entries := Table.empty, closed := true }

/-- The store after a look-up that found a statement. -/
def recordHit (store : Store) : Store := { store with hits := store.hits + 1 }

/-- The store after a look-up that found none. -/
def recordMiss (store : Store) : Store := { store with misses := store.misses + 1 }

/-- The printed form. -/
def describe (store : Store) : String :=
  Text.record "ConnectionStore"
    [("len", toString store.size), ("closed", Text.truth store.closed),
      ("hits", toString store.hits.toNat), ("misses", toString store.misses.toNat)]

end Store

end ConnectionPool
