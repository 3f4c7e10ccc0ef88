import ConnectionPool.World

/-!
# Views of a cache

What can be seen of a cache at one moment: whether it is attached, how many statements are
parked across its pool and on its connection, its policy, and the tally of look-ups on the
connection.
-/

set_option autoImplicit false

namespace ConnectionPool

/-- **Cache statistics.** The tallies are machine words. -/
structure CacheStats where
  /-- Statements parked across the pool. -/
  parked : Nat := 0
  /-- Statements parked on the connection. -/
  parkedHere : Nat := 0
  policy : CachePolicy := {}
  /-- Look-ups on the connection that found a statement. -/
  hits : UInt64 := 0
  /-- Look-ups on the connection that found none. -/
  misses : UInt64 := 0
  deriving DecidableEq, Repr

namespace CacheStats

/-- The share of look-ups that found a statement, zero when there was none. -/
def hitRatio (stats : CacheStats) : Float :=
  let total := stats.hits + stats.misses
  if total = 0 then 0 else stats.hits.toFloat / total.toFloat

/-- How many statements more the pool could park. -/
def available (stats : CacheStats) : Nat := stats.policy.limit - stats.parked

end CacheStats

namespace World

/-- Whether a cache is attached to a connection. -/
def isAttached (w : World) (k : CacheId) : Bool := (w.cache k).binding.isSome

/-- How many statements are parked across the pool of the cache. -/
def parkedCount (w : World) (k : CacheId) : Nat :=
  match (w.cache k).binding.bind Binding.counter with
  | none => 0
  | some n => (w.counter n).count

/-- The store of the connection that the cache is attached to. -/
def boundStore? (w : World) (k : CacheId) : Option Store :=
  (w.cache k).binding.map fun binding => w.store binding.connection

/-- The statistics of a cache. -/
def cacheStats (w : World) (k : CacheId) : CacheStats where
  parked := w.parkedCount k
  parkedHere := ((w.boundStore? k).map Store.size).getD 0
  policy := (w.cache k).policy
  hits := ((w.boundStore? k).map Store.hits).getD 0
  misses := ((w.boundStore? k).map Store.misses).getD 0

/-- The printed form of a cache. -/
def describeCache (w : World) (k : CacheId) : String :=
  Text.record "StatementCache"
    [("config", (w.cache k).policy.describe), ("attached", Text.truth (w.isAttached k)),
      ("cache_size", toString (w.parkedCount k))]

end World

end ConnectionPool
