import ConnectionPool.Cache.Key
import ConnectionPool.Properties

/-!
# Caching policy

Which kinds of statement a cache keeps, and how many statements may be parked across all
connections of a pool. A policy is read from properties, each of which keeps its default when
it is missing or not understood.
-/

set_option autoImplicit false

namespace ConnectionPool

/-- **A caching policy.** -/
structure CachePolicy where
  /-- Keep statements that `prepareStatement` makes. -/
  prepared : Bool := true
  /-- Keep statements that `prepareCall` makes. -/
  callable : Bool := false
  /-- The most statements parked at one time across a pool. -/
  limit : Nat := 50
  deriving DecidableEq, Repr

namespace CachePolicy

instance : Inhabited CachePolicy := ⟨{}⟩

/-- The policy that keeps nothing. -/
def disabled : CachePolicy := ⟨false, false, 0⟩

/-- The policy that properties ask for. -/
def ofProperties (properties : Properties) : CachePolicy :=
  let standard : CachePolicy := {}
  { prepared := properties.truthOf "prepared" standard.prepared
    callable := properties.truthOf "callable" standard.callable
    limit := properties.numberOf "max" standard.limit }

/-- The operations whose statements are kept, in a fixed order. -/
def keptMethods (policy : CachePolicy) : List Method :=
  (if policy.prepared then [.prepareStatement] else [])
    ++ (if policy.callable then [.prepareCall] else [])

/-- Whether the statements of an operation are kept. -/
def keeps (policy : CachePolicy) (method : Method) : Bool :=
  policy.keptMethods.contains method

/-- The key of a call whose statement is kept: the operation is eligible and the first
argument is the statement text. -/
def keyFor (policy : CachePolicy) (call : Call) : Option CacheKey :=
  if policy.keeps call.method && call.sql?.isSome then CacheKey.ofCall? call else none

/-- The printed form. -/
def describe (policy : CachePolicy) : String :=
  Text.record "StatementCacheConfig"
    [("cache_prepared", Text.truth policy.prepared), ("cache_callable", Text.truth policy.callable),
      ("max_cache_size", toString policy.limit)]

end CachePolicy

end ConnectionPool
