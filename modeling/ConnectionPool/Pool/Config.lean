import ConnectionPool.Chain.Interceptor
import ConnectionPool.Connection.Metadata

/-!
# Configuration of a pool

The limits of a pool and the definitions of its interceptors, outermost first. A
configuration is valid when at least one connection is allowed and no two definitions share
a name.
-/

set_option autoImplicit false

namespace ConnectionPool

/-- **The configuration of a pool.** -/
structure PoolConfig where
  name : String := "sqlpool"
  /-- The most connections open at one time. -/
  maxConnections : Nat := 10
  /-- How long a connection may wait in the pool. -/
  idleTimeout : Millis := 600000
  /-- How long a connection may live. -/
  maxLifetime : Millis := 1800000
  /-- Whether an idle connection must report itself valid before it is handed out. -/
  testOnCheckout : Bool := true
  interceptors : List Definition := []

instance : Inhabited PoolConfig := ⟨{}⟩

/-- The first name in a list that came before, counting the names `seen` as come. -/
def firstRepeated? (seen : List String) : List String → Option String
  | [] => none
  | name :: rest => if seen.contains name then some name else firstRepeated? (name :: seen) rest

/-- Whether a configuration can be used. A limit of zero is found before a repeated name. -/
def PoolConfig.check (config : PoolConfig) : Except PoolError Unit :=
  if config.maxConnections = 0 then .error (.configuration .noConnections)
  else
    match firstRepeated? [] (config.interceptors.map Definition.name) with
    | some name => .error (.configuration (.repeatedInterceptor name))
    | none => .ok ()

/-- **The numbers of a pool** at one moment. -/
structure PoolStatus where
  /-- Connections waiting in the pool. -/
  available : Nat
  /-- Connections checked out. -/
  inUse : Nat
  /-- Connections altogether. -/
  total : Nat
  /-- The most connections allowed. -/
  limit : Nat
  deriving DecidableEq, Repr

/-- The printed form. -/
def PoolStatus.describe (status : PoolStatus) : String :=
  Text.record "PoolStatus"
    [("available", toString status.available), ("in_use", toString status.inUse),
      ("total", toString status.total), ("max", toString status.limit)]

end ConnectionPool
