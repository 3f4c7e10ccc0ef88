import ConnectionPool.Cache.View
import ConnectionPool.Session.Command

/-!
# Replies

What a session answers to a command. A failure is part of the answer like any other.
-/

set_option autoImplicit false

namespace ConnectionPool

/-- A view of a pool. -/
structure PoolReport where
  name : String
  description : String
  /-- How many interceptors are configured. -/
  interceptors : Nat
  /-- How many attributes there are. -/
  attributes : Nat
  deriving DecidableEq, Repr

/-- A view of a checkout. -/
structure GuardReport where
  metadata : Metadata
  age : Millis
  rest : Millis
  pool : String
  description : String
  deriving DecidableEq, Repr

/-- A view of a connection. -/
structure ConnectionReport where
  description : String
  valid : Bool
  attributes : String
  deriving DecidableEq, Repr

/-- A view of the store of a connection. -/
structure StoreReport where
  /-- The printed keys, in the order of their code points. -/
  keys : List String
  empty : Bool
  description : String
  deriving DecidableEq, Repr

/-- A view of a statement. -/
inductive StatementReport
  /-- A statement that came from a call shows nothing. -/
  | hidden
  /-- A facade that the client made. -/
  | facade (key : Option String) (description : String)
  /-- A statement that the client asked of the driver. -/
  | loose (id : StatementId) (sql : String) (parameters : List (Option String))
  deriving DecidableEq, Repr

/-- A view of the driver's log. -/
structure LogReport where
  prepared : Nat
  /-- The closed statements, in increasing order. -/
  closed : List StatementId
  lastExecuted : Option StatementId
  closedConnections : Nat
  /-- Whether the statement asked about is closed. -/
  isClosed : Option Bool
  description : String
  deriving DecidableEq, Repr

/-- A view of a cache. -/
structure CacheReport where
  name : String
  stats : CacheStats
  description : String
  /-- Whether the policy is the standard one. -/
  standard : Bool
  deriving DecidableEq, Repr

/-- **A reply.** -/
inductive Reply
  | done
  | nothing
  | truth (value : Bool)
  | count (value : Nat)
  | text (value : String)
  | resultSet (state : ResultSet)
  | hit
  | miss
  | admitted
  | rejected (reason : RejectReason)
  | evicted
  | absent
  | noKey
  | notAFacade
  | poolError (error : PoolError)
  | driverError (error : DriverError)
  /-- The name for a new thing is taken. -/
  | nameTaken (name : Name)
  /-- There is nothing of this sort with this name. -/
  | nameUnknown (sort : String) (name : Name)
  | pool (report : PoolReport)
  | guard (report : GuardReport)
  | connection (report : ConnectionReport)
  | store (report : StoreReport)
  | statement (report : StatementReport)
  | log (report : LogReport)
  | cache (report : CacheReport)
  deriving DecidableEq, Repr

namespace Reply

/-- The reply to something that gives nothing back unless the driver fails. -/
def ofDriver (result : Except DriverError Unit) : Reply :=
  match result with
  | .ok () => done
  | .error error => driverError error

end Reply

end ConnectionPool
