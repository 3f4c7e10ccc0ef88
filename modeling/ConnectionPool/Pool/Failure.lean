import ConnectionPool.Call.Method
import ConnectionPool.Driver.Failure

/-!
# Failures of a pool

An error of a pool names its cause, and `PoolError.message` is the wording of each. A fault
found by something outside the library keeps the words in which it was stated.
-/

set_option autoImplicit false

namespace ConnectionPool

/-- What can be wrong with a configuration. `stated` is a fault in the words of whoever
found it. -/
inductive ConfigurationFault
  | noConnections
  | repeatedInterceptor (name : String)
  | refusedInterceptor (name : String)
  | malformedProperty (part : String)
  | namelessProperty (part : String)
  | stated (text : String)
  deriving DecidableEq, Repr

/-- The wording of a configuration fault. -/
def ConfigurationFault.message : ConfigurationFault → String
  | noConnections => "max_connections must be greater than 0"
  | repeatedInterceptor name => "interceptor " ++ name ++ " configured more than once"
  | refusedInterceptor name => name ++ " refused"
  | malformedProperty part => "invalid interceptor property: " ++ part
  | namelessProperty part => "interceptor property without a name: " ++ part
  | stated text => text

/-- What can be wrong with an argument. `stated` is a fault in the words of whoever found
it. -/
inductive ArgumentFault
  | unknownOperation (name : String)
  | notAStatement
  | notABoolean
  | stated (text : String)
  deriving DecidableEq, Repr

/-- The wording of an argument fault. -/
def ArgumentFault.message : ArgumentFault → String
  | unknownOperation name => "unknown operation: " ++ name
  | notAStatement => "expected a statement response"
  | notABoolean => "expected a boolean response"
  | stated text => text

/-- Why an interceptor failed. -/
inductive InterceptorFault
  /-- An error like those of a driver. -/
  | driver (error : DriverError)
  /-- An eligible call had no usable cache key. -/
  | invalidKey (method : Method)
  deriving DecidableEq, Repr

/-- The wording of an interceptor's failure. -/
def InterceptorFault.message : InterceptorFault → String
  | driver error => error.message
  | invalidKey method => "cannot compute a cache key for " ++ method.word

/-- **An error of the pool.** -/
inductive PoolError
  | poolClosed
  | connectionCreation (error : DriverError)
  | configuration (fault : ConfigurationFault)
  | maxConnectionsReached (limit : Nat)
  | connectionClosed
  | invalidArgument (fault : ArgumentFault)
  | driver (error : DriverError)
  | interceptor (name : String) (fault : InterceptorFault)
  deriving DecidableEq, Repr

namespace PoolError

/-- The wording of an error. -/
def message : PoolError → String
  | poolClosed => "pool is closed"
  | connectionCreation error => "failed to create connection: " ++ error.message
  | configuration fault => "pool configuration error: " ++ fault.message
  | maxConnectionsReached limit => "maximum connections (" ++ toString limit ++ ") reached"
  | connectionClosed => "connection is closed"
  | invalidArgument fault => "invalid argument: " ++ fault.message
  | driver error => "driver error: " ++ error.message
  | interceptor name fault => "interceptor " ++ name ++ " failed: " ++ fault.message

/-- The wording of the error underneath, where there is one. -/
def source? : PoolError → Option String
  | connectionCreation error => some error.message
  | driver error => some error.message
  | interceptor _ fault => some fault.message
  | _ => none

/-- The name of the kind of error. -/
def kind : PoolError → String
  | poolClosed => "PoolClosed"
  | connectionCreation _ => "ConnectionCreation"
  | configuration _ => "Configuration"
  | maxConnectionsReached _ => "MaxConnectionsReached"
  | connectionClosed => "ConnectionClosed"
  | invalidArgument _ => "InvalidArgument"
  | driver _ => "Driver"
  | interceptor _ _ => "Interceptor"

end PoolError

/-- The operation that a client asked for by name. -/
def Method.read (name : String) : Except PoolError Method :=
  match Method.ofWord? name with
  | some method => .ok method
  | none => .error (.invalidArgument (.unknownOperation name))

end ConnectionPool
