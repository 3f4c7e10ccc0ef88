import ConnectionPool.Pool.Config

/-!
# The journal

Whatever an interceptor is told or asked is noted in a journal: the hooks it receives, the
calls that enter it and the answers that leave it. A notice of a hook keeps what can be seen
at that moment of the pool and of the connection. Every notice also keeps how long the
driver's log was, so journal and log can be woven into one sequence (`weave`).
-/

set_option autoImplicit false

namespace ConnectionPool

/-- The number of a pool. -/
abbrev PoolId := Nat

/-- The number of a connection among the connections of all pools. -/
abbrev ConnectionId := Nat

/-- **Who receives**: an interceptor that listens to a pool, or a link in the chain of a
connection, by its position from 0. -/
inductive Receiver
  | listener (pool : PoolId) (position : Nat)
  | link (connection : ConnectionId) (position : Nat)
  deriving DecidableEq, Repr

/-- **A hook**: an event in the life of a pool or of a connection. -/
inductive Hook
  /-- The pool has started. -/
  | poolStarted
  /-- The pool has closed. -/
  | poolClosed
  /-- A connection was checked out. -/
  | attached (connection : ConnectionId)
  /-- A connection is about to be closed; `finalizing` when the pool is closing. -/
  | disconnected (connection : ConnectionId) (finalizing : Bool)
  /-- A connection was closed. -/
  | detached (connection : ConnectionId)
  deriving DecidableEq, Repr

/-- The connection that a hook is about. -/
def Hook.connection? : Hook → Option ConnectionId
  | attached c => some c
  | disconnected c _ => some c
  | detached c => some c
  | _ => none

/-- What can be seen of a connection. -/
structure ConnectionSight where
  number : Nat
  checkouts : Nat
  state : ConnectionState
  closed : Bool
  deriving DecidableEq, Repr

/-- What can be seen when a hook is delivered. -/
structure Sight where
  poolName : String
  poolClosed : Bool
  status : PoolStatus
  connection : Option ConnectionSight
  deriving DecidableEq, Repr

/-- What a notice tells. -/
inductive NoticeContent
  /-- A hook was delivered. -/
  | hook (hook : Hook) (sight : Sight)
  /-- A call entered, with so many links behind, on the connection with this number. -/
  | enter (call : Call) (remaining : Nat) (number : Nat)
  /-- The answer to a call left. -/
  | leave (call : Call) (answer : Except PoolError Response)

/-- The printed form of the rest of a chain: so many links, on the connection with this
number. -/
def describeRest (remaining number : Nat) : String :=
  Text.record "Next" [("remaining", toString remaining), ("connection", toString number)]

/-- **A notice.** -/
structure Notice where
  receiver : Receiver
  interceptor : Interceptor
  content : NoticeContent
  /-- How many events the driver's log had. -/
  logged : Nat

/-- **The journal**: all notices, oldest first. -/
abbrev Journal := List Notice

/-- An event of the driver or a notice. -/
inductive Happening
  | driver (event : DriverEvent)
  | notice (notice : Notice)

/-- Log and journal as one sequence. `start` is the number of events before those given. -/
def weave (start : Nat) (log : DriverLog) : Journal → List Happening
  | [] => log.map .driver
  | notice :: rest =>
      let before := notice.logged - start
      (log.take before).map .driver ++ .notice notice :: weave notice.logged (log.drop before) rest

end ConnectionPool
