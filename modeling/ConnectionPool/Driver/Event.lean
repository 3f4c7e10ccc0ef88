import ConnectionPool.Text.Layout

/-!
# The driver's log

What a driver did, in order. The log is the only thing by which a client can tell a recycled
statement from a freshly prepared one. Connections and statements are named by their numbers,
each counted from 1 in the order in which the driver made them.
-/

set_option autoImplicit false

namespace ConnectionPool

/-- The number of a connection of the driver. -/
abbrev PhysicalConnectionId := Nat

/-- The number of a statement of the driver. -/
abbrev StatementId := Nat

/-- **An event of the driver.** -/
inductive DriverEvent
  | connected (connection : PhysicalConnectionId)
  | prepared (statement : StatementId) (sql : String)
  | preparedCall (statement : StatementId) (sql : String)
  | created (statement : StatementId)
  | executed (statement : StatementId)
  | parametersCleared (statement : StatementId)
  | resultSetClosed (statement : StatementId)
  | statementClosed (statement : StatementId)
  | connectionClosed (connection : PhysicalConnectionId)
  deriving DecidableEq, Repr

namespace DriverEvent

/-- Whether the event is the preparation of a statement from its text. -/
def isPreparation : DriverEvent → Bool
  | prepared _ _ => true
  | preparedCall _ _ => true
  | _ => false

/-- The statement that the event closes. -/
def closedStatement? : DriverEvent → Option StatementId
  | statementClosed statement => some statement
  | _ => none

/-- The statement that the event executes. -/
def executedStatement? : DriverEvent → Option StatementId
  | executed statement => some statement
  | _ => none

/-- The connection that the event closes. -/
def closedConnection? : DriverEvent → Option PhysicalConnectionId
  | connectionClosed connection => some connection
  | _ => none

end DriverEvent

/-- **The log of a driver**: its events, oldest first. -/
abbrev DriverLog := List DriverEvent

namespace DriverLog

/-- How many statements were prepared from their text. -/
def preparationCount (log : DriverLog) : Nat := log.countP DriverEvent.isPreparation

/-- The statements that were closed, in the order of closing. -/
def closings (log : DriverLog) : List StatementId :=
  log.filterMap DriverEvent.closedStatement?

/-- Whether a statement was closed. -/
def hasClosed (log : DriverLog) (statement : StatementId) : Bool :=
  log.closings.contains statement

/-- The statement that was executed last. -/
def latestExecution? (log : DriverLog) : Option StatementId :=
  (log.filterMap DriverEvent.executedStatement?).getLast?

/-- How many times a connection was closed. -/
def hangUpCount (log : DriverLog) : Nat :=
  (log.filterMap DriverEvent.closedConnection?).length

/-- The printed form, which gives the length only. -/
def describe (log : DriverLog) : String :=
  Text.record "DriverLog" [("events", toString log.length)]

end DriverLog

end ConnectionPool
