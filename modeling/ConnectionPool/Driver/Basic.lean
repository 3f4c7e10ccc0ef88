import ConnectionPool.Call.Method
import ConnectionPool.Driver.Event
import ConnectionPool.Driver.Failure
import ConnectionPool.Registry

/-!
# The driver

A driver keeps connections and statements, numbered as it makes them, and logs what it does.
Faults can be switched on: connecting can fail a number of times, connections can report
themselves invalid, and clearing parameters, closing a result set, closing a statement with a
given text and closing a connection can fail. A statement or connection whose closing fails is
closed all the same; a result set whose closing fails stays open.

This file holds the state of the driver and its operations on connections. The operations on
statements are in `ConnectionPool.Driver.Statement`.
-/

set_option autoImplicit false

namespace ConnectionPool

/-- The state of a result set. -/
inductive ResultSet
  | opened
  | closed
  deriving DecidableEq, Repr, Inhabited

/-- **A statement of the driver**: its text, the connection and the call that made it unless it
was made outside any connection, the parameters bound to it (those below the highest bound
position may be missing), the result set of its last execution, and whether it is closed. -/
structure PhysicalStatement where
  sql : String
  origin : Option (PhysicalConnectionId × Call) := none
  parameters : List (Option Arg) := []
  resultSet : Option ResultSet := none
  closed : Bool := false
  deriving DecidableEq, Repr

/-- A statement that the driver never made is a closed one. -/
instance : Inhabited PhysicalStatement := ⟨{ sql := "", closed := true }⟩

/-- **A connection of the driver.** -/
structure PhysicalConnection where
  closed : Bool := false
  deriving DecidableEq, Repr

/-- A connection that the driver never made is a closed one. -/
instance : Inhabited PhysicalConnection := ⟨{ closed := true }⟩

/-- **The faults of a driver**, all off at first. -/
structure Faults where
  /-- How many attempts to connect will still fail. -/
  connect : Nat := 0
  /-- Every connection reports itself invalid. -/
  validity : Bool := false
  /-- Clearing parameters fails. -/
  clearing : Bool := false
  /-- Closing a result set fails. -/
  resultSetClosing : Bool := false
  /-- Closing a statement with one of these texts fails. -/
  statementClosing : List String := []
  /-- Closing a connection of a pool fails. -/
  connectionClosing : Bool := false
  deriving DecidableEq, Repr, Inhabited

/-- **The driver.** -/
structure Driver where
  connections : Registry PhysicalConnection := {}
  statements : Registry PhysicalStatement := {}
  faults : Faults := {}
  log : DriverLog := []
  deriving DecidableEq, Repr, Inhabited

namespace Driver

/-! ## The driver's errors -/

/-- The error of an attempt to connect. -/
def loginFailed : DriverError := ⟨"login failed", some "28000"⟩

/-- The error of every request to a closed connection. -/
def connectionClosed : DriverError := ⟨"connection is closed", some "08003"⟩

/-- The error of a request to prepare that names no text. -/
def missingText : DriverError := ⟨"missing SQL text", some "07001"⟩

/-- The error of closing a connection. -/
def closeFailed : DriverError := ⟨"close failed", none⟩

/-- The error of every request to a closed statement. -/
def statementClosed : DriverError := ⟨"statement is closed", some "HY010"⟩

/-- The error of binding to position zero. -/
def positionFromOne : DriverError := ⟨"parameter index is 1-based", some "07009"⟩

/-- The error of clearing parameters. -/
def clearingFailed : DriverError := ⟨"clear parameters failed", none⟩

/-- The error of closing a result set. -/
def resultSetClosingFailed : DriverError := ⟨"result set close failed", none⟩

/-- The error of closing a statement with a given text. -/
def statementClosingFailed (sql : String) : DriverError := ⟨"close failed for " ++ sql, none⟩

/-! ## Connections -/

/-- The driver after one more event. -/
def record (driver : Driver) (event : DriverEvent) : Driver :=
  { driver with log := driver.log ++ [event] }

/-- A connection by its number. -/
def connection (driver : Driver) (id : PhysicalConnectionId) : PhysicalConnection :=
  driver.connections.get id

/-- A statement by its number. -/
def statement (driver : Driver) (id : StatementId) : PhysicalStatement :=
  driver.statements.get id

/-- Open a connection, whatever faults are switched on. -/
def openConnection (driver : Driver) : Driver × PhysicalConnectionId :=
  let id := driver.connections.next
  ({ driver with connections := driver.connections.register {} }.record (.connected id), id)

/-- Open a connection for a pool, unless an attempt to connect is due to fail. -/
def connect (driver : Driver) : Driver × Except DriverError PhysicalConnectionId :=
  match driver.faults.connect with
  | 0 => let (driver, id) := driver.openConnection; (driver, .ok id)
  | due + 1 =>
      ({ driver with faults := { driver.faults with connect := due } }, .error loginFailed)

/-- Whether a connection is open and reports itself valid. -/
def isValid (driver : Driver) (id : PhysicalConnectionId) : Bool :=
  !(driver.connection id).closed && !driver.faults.validity

/-- Close a connection. Closing it again does nothing. -/
def closeConnection (driver : Driver) (id : PhysicalConnectionId) : Driver :=
  if (driver.connection id).closed then driver
  else
    { driver with connections := driver.connections.modify id fun _ => { closed := true } }.record
      (.connectionClosed id)

/-- Close a connection of a pool, which may be reported as failed. -/
def disconnect (driver : Driver) (id : PhysicalConnectionId) : Driver × Except DriverError Unit :=
  (driver.closeConnection id,
    if driver.faults.connectionClosing then .error closeFailed else .ok ())

/-! ## Making statements -/

/-- Make a statement, and log it by `event`. -/
def issue (driver : Driver) (statement : PhysicalStatement) (event : StatementId → DriverEvent) :
    Driver × StatementId :=
  let id := driver.statements.next
  ({ driver with statements := driver.statements.register statement }.record (event id), id)

/-- Make a statement outside any connection. -/
def looseStatement (driver : Driver) (sql : String) : Driver × StatementId :=
  driver.issue { sql } fun id => .prepared id sql

/-- Make a statement for a call on a connection from the text that comes first among the
arguments, and log it by `event`. -/
def prepareBy (driver : Driver) (connection : PhysicalConnectionId) (call : Call)
    (event : StatementId → String → DriverEvent) : Driver × Except DriverError StatementId :=
  if (driver.connection connection).closed then (driver, .error connectionClosed)
  else
    match call.sql? with
    | none => (driver, .error missingText)
    | some sql =>
        let (driver, id) :=
          driver.issue { sql, origin := some (connection, call) } fun id => event id sql
        (driver, .ok id)

/-- Prepare a statement. -/
def prepareStatement (driver : Driver) (connection : PhysicalConnectionId) (args : List Arg) :
    Driver × Except DriverError StatementId :=
  driver.prepareBy connection ⟨.prepareStatement, args⟩ .prepared

/-- Prepare a call of a stored procedure. -/
def prepareCall (driver : Driver) (connection : PhysicalConnectionId) (args : List Arg) :
    Driver × Except DriverError StatementId :=
  driver.prepareBy connection ⟨.prepareCall, args⟩ .preparedCall

/-- Make a statement without a text. -/
def createStatement (driver : Driver) (connection : PhysicalConnectionId) :
    Driver × Except DriverError StatementId :=
  if (driver.connection connection).closed then (driver, .error connectionClosed)
  else
    let (driver, id) :=
      driver.issue { sql := "", origin := some (connection, ⟨.createStatement, []⟩) } .created
    (driver, .ok id)

end Driver

end ConnectionPool
