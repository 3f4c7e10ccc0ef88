import ConnectionPool.Driver.Basic

/-!
# Operations on the driver's statements

Binding and clearing parameters, executing, the result set of the last execution, and
closing. A closed statement refuses all of them but closing, which then does nothing.
-/

set_option autoImplicit false

namespace ConnectionPool

/-- The list with `value` at position `index`, counted from 0; missing positions below it
are filled with `none`. -/
def placeParameter (parameters : List (Option Arg)) (index : Nat) (value : Arg) :
    List (Option Arg) :=
  (parameters ++ List.replicate (index + 1 - parameters.length) none).set index (some value)

namespace Driver

/-- The driver with a statement changed. -/
def updateStatement (driver : Driver) (id : StatementId)
    (change : PhysicalStatement → PhysicalStatement) : Driver :=
  { driver with statements := driver.statements.modify id change }

/-- Bind a parameter to a position, counted from 1. -/
def bind (driver : Driver) (id : StatementId) (position : Nat) (value : Arg) :
    Driver × Except DriverError Unit :=
  if (driver.statement id).closed then (driver, .error statementClosed)
  else
    match position with
    | 0 => (driver, .error positionFromOne)
    | index + 1 =>
        (driver.updateStatement id fun s =>
          { s with parameters := placeParameter s.parameters index value }, .ok ())

/-- Execute a statement, which opens a result set. Every execution affects one row. -/
def execute (driver : Driver) (id : StatementId) : Driver × Except DriverError Nat :=
  if (driver.statement id).closed then (driver, .error statementClosed)
  else
    ((driver.updateStatement id fun s => { s with resultSet := some .opened }).record
      (.executed id), .ok 1)

/-- Clear the parameters of a statement. -/
def clearParameters (driver : Driver) (id : StatementId) : Driver × Except DriverError Unit :=
  if (driver.statement id).closed then (driver, .error statementClosed)
  else if driver.faults.clearing then (driver, .error clearingFailed)
  else
    ((driver.updateStatement id fun s => { s with parameters := [] }).record
      (.parametersCleared id), .ok ())

/-- Close the result set of a statement. Closing it again does nothing, except that a fault
is reported each time. -/
def closeResultSet (driver : Driver) (id : StatementId) : Driver × Except DriverError Unit :=
  if driver.faults.resultSetClosing then (driver, .error resultSetClosingFailed)
  else if (driver.statement id).resultSet = some .opened then
    ((driver.updateStatement id fun s => { s with resultSet := some .closed }).record
      (.resultSetClosed id), .ok ())
  else (driver, .ok ())

/-- Close a statement and drop its result set. Closing it again does nothing. -/
def closeStatement (driver : Driver) (id : StatementId) : Driver × Except DriverError Unit :=
  let statement := driver.statement id
  if statement.closed then (driver, .ok ())
  else
    ((driver.updateStatement id fun s => { s with closed := true, resultSet := none }).record
        (.statementClosed id),
      if driver.faults.statementClosing.contains statement.sql then
        .error (statementClosingFailed statement.sql)
      else .ok ())

end Driver

end ConnectionPool
