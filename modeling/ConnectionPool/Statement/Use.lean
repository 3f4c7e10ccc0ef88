import ConnectionPool.World

/-!
# Using a statement through its handle

Binding, executing, clearing and reading a statement go through any number of facades to the
driver's statement. A spent facade answers them like a closed statement, except that it has
no result set.
-/

set_option autoImplicit false

namespace ConnectionPool

namespace World

/-- Do something with the driver's statement behind a handle; a handle that reaches none
answers that the statement is closed. -/
def onTarget {α : Type} (w : World) (statement : Statement)
    (action : StatementId → Driver → Driver × Except DriverError α) :
    World × Except DriverError α :=
  match statement.target? with
  | none => (w, .error Driver.statementClosed)
  | some id => w.onDriver (action id)

/-- Bind a parameter to a position, counted from 1. -/
def bind (w : World) (statement : Statement) (position : Nat) (value : Arg) :
    World × Except DriverError Unit :=
  w.onTarget statement fun id driver => driver.bind id position value

/-- Execute a statement; the answer is the number of rows affected. -/
def execute (w : World) (statement : Statement) : World × Except DriverError Nat :=
  w.onTarget statement fun id driver => driver.execute id

/-- Clear the parameters of a statement. -/
def clearParameters (w : World) (statement : Statement) : World × Except DriverError Unit :=
  w.onTarget statement fun id driver => driver.clearParameters id

/-- The result set of the last execution. -/
def resultSet? (w : World) (statement : Statement) : Option ResultSet :=
  statement.target?.bind fun id => (w.driver.statement id).resultSet

/-- Close the result set, if there is one. -/
def closeResultSet (w : World) (statement : Statement) :
    World × Option (Except DriverError Unit) :=
  match statement.target?, w.resultSet? statement with
  | some id, some _ =>
      let (w, result) := w.onDriver fun driver => driver.closeResultSet id
      (w, some result)
  | _, _ => (w, none)

/-- Whether a statement is closed; behind a spent facade it is. -/
def isClosed (w : World) (statement : Statement) : Bool :=
  match statement.target? with
  | none => true
  | some id => (w.driver.statement id).closed

/-- Make a statement fit to be used again: close the result set if it is open, then clear the
parameters. The first failure ends it. -/
def reset (w : World) (statement : Statement) : World × Except DriverError Unit :=
  match w.resultSet? statement with
  | some .opened =>
      match w.closeResultSet statement with
      | (w, some (.error error)) => (w, .error error)
      | (w, _) => w.clearParameters statement
  | _ => w.clearParameters statement

end World

end ConnectionPool
