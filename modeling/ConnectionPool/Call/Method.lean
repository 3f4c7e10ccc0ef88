import ConnectionPool.Call.Arg

/-!
# Calls on a connection

The four operations of a connection that travel through its chain of interceptors, and a
call: an operation with its arguments.
-/

set_option autoImplicit false

namespace ConnectionPool

/-- **An operation of a connection** that interceptors can see. -/
inductive Method
  | prepareStatement
  | prepareCall
  | createStatement
  | isValid
  deriving DecidableEq, Repr, Inhabited

namespace Method

/-- All operations. -/
def all : List Method := [prepareStatement, prepareCall, createStatement, isValid]

/-- The name of the operation. -/
def word : Method → String
  | prepareStatement => "prepareStatement"
  | prepareCall => "prepareCall"
  | createStatement => "createStatement"
  | isValid => "isValid"

/-- The operation with a given name. -/
def ofWord? (name : String) : Option Method := all.find? (·.word == name)

/-- Whether the operation prepares a statement from its text. -/
def prepares : Method → Bool
  | prepareStatement => true
  | prepareCall => true
  | _ => false

theorem ofWord?_word (method : Method) : ofWord? method.word = some method := by
  cases method <;> decide +kernel

end Method

/-- **A call**: an operation and its arguments, the statement text first. -/
structure Call where
  method : Method
  args : List Arg
  deriving DecidableEq, Repr, Inhabited

namespace Call

/-- The statement text, if the first argument is a text. -/
def sql? (call : Call) : Option String := call.args.head?.bind Arg.text?

end Call

end ConnectionPool
