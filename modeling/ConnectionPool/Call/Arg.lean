import ConnectionPool.Text.Quoted
import ConnectionPool.Text.Layout

/-!
# Arguments of calls

What a client passes to an operation of a connection: the statement text first, driver flags
after it. `Arg.render` is the short printed form, `Arg.describe` the one that names the kind.
-/

set_option autoImplicit false

namespace ConnectionPool

/-- **An argument**: a text, an integer flag, or a list of either. -/
inductive Arg
  | text (value : String)
  | int (value : Int)
  | ints (values : List Int)
  | texts (values : List String)
  deriving DecidableEq, Repr, Inhabited

namespace Arg

/-- The value of a text argument. -/
def text? : Arg → Option String
  | text value => some value
  | _ => none

/-- The argument as it stands in a printed call: texts in quotes, lists in brackets. -/
def render : Arg → String
  | text value => Text.quote value
  | int value => toString value
  | ints values => Text.listing (values.map toString)
  | texts values => Text.listing (values.map Text.quote)

/-- The argument with the name of its kind. -/
def describe : Arg → String
  | text value => "Text(" ++ Text.quote value ++ ")"
  | int value => "Int(" ++ toString value ++ ")"
  | ints values => "Ints(" ++ Text.listing (values.map toString) ++ ")"
  | texts values => "Texts(" ++ Text.listing (values.map Text.quote) ++ ")"

end Arg

end ConnectionPool
