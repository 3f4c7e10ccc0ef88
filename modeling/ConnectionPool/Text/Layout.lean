/-!
# Printed forms of compound values

The shapes in which records, lists and optional values are printed: `Name { field: value }`,
`[a, b]`, `Some(a)` and `None`. Every printed form in the library is put together from these.
-/

set_option autoImplicit false

namespace ConnectionPool.Text

/-- A record by its name and its fields in order. -/
def record (name : String) (fields : List (String × String)) : String :=
  let body := ", ".intercalate (fields.map fun (field, value) => field ++ ": " ++ value)
  name ++ " \x7b " ++ body ++ " \x7d"

/-- A list in brackets. -/
def listing (items : List String) : String :=
  "[" ++ ", ".intercalate items ++ "]"

/-- A mapping in braces. -/
def mapping (entries : List (String × String)) : String :=
  "\x7b" ++ ", ".intercalate (entries.map fun (key, value) => key ++ ": " ++ value) ++ "\x7d"

/-- A value that may be missing. -/
def optional : Option String → String
  | none => "None"
  | some value => "Some(" ++ value ++ ")"

/-- A truth value as a word. -/
def truth (value : Bool) : String := if value then "true" else "false"

end ConnectionPool.Text
