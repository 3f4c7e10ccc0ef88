import ConnectionPool.Pool.Failure
import ConnectionPool.Table
import ConnectionPool.Text.Blank
import ConnectionPool.Text.Fields
import ConnectionPool.Text.Numeral

/-!
# Properties of an interceptor

A set of named texts, usually written as one line such as `prepared=true, max=50`. The line
is cut at its commas; blanks around a part, a name or a value do not count; a part that is
blank is skipped; a part that has no equals sign, or nothing before the first one, is an
error. A name that comes again replaces its value.

A property is read as a truth value or a number with a default, which stands for a missing
property and for one that is not written as such.
-/

set_option autoImplicit false

namespace ConnectionPool

/-- **Properties**: named texts. -/
abbrev Properties := Table (fun _ : String => String)

namespace Properties

/-- The first number that a machine word of 64 bits cannot hold. -/
def wordBound : Nat := UInt64.size

/-- The properties with one comma-free part of a line read into them. -/
def readPart (properties : Properties) (part : List Char) : Except PoolError Properties :=
  let part := Text.trim part
  if part.isEmpty then .ok properties
  else
    match Text.cutAt? '=' part with
    | none => .error (.configuration (.malformedProperty (String.ofList part)))
    | some (name, value) =>
        let name := Text.trim name
        if name.isEmpty then
          .error (.configuration (.namelessProperty (String.ofList part)))
        else .ok (properties.insert (String.ofList name) (String.ofList (Text.trim value)))

/-- **The properties written on a line.** The first faulty part decides the error. -/
def parse (line : String) : Except PoolError Properties :=
  (Text.fields ',' line.toList).foldlM readPart Table.empty

/-- Whether a text is a given lower-case word, in any ASCII letter case. -/
def isWord (word : String) (text : String) : Bool :=
  text.toList.map Char.toLower == word.toList

/-- A truth value: `true` and `false` in any letter case, the default for all else. -/
def truthOf (properties : Properties) (name : String) (default : Bool) : Bool :=
  match properties.get? name with
  | none => default
  | some text =>
      if isWord "true" text then true else if isWord "false" text then false else default

/-- A number below `wordBound` in decimal, the default for all else. -/
def numberOf (properties : Properties) (name : String) (default : Nat) : Nat :=
  ((properties.get? name).bind fun text => Text.readNatural? wordBound text.toList).getD default

/-- Whether two sets hold the same properties, in whatever order. -/
def agree (a b : Properties) : Bool :=
  a.size == b.size && a.entries.all fun entry => b.get? entry.1 == some entry.2

/-- The printed form. -/
def describe (properties : Properties) : String :=
  Text.record "InterceptorProperties"
    [("values", Text.mapping (properties.entries.map fun entry =>
      (Text.quote entry.1, Text.quote entry.2)))]

end Properties

end ConnectionPool
