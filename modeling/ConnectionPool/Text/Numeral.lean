/-!
# Natural numbers in decimal

`readNatural?` reads a decimal numeral with an optional leading plus sign, below a given
bound. It accepts digits of the ASCII set alone, any number of leading zeros, and nothing
else: no blank, no minus sign, no separator.
-/

set_option autoImplicit false

namespace ConnectionPool.Text

/-- The value of a row of digits, most significant first, continuing from `start`. -/
def valueOfDigits (start : Nat) (digits : List Char) : Nat :=
  digits.foldl (fun value digit => 10 * value + (digit.toNat - '0'.toNat)) start

/-- The digits of a numeral: the text without one leading plus sign. -/
def unsigned : List Char → List Char
  | '+' :: rest => rest
  | text => text

/-- The number a text denotes, if it is at least one ASCII digit after an optional plus sign
and its value lies below `bound`. -/
def readNatural? (bound : Nat) (text : List Char) : Option Nat :=
  let digits := unsigned text
  if digits.isEmpty || !digits.all Char.isDigit then none
  else
    let value := valueOfDigits 0 digits
    if value < bound then some value else none

end ConnectionPool.Text
