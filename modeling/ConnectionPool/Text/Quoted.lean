import ConnectionPool.Text.Category

/-!
# Quoted text

The printed form of a text: between double quotes, with a quote and a backslash behind a
backslash, the four controls that have a letter (`\0 \t \r \n`) by that letter, every other
character without a visible form and every combining character as its code point in braces,
and all else as it is. Every escape begins with a backslash, so a quote that is not escaped
ends the text.
-/

set_option autoImplicit false

namespace ConnectionPool.Text

/-- The code point of `c` in lower-case hexadecimal, in the braces of an escape. -/
def codePointEscape (c : Char) : List Char :=
  '\\' :: 'u' :: '\x7b' :: (Nat.toDigits 16 c.toNat ++ ['\x7d'])

/-- One character inside quotes. -/
def escape (c : Char) : List Char :=
  if c = '\x00' then ['\\', '0']
  else if c = '\t' then ['\\', 't']
  else if c = '\r' then ['\\', 'r']
  else if c = '\n' then ['\\', 'n']
  else if c = '"' then ['\\', '"']
  else if c = '\\' then ['\\', '\\']
  else if isExtending c || !isPrintable c then codePointEscape c
  else [c]

/-- A text in quotes, as characters. -/
def quoteChars (text : List Char) : List Char :=
  '"' :: (text.flatMap escape ++ ['"'])

/-- **A text in quotes.** -/
def quote (text : String) : String :=
  String.ofList (quoteChars text.toList)

end ConnectionPool.Text
