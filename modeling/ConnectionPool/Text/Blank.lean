/-!
# Blank characters

The characters of the Unicode property `White_Space`, and `trim`, which removes them from
both ends of a text.
-/

set_option autoImplicit false

namespace ConnectionPool.Text

/-- **Blank**: the twenty-five code points of the Unicode property `White_Space`. -/
def isBlank (c : Char) : Bool :=
  let n := c.toNat
  (0x9 ≤ n && n ≤ 0xd) || n == 0x20 || n == 0x85 || n == 0xa0 || n == 0x1680
    || (0x2000 ≤ n && n ≤ 0x200a) || n == 0x2028 || n == 0x2029 || n == 0x202f
    || n == 0x205f || n == 0x3000

/-- The text without the blanks at its end. -/
def trimRight (text : List Char) : List Char :=
  (text.reverse.dropWhile isBlank).reverse

/-- The text without the blanks at either end. -/
def trim (text : List Char) : List Char :=
  trimRight (text.dropWhile isBlank)

end ConnectionPool.Text
