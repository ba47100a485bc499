/-!
# Blank characters

Numbers that arrive as text may be padded, and a configuration of blanks alone is an empty one.
"Blank" is the Unicode property White_Space.

## Main definitions

* `isBlank` — the property.
* `trim` — a text without the blanks at its ends.
-/

namespace QueryGateway.Text

/-- The Unicode property White_Space. -/
def isBlank (c : Char) : Bool :=
  let n := c.toNat
  (9 ≤ n && n ≤ 13) || n == 0x20 || n == 0x85 || n == 0xA0 || n == 0x1680 ||
    (0x2000 ≤ n && n ≤ 0x200A) || n == 0x2028 || n == 0x2029 || n == 0x202F || n == 0x205F ||
    n == 0x3000

/-- The characters without the blanks at both ends. -/
def trimChars (cs : List Char) : List Char :=
  ((cs.dropWhile isBlank).reverse.dropWhile isBlank).reverse

/-- A text without the blanks at both ends. -/
def trim (text : String) : String :=
  String.ofList (trimChars text.toList)

end QueryGateway.Text
