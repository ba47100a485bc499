/-!
# Places in a YAML text

Indentation carries meaning in YAML, so a place in a text knows its line and column.

## Main definitions

* `isBreak`, `isBlank` — line breaks and blanks.
* `Cursor` — a place in a text.
* `Cursor.skip`, `Cursor.span`, `Cursor.readBreak` — moving on.
-/

namespace QueryGateway.Yaml

/-- Whether a character ends a line. -/
def isBreak (c : Char) : Bool :=
  c = '\n' || c = '\r' || c = '\u0085' || c = '\u2028' || c = '\u2029'

/-- Whether a character is a blank within a line. -/
def isBlank (c : Char) : Bool := c = ' ' || c = '\t'

/-- Whether a character may occur in a text. -/
def isPrintable (c : Char) : Bool :=
  c = '\t' || c = '\n' || c = '\r' || (' ' ≤ c && c ≤ '~') || c = '\u0085' ||
    ('\u00a0' ≤ c && c ≤ '\ufffd') || 0x10000 ≤ c.toNat

/-- Whether a character may occur in the name of an anchor or of a directive. -/
def isWord (c : Char) : Bool := c.isAlphanum || c = '_' || c = '-'

/-- A place in a text. -/
structure Cursor where
  rest : List Char
  line : Nat := 0
  column : Nat := 0
  /-- The number of characters before the place. -/
  index : Nat := 0
  deriving DecidableEq, Repr

namespace Cursor

/-- The character so many places ahead. -/
def peek (c : Cursor) (ahead : Nat := 0) : Option Char := c.rest[ahead]?

/-- Whether a character is so many places ahead. -/
def sees (c : Cursor) (x : Char) (ahead : Nat := 0) : Bool := c.peek ahead == some x

/-- Whether one of some characters is so many places ahead. -/
def seesAny (c : Cursor) (xs : List Char) (ahead : Nat := 0) : Bool := (c.peek ahead).any xs.contains

/-- Whether a blank is here. -/
def atBlank (c : Cursor) : Bool := c.peek.any isBlank

/-- Whether a line break is here. -/
def atBreak (c : Cursor) : Bool := c.peek.any isBreak

/-- Whether the line or the text ends here. -/
def atLineEnd (c : Cursor) : Bool := c.peek.all isBreak

/-- Whether a blank, a line break or the end of the text is so many places ahead. -/
def gapAhead (c : Cursor) (ahead : Nat := 0) : Bool := (c.peek ahead).all fun x => isBlank x || isBreak x

/-- Whether a line that starts here separates documents. -/
def atDocumentMark (c : Cursor) : Bool :=
  c.column = 0 && (['-', '.'].any fun x => c.rest.take 3 = [x, x, x]) && c.gapAhead 3

/-- The place after so many characters of the line. -/
def skip (c : Cursor) (count : Nat := 1) : Cursor :=
  { c with rest := c.rest.drop count, column := c.column + count, index := c.index + count }

/-- The characters of the line that satisfy a test, and the place after them. -/
def span (c : Cursor) (test : Char → Bool) : List Char × Cursor :=
  let taken := c.rest.takeWhile test
  (taken, c.skip taken.length)

/-- The place after the characters that satisfy a test. -/
def skipWhile (c : Cursor) (test : Char → Bool) : Cursor := (c.span test).2

/-- The start of the next line, so many characters on. -/
def nextLine (c : Cursor) (count : Nat) : Cursor :=
  { rest := c.rest.drop count, line := c.line + 1, column := 0, index := c.index + count }

/-- The line break that is here, as it counts in a text, and the place after it. -/
def readBreak (c : Cursor) : List Char × Cursor :=
  match c.rest with
  | '\r' :: '\n' :: _ => (['\n'], c.nextLine 2)
  | x :: _ =>
    if x = '\u2028' || x = '\u2029' then ([x], c.nextLine 1)
    else if isBreak x then (['\n'], c.nextLine 1)
    else ([], c)
  | [] => ([], c)

end Cursor

end QueryGateway.Yaml
