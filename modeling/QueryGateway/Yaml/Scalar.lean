import QueryGateway.Text.Hex
import QueryGateway.Yaml.Cursor

/-!
# Scalars of YAML

A scalar is written plainly, in quotes, or as a block of lines.  Where a plain or quoted scalar goes on
in the next line, the line break and the blanks around it count as one space, and each further line
break as itself.

## Main definitions

* `Gap` — what stands between two parts of a scalar, and what it counts as.
* `readPlain`, `readQuoted`, `readBlock` — the three forms.
-/

namespace QueryGateway.Yaml

/-- What stands between two parts of a scalar: blanks, or line breaks, the first one apart. -/
structure Gap where
  blanks : List Char := []
  breaks : Option (List Char × List Char) := none
  deriving DecidableEq, Repr

/-- What a gap counts as. -/
def Gap.text (g : Gap) : List Char :=
  match g.breaks with
  | none => g.blanks
  | some (first, more) =>
    if first = ['\n'] then if more = [] then [' '] else more else first ++ more

/-- Reads the rest of a gap.  In a new line no tab may stand left of a column. -/
def readGap (margin : Nat) : Nat → Gap → Cursor → Option (Gap × Cursor)
  | 0, _, _ => none
  | fuel + 1, g, c =>
    match c.peek with
    | none => some (g, c)
    | some x =>
      if isBlank x then
        if g.breaks.isNone then readGap margin fuel { g with blanks := g.blanks ++ [x] } c.skip
        else if x = '\t' && c.column < margin then none
        else readGap margin fuel g c.skip
      else if isBreak x then
        let (b, c) := c.readBreak
        let breaks := match g.breaks with
          | none => (b, [])
          | some (first, more) => (first, more ++ b)
        readGap margin fuel { breaks := some breaks } c
      else some (g, c)

/-- The characters that end a plain scalar within brackets. -/
def flowMarks : List Char := [',', '[', ']', '\x7b', '\x7d']

/-- Reads the characters of a plain scalar up to a gap or its end. -/
def readChunk (flow : Bool) : Nat → Cursor → Option (List Char × Cursor)
  | 0, _ => none
  | fuel + 1, c =>
    if c.gapAhead then some ([], c)
    else if flow && c.sees ':' && c.seesAny ('?' :: flowMarks) 1 then none
    else if c.sees ':' && c.gapAhead 1 then some ([], c)
    else if flow && c.seesAny flowMarks then some ([], c)
    else do
      let (chunk, after) ← readChunk flow fuel c.skip
      return (c.rest.take 1 ++ chunk, after)

/-- Reads the rest of a plain scalar; `margin` is the least column where it may go on.  Says also
whether it was left at the start of a line. -/
def readPlainFrom (flow : Bool) (margin : Nat) :
    Nat → List Char → Gap → Cursor → Option (List Char × Bool × Cursor)
  | 0, _, _, _ => none
  | fuel + 1, text, gap, c =>
    if c.atDocumentMark || c.sees '#' then some (text, gap.breaks.isSome, c)
    else do
      let (chunk, c) ← readChunk flow (fuel + 1) c
      let (text, gap) := if chunk = [] then (text, gap) else (text ++ gap.text ++ chunk, {})
      if c.peek.isNone || !c.gapAhead then return (text, gap.breaks.isSome, c)
      else
        let (gap, c) ← readGap margin (fuel + 1) gap c
        if !flow && c.column < margin then return (text, gap.breaks.isSome, c)
        else readPlainFrom flow margin fuel text gap c

/-- Reads a plain scalar. -/
def readPlain (flow : Bool) (margin : Nat) (c : Cursor) : Option (List Char × Bool × Cursor) :=
  readPlainFrom flow margin (c.rest.length + 2) [] {} c

/-- The characters that stand for another after a backslash. -/
def escapes : List (Char × Char) :=
  [('0', '\x00'), ('a', '\x07'), ('b', '\x08'), ('t', '\t'), ('\t', '\t'), ('n', '\n'),
    ('v', '\x0b'), ('f', '\x0c'), ('r', '\r'), ('e', '\x1b'), (' ', ' '), ('"', '"'), ('/', '/'),
    ('\\', '\\'), ('N', '\u0085'), ('_', '\u00a0'), ('L', '\u2028'), ('P', '\u2029')]

/-- The number of hex digits that follow a letter after a backslash. -/
def hexEscapes : List (Char × Nat) := [('x', 2), ('u', 4), ('U', 8)]

/-- The character with a code in hex digits. -/
def hexChar? (digits : List Char) : Option Char := do
  let values ← digits.mapM Hex.value?
  let code := values.foldl (16 * · + ·) 0
  if code.isValidChar then return Char.ofNat code else none

/-- Reads what follows a backslash in double quotes. -/
def readEscape (c : Cursor) : Option (Char × Cursor) := do
  let letter ← c.peek
  match escapes.lookup letter with
  | some x => return (x, c.skip)
  | none =>
    let count ← hexEscapes.lookup letter
    let digits := c.skip.rest.take count
    if digits.length = count then return (← hexChar? digits, c.skip (1 + count)) else none

/-- Reads the rest of a quoted scalar. -/
def readQuotedFrom (quote : Char) : Nat → List Char → Cursor → Option (List Char × Cursor)
  | 0, _, _ => none
  | fuel + 1, text, c =>
    if c.atDocumentMark then none
    else
      match c.peek with
      | none => none
      | some x =>
        if isBlank x || isBreak x then do
          let (gap, c) ← readGap 0 (fuel + 1) {} c
          readQuotedFrom quote fuel (text ++ gap.text) c
        else if x = quote then
          if quote = '\x27' && c.sees quote 1 then
            readQuotedFrom quote fuel (text ++ [x]) (c.skip 2)
          else some (text, c.skip)
        else if x = '\\' && quote = '"' then
          if c.skip.atBreak then do
            -- A line break after a backslash counts as nothing.
            let (gap, c) ← readGap 0 (fuel + 1) { breaks := some ([], []) } c.skip.readBreak.2
            readQuotedFrom quote fuel (text ++ gap.text) c
          else do
            let (y, c) ← readEscape c.skip
            readQuotedFrom quote fuel (text ++ [y]) c
        else readQuotedFrom quote fuel (text ++ [x]) c.skip

/-- Reads a quoted scalar, whose quote is here. -/
def readQuoted (c : Cursor) : Option (List Char × Cursor) := do
  readQuotedFrom (← c.peek) (c.rest.length + 1) [] c.skip

/-- What is done with the line breaks at the end of a block. -/
inductive Chomping
  | clip
  | strip
  | keep
  deriving DecidableEq, Repr

/-- Reads the mark of what is done with line breaks. -/
def readChomping (c : Cursor) : Chomping × Cursor :=
  if c.sees '+' then (.keep, c.skip) else if c.sees '-' then (.strip, c.skip) else (.clip, c)

/-- Reads the digit that gives the indentation of a block, which may not be zero. -/
def readIncrement (c : Cursor) : Option (Nat × Cursor) :=
  match c.peek with
  | some x => if x.isDigit then if x = '0' then none else some (x.toNat - 48, c.skip) else some (0, c)
  | none => some (0, c)

/-- Reads the marks after the sign of a block, in either order. -/
def readBlockMarks (c : Cursor) : Option (Chomping × Nat × Cursor) := do
  if c.seesAny ['+', '-'] then
    let (chomping, c) := readChomping c
    let (increment, c) ← readIncrement c
    return (chomping, increment, c)
  else
    let (increment, c) ← readIncrement c
    let (chomping, c) := if increment = 0 then (.clip, c) else readChomping c
    return (chomping, increment, c)

/-- Reads empty lines of a block and the indentation after them.  An indentation of zero is not known
yet: the first line that is not empty gives it, but it is at least `least`. -/
def readEmptyLines (least : Nat) :
    Nat → Nat → Nat → List Char → Cursor → Option (Nat × List Char × Cursor)
  | 0, _, _, _, _ => none
  | fuel + 1, indent, widest, breaks, c =>
    let spaces := (c.rest.takeWhile (· = ' ')).length
    let c := c.skip (if indent = 0 then spaces else min spaces (indent - c.column))
    let widest := max widest c.column
    if (indent = 0 || c.column < indent) && c.sees '\t' then none
    else if c.atBreak then
      let (b, c) := c.readBreak
      readEmptyLines least fuel indent widest (breaks ++ b) c
    else some (if indent = 0 then max widest least else indent, breaks, c)

/-- A block as far as it is read. -/
structure BlockText where
  text : List Char := []
  /-- The line break after the last line. -/
  ending : List Char := []
  /-- The last line starts with a blank. -/
  startsBlank : Bool := false
  /-- The empty lines after the last line. -/
  empty : List Char := []
  deriving DecidableEq, Repr

/-- What stands between the last line of a block and the next. -/
def BlockText.joint (b : BlockText) (folded nextStartsBlank : Bool) : List Char :=
  if folded && b.ending = ['\n'] && !b.startsBlank && !nextStartsBlank then
    if b.empty = [] then [' '] else b.empty
  else b.ending ++ b.empty

/-- Reads the lines of a block. -/
def readLines (folded : Bool) (indent : Nat) :
    Nat → BlockText → Cursor → Option (BlockText × Cursor)
  | 0, _, _ => none
  | fuel + 1, b, c =>
    if c.column = indent && c.peek.isSome then do
      let startsBlank := c.atBlank
      let (line, after) := c.span fun x => !isBreak x
      let text := b.text ++ b.joint folded startsBlank ++ line
      let (ending, after) := after.readBreak
      let (_, empty, after) ← readEmptyLines 1 (fuel + 1) indent 0 [] after
      readLines folded indent fuel { text, ending, startsBlank, empty } after
    else some (b, c)

/-- Reads a block, whose sign is here, within a node of some indentation. -/
def readBlock (outer : Int) (c : Cursor) : Option (List Char × Cursor) := do
  let folded := c.sees '>'
  let (chomping, increment, c) ← readBlockMarks c.skip
  let c := c.skipWhile isBlank
  let c := if c.sees '#' then c.skipWhile fun x => !isBreak x else c
  if !c.atLineEnd then none
  let (_, c) := c.readBreak
  let indent := if increment = 0 then 0 else outer.toNat + increment
  let least := max (outer + 1).toNat 1
  let fuel := c.rest.length + 2
  let (indent, empty, c) ← readEmptyLines least fuel indent 0 [] c
  let (b, c) ← readLines folded indent fuel { empty } c
  return (b.text ++ (match chomping with
    | .strip => []
    | .clip => b.ending
    | .keep => b.ending ++ b.empty), c)

end QueryGateway.Yaml
