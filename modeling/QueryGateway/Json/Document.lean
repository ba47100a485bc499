import QueryGateway.Text.Utf8
import QueryGateway.Text.Hex

/-!
# JSON documents

Reading takes two steps.  The first checks the syntax alone and keeps strings and numbers as they
are written; the second, in `QueryGateway.Json.Reading`, gives them a meaning.  Members that nobody
asks for pass only the first step, so an unknown member may hold a lone surrogate, a number beyond
all ranges or any depth of nesting.

## Main definitions

* `Json.Piece` — what a string is made of as it is written.
* `Json.Numeral` — a number as it is written.
* `Json.Document` — a document whose strings and numbers are as written.
* `Json.Document.ofBytes?` — the reader.
-/

namespace QueryGateway.Json

/-- A character of the input, or a malformed run of bytes. -/
abbrev Glyph := Option Char

/-- A piece of a string as it is written. -/
inductive Piece
  /-- A character that stands for itself or was escaped by a letter. -/
  | char (c : Char)
  /-- A code unit given by four digits. -/
  | unit (n : Nat)
  /-- Bytes that are no character. -/
  | malformed
  deriving DecidableEq, Repr

/-- A number as it is written. -/
structure Numeral where
  negative : Bool
  whole : List Char
  /-- The digits after the point, if there is a point. -/
  fraction : Option (List Char)
  /-- The sign and the digits of the exponent, if there is one. -/
  exponent : Option (Bool × List Char)
  deriving DecidableEq, Repr

/-- A document whose strings and numbers are as written. -/
inductive Document
  | null
  | bool (b : Bool)
  | number (n : Numeral)
  | string (pieces : List Piece)
  | array (items : List Document)
  | object (members : List (List Piece × Document))

namespace Document

/-- Blanks between tokens: space, tab, line feed and carriage return. -/
def isSpace : Glyph → Bool
  | some c => c == ' ' || c == '\t' || c == '\n' || c == '\r'
  | none => false

/-- The input after its leading blanks. -/
def skipSpace (input : List Glyph) : List Glyph :=
  input.dropWhile isSpace

/-- The character that a letter after a backslash stands for. -/
def escape? : Char → Option Char
  | '"' => some '"'
  | '\\' => some '\\'
  | '/' => some '/'
  | 'b' => some '\x08'
  | 'f' => some '\x0c'
  | 'n' => some '\n'
  | 'r' => some '\r'
  | 't' => some '\t'
  | _ => none

/-- The value of a hexadecimal digit of the input. -/
def hex? (g : Glyph) : Option Nat := g.bind Hex.value?

/-- Reads a string after its opening quote: its pieces, and the input after the closing quote.
Characters below the space must be escaped. -/
def readString : List Glyph → Option (List Piece × List Glyph)
  | [] => none
  | some '"' :: rest => some ([], rest)
  | some '\\' :: some 'u' :: a :: b :: c :: d :: rest => do
    let n := 16 * (16 * (16 * (← hex? a) + (← hex? b)) + (← hex? c)) + (← hex? d)
    let (pieces, left) ← readString rest
    return (.unit n :: pieces, left)
  | some '\\' :: some e :: rest => do
    let c ← escape? e
    let (pieces, left) ← readString rest
    return (.char c :: pieces, left)
  | some '\\' :: _ => none
  | some c :: rest =>
    if c < ' ' then none
    else do
      let (pieces, left) ← readString rest
      return (.char c :: pieces, left)
  | none :: rest => do
    let (pieces, left) ← readString rest
    return (.malformed :: pieces, left)

/-- The decimal digits at the start of the input, and the input after them. -/
def spanDigits : List Glyph → List Char × List Glyph
  | some c :: rest =>
    if c.isDigit then
      let (digits, left) := spanDigits rest
      (c :: digits, left)
    else ([], some c :: rest)
  | input => ([], input)

/-- Digits of which there must be one. -/
def readDigits (input : List Glyph) : Option (List Char × List Glyph) :=
  match spanDigits input with
  | ([], _) => none
  | (digits, left) => some (digits, left)

/-- The digits before the point: a zero alone, or digits that do not start with one. -/
def readWhole (input : List Glyph) : Option (List Char × List Glyph) := do
  let (digits, left) ← readDigits input
  match digits with
  | '0' :: _ :: _ => none
  | _ => some (digits, left)

/-- The digits after a point, if one follows. -/
def readFraction : List Glyph → Option (Option (List Char) × List Glyph)
  | some '.' :: rest => do
    let (digits, left) ← readDigits rest
    return (some digits, left)
  | input => some (none, input)

/-- The sign and digits of an exponent, after its mark. -/
def readExponentDigits : List Glyph → Option (Option (Bool × List Char) × List Glyph)
  | some '-' :: rest => (readDigits rest).map fun (digits, left) => (some (true, digits), left)
  | some '+' :: rest => (readDigits rest).map fun (digits, left) => (some (false, digits), left)
  | input => (readDigits input).map fun (digits, left) => (some (false, digits), left)

/-- An exponent, if one follows. -/
def readExponent : List Glyph → Option (Option (Bool × List Char) × List Glyph)
  | some 'e' :: rest => readExponentDigits rest
  | some 'E' :: rest => readExponentDigits rest
  | input => some (none, input)

/-- A number after its sign. -/
def readNumeral (negative : Bool) (input : List Glyph) : Option (Numeral × List Glyph) := do
  let (whole, input) ← readWhole input
  let (fraction, input) ← readFraction input
  let (exponent, input) ← readExponent input
  return (⟨negative, whole, fraction, exponent⟩, input)

mutual

/-- Reads a value at the start of the input; `fuel` bounds the nesting. -/
def readValue : Nat → List Glyph → Option (Document × List Glyph)
  | 0, _ => none
  | fuel + 1, input =>
    match input with
    | some 'n' :: some 'u' :: some 'l' :: some 'l' :: rest => some (.null, rest)
    | some 't' :: some 'r' :: some 'u' :: some 'e' :: rest => some (.bool true, rest)
    | some 'f' :: some 'a' :: some 'l' :: some 's' :: some 'e' :: rest => some (.bool false, rest)
    | some '"' :: rest => do
      let (pieces, left) ← readString rest
      return (.string pieces, left)
    | some '[' :: rest =>
      match skipSpace rest with
      | some ']' :: left => some (.array [], left)
      | start => do
        let (items, left) ← readItems fuel start
        return (.array items, left)
    | some '\x7b' :: rest =>
      match skipSpace rest with
      | some '\x7d' :: left => some (.object [], left)
      | start => do
        let (members, left) ← readMembers fuel start
        return (.object members, left)
    | some '-' :: rest => (readNumeral true rest).map fun (n, left) => (.number n, left)
    | input => (readNumeral false input).map fun (n, left) => (.number n, left)

/-- Reads items up to the closing bracket. -/
def readItems : Nat → List Glyph → Option (List Document × List Glyph)
  | 0, _ => none
  | fuel + 1, input => do
    let (item, left) ← readValue fuel input
    match skipSpace left with
    | some ']' :: left => some ([item], left)
    | some ',' :: left =>
      let (items, left) ← readItems fuel (skipSpace left)
      return (item :: items, left)
    | _ => none

/-- Reads members up to the closing brace. -/
def readMembers : Nat → List Glyph → Option (List (List Piece × Document) × List Glyph)
  | 0, _ => none
  | fuel + 1, input =>
    match input with
    | some '"' :: rest => do
      let (key, left) ← readString rest
      match skipSpace left with
      | some ':' :: left =>
        let (value, left) ← readValue fuel (skipSpace left)
        match skipSpace left with
        | some '\x7d' :: left => some ([(key, value)], left)
        | some ',' :: left =>
          let (members, left) ← readMembers fuel (skipSpace left)
          return ((key, value) :: members, left)
        | _ => none
      | _ => none
    | _ => none

end

/-- The document that a whole input writes.  Each step of reading consumes a character, so the
length of the input bounds the nesting. -/
def ofGlyphs? (input : List Glyph) : Option Document :=
  match readValue (2 * input.length + 2) (skipSpace input) with
  | some (doc, left) => if (skipSpace left).isEmpty then some doc else none
  | none => none

/-- The document that bytes write. -/
def ofBytes? (bytes : Bytes) : Option Document :=
  ofGlyphs? (Utf8.scan bytes)

end Document

end QueryGateway.Json
