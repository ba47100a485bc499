import QueryGateway.Yaml.Scalar

/-!
# Tokens of YAML

A text is a list of tokens, in which indentation shows as starts and ends of collections.  That
something was a key is known only when a colon follows it in the same line; a key that may still be
one is remembered with its position, and its token is inserted there.

## Main definitions

* `Token` — the tokens.
* `Lexer` — what is known while a text is read.
* `Token.ofText?` — the tokens of a text.
-/

namespace QueryGateway.Yaml

/-- How a scalar was written. -/
inductive ScalarStyle
  | plain
  | quoted
  | literal
  | folded
  deriving DecidableEq, Repr

/-- The tokens. -/
inductive Token
  | documentStart
  | documentEnd
  | versionDirective
  | tagDirective (handle start : String)
  | blockSequenceStart
  | blockMappingStart
  | blockEnd
  | flowSequenceStart
  | flowSequenceEnd
  | flowMappingStart
  | flowMappingEnd
  | blockEntry
  | flowEntry
  | key
  | value
  | alias (name : String)
  | anchor (name : String)
  | tag (handle suffix : String)
  | scalar (style : ScalarStyle) (text : String)
  deriving DecidableEq, Repr

/-- Where a key may have started. -/
structure KeyPlace where
  /-- The number of tokens before it. -/
  position : Nat
  /-- Nothing else may stand there. -/
  isRequired : Bool
  line : Nat
  column : Nat
  index : Nat
  deriving DecidableEq, Repr

/-- What is known while a text is read. -/
structure Lexer where
  cursor : Cursor
  tokens : List Token := []
  /-- The columns of the open block collections, the innermost first. -/
  indents : List Nat := []
  /-- Where a key may have started, in each bracket and, last, outside of brackets. -/
  keys : List (Option KeyPlace) := [none]
  /-- Whether a key may start here. -/
  allowsKey : Bool := true

/-- Steps of reading a text. -/
abbrev Lexing := StateT Lexer Option

namespace Lexer

/-- Whether the place is within brackets. -/
def inFlow (l : Lexer) : Bool := l.keys.length > 1

/-- The column of the innermost block collection. -/
def indent (l : Lexer) : Int :=
  match l.indents with
  | [] => -1
  | column :: _ => column

/-- Adds a token. -/
def emit (t : Token) : Lexing Unit := modify fun l => { l with tokens := l.tokens ++ [t] }

/-- Goes on at a place. -/
def moveTo (c : Cursor) : Lexing Unit := modify fun l => { l with cursor := c }

/-- Adds a token and goes on after so many characters. -/
def emitAt (t : Token) (count : Nat := 1) : Lexing Unit := do
  emit t
  modify fun l => { l with cursor := l.cursor.skip count }

/-- Says whether a key may start here. -/
def allowKey (allowed : Bool) : Lexing Unit := modify fun l => { l with allowsKey := allowed }

/-- Refuses a text. -/
def refuse {α : Type} : Lexing α := fun _ => none

/-- Whether what started at a place can still turn out to be a key. -/
def isFresh (l : Lexer) (k : KeyPlace) : Bool :=
  k.line = l.cursor.line && l.cursor.index ≤ k.index + 1024

/-- Forgets the places of keys that cannot be keys any more. -/
def dropStale : Lexing Unit := do
  let l ← get
  if l.keys.any fun k => k.any fun k => k.isRequired && !l.isFresh k then refuse
  else set { l with keys := l.keys.map (Option.filter l.isFresh) }

/-- Forgets the place of a key in the innermost bracket. -/
def dropKey : Lexing Unit := do
  let l ← get
  match l.keys with
  | some k :: rest => if k.isRequired then refuse else set { l with keys := none :: rest }
  | _ => return ()

/-- Remembers that a key may start here. -/
def saveKey : Lexing Unit := do
  let l ← get
  if l.allowsKey then
    dropKey
    let place : KeyPlace :=
      { position := l.tokens.length, isRequired := !l.inFlow && l.indent = l.cursor.column,
        line := l.cursor.line, column := l.cursor.column, index := l.cursor.index }
    modify fun l => { l with keys := some place :: l.keys.tail }

/-- Opens a block collection at a column, if that is further right than what is open. -/
def indentTo (column position : Nat) (t : Token) : Lexing Unit := modify fun l =>
  if l.inFlow || (column : Int) ≤ l.indent then l
  else { l with
    indents := column :: l.indents
    tokens := l.tokens.take position ++ t :: l.tokens.drop position }

/-- Opens a block collection here. -/
def indentHere (t : Token) : Lexing Unit := do
  let l ← get
  indentTo l.cursor.column l.tokens.length t

/-- Closes the block collections that are further right than a column. -/
def dedentTo (column : Int) : Lexing Unit := modify fun l =>
  if l.inFlow then l
  else
    let closed := l.indents.takeWhile fun (i : Nat) => column < i
    { l with
      tokens := l.tokens ++ closed.map fun _ => .blockEnd
      indents := l.indents.drop closed.length }

/-- Skips blanks, comments and line breaks. -/
def skipGap : Nat → Lexing Unit
  | 0 => refuse
  | fuel + 1 => do
    let l ← get
    let c := l.cursor.skipWhile fun x => x = ' ' || (x = '\t' && (l.inFlow || !l.allowsKey))
    let c := if c.sees '#' then c.skipWhile fun x => !isBreak x else c
    if c.atBreak then
      set { l with cursor := c.readBreak.2, allowsKey := l.allowsKey || !l.inFlow }
      skipGap fuel
    else moveTo c

/-- Begins something at the margin, which closes all blocks. -/
def atMargin : Lexing Unit := do
  dedentTo (-1)
  dropKey
  allowKey false

/-- Reads the name of an anchor or alias after its sign. -/
def name : Lexing String := do
  let c := (← get).cursor.skip
  let (word, c) := c.span isWord
  moveTo c
  if word ≠ [] && (c.gapAhead || c.seesAny ['?', ':', ',', ']', '\x7d', '%', '@', '\x60']) then
    return String.ofList word
  else refuse

/-- Whether a character may occur in a tag; some may only where the tag is written in full. -/
def isTagChar (isFull : Bool) (c : Char) : Bool :=
  isWord c || ";/?:@&=+$.%!~*\x27()".toList.contains c || (isFull && [',', '[', ']'].contains c)

/-- The text of a tag, in which percent signs with two hex digits stand for bytes. -/
def tagText : Nat → List Char → Option (List Char)
  | 0, _ => none
  | _, [] => some []
  | fuel + 1, '%' :: a :: b :: rest => do
    let high ← Hex.value? a
    let low ← Hex.value? b
    return Char.ofNat (16 * high + low) :: (← tagText fuel rest)
  | fuel + 1, c :: rest => if c = '%' then none else return c :: (← tagText fuel rest)

/-- Reads a part of a tag. -/
def tagPart (isFull : Bool) : Lexing String := do
  let (part, c) := (← get).cursor.span (isTagChar isFull)
  moveTo c
  match tagText (part.length + 1) part with
  | some text => return String.ofList text
  | none => refuse

/-- Reads the handle of a tag: an exclamation mark, or a word between two. -/
def tagHandle : Lexing String := do
  let c := (← get).cursor
  if !c.sees '!' then refuse
  let (word, c) := c.skip.span isWord
  if c.sees '!' then
    moveTo c.skip
    return "!" ++ String.ofList word ++ "!"
  else
    moveTo c
    return "!" ++ String.ofList word

/-- Reads a tag. -/
def tag : Lexing Unit := do
  let c := (← get).cursor
  if c.sees '<' 1 then
    moveTo (c.skip 2)
    let suffix ← tagPart true
    if suffix = "" || !(← get).cursor.sees '>' then refuse
    emitAt (.tag "" suffix)
  else
    let handle ← tagHandle
    let suffix ← tagPart false
    if handle.length > 1 && handle.endsWith "!" then
      if suffix = "" then refuse
      emit (.tag handle suffix)
    else
      let suffix := String.ofList (handle.toList.drop 1) ++ suffix
      emit (if suffix = "" then .tag "" "!" else .tag "!" suffix)
  let l ← get
  if !(l.cursor.gapAhead || (l.inFlow && l.cursor.sees ',')) then refuse

/-- Reads a number of a version. -/
def versionNumber : Lexing Unit := do
  let (digits, c) := (← get).cursor.span Char.isDigit
  moveTo c
  if digits = [] || digits.length > 9 then refuse

/-- Reads the version of a directive, which must be 1.1 or 1.2. -/
def version : Lexing Unit := do
  let before := (← get).cursor
  versionNumber
  let c := (← get).cursor
  if !c.sees '.' then refuse
  moveTo c.skip
  versionNumber
  let after := (← get).cursor
  let text := before.rest.take (after.index - before.index)
  if text = ['1', '.', '1'] || text = ['1', '.', '2'] then emit .versionDirective else refuse

/-- Skips blanks within a line. -/
def skipBlanks : Lexing Unit := do moveTo ((← get).cursor.skipWhile isBlank)

/-- Reads a directive. -/
def directive : Lexing Unit := do
  atMargin
  let (word, c) := (← get).cursor.skip.span isWord
  moveTo c
  if !c.gapAhead then refuse
  skipBlanks
  match String.ofList word with
  | "YAML" => version
  | "TAG" =>
    let handle ← tagHandle
    if !(← get).cursor.atBlank || (handle ≠ "!" && !handle.endsWith "!") then refuse
    skipBlanks
    let start ← tagPart true
    if start = "" || !(← get).cursor.gapAhead then refuse
    emit (.tagDirective handle start)
  | _ => refuse
  skipBlanks
  let c := (← get).cursor
  let c := if c.sees '#' then c.skipWhile fun x => !isBreak x else c
  if !c.atLineEnd then refuse
  moveTo c.readBreak.2

/-- Opens a bracket. -/
def openFlow (t : Token) : Lexing Unit := do
  saveKey
  modify fun l => { l with keys := none :: l.keys }
  allowKey true
  emitAt t

/-- Closes a bracket. -/
def closeFlow (t : Token) : Lexing Unit := do
  dropKey
  modify fun l => if l.inFlow then { l with keys := l.keys.tail } else l
  allowKey false
  emitAt t

/-- Begins an item of a sequence. -/
def item : Lexing Unit := do
  let l ← get
  if !l.inFlow then
    if !l.allowsKey then refuse
    indentHere .blockSequenceStart
  dropKey
  allowKey true
  emitAt .blockEntry

/-- Begins a key with a question mark. -/
def explicitKey : Lexing Unit := do
  let l ← get
  if !l.inFlow then
    if !l.allowsKey then refuse
    indentHere .blockMappingStart
  dropKey
  allowKey (!l.inFlow)
  emitAt .key

/-- Begins a value with a colon; what stood before it may turn out to be its key. -/
def colon : Lexing Unit := do
  let l ← get
  match l.keys with
  | some k :: rest =>
    set { l with
      tokens := l.tokens.take k.position ++ Token.key :: l.tokens.drop k.position
      keys := none :: rest }
    indentTo k.column k.position .blockMappingStart
    allowKey false
  | _ =>
    if !l.inFlow then
      if !l.allowsKey then refuse
      indentHere .blockMappingStart
    allowKey (!l.inFlow)
  emitAt .value

/-- Reads a scalar that may be a key. -/
def inlineScalar (style : ScalarStyle) (read : Lexer → Option (List Char × Bool × Cursor)) :
    Lexing Unit := do
  saveKey
  let l ← get
  match read l with
  | none => refuse
  | some (text, atLineStart, c) =>
    set { l with cursor := c, allowsKey := atLineStart }
    emit (.scalar style (String.ofList text))

/-- Reads a block. -/
def block (style : ScalarStyle) : Lexing Unit := do
  dropKey
  let l ← get
  match readBlock l.indent l.cursor with
  | none => refuse
  | some (text, c) =>
    set { l with cursor := c, allowsKey := true }
    emit (.scalar style (String.ofList text))

/-- Whether a plain scalar can start at a place. -/
def startsPlain (flow : Bool) (c : Cursor) : Bool :=
  (!c.gapAhead && !c.seesAny "-?:,[]\x7b\x7d#&*!|>\x27\x22%@\x60".toList) ||
    (c.sees '-' && !(c.peek 1).any isBlank) ||
    (!flow && c.seesAny ['?', ':'] && !c.gapAhead 1)

/-- Reads the next token, which is there. -/
def next (x : Char) : Lexing Unit := do
  let l ← get
  let c := l.cursor
  let flow := l.inFlow
  if c.column = 0 && x = '%' then directive
  else if c.atDocumentMark then
    atMargin
    emitAt (if x = '-' then .documentStart else .documentEnd) 3
  else if x = '[' then openFlow .flowSequenceStart
  else if x = '\x7b' then openFlow .flowMappingStart
  else if x = ']' then closeFlow .flowSequenceEnd
  else if x = '\x7d' then closeFlow .flowMappingEnd
  else if x = ',' then
    dropKey
    allowKey true
    emitAt .flowEntry
  else if x = '-' && c.gapAhead 1 then item
  else if x = '?' && (flow || c.gapAhead 1) then explicitKey
  else if x = ':' && (flow || c.gapAhead 1) then colon
  else if x = '*' || x = '&' then
    saveKey
    allowKey false
    let word ← name
    emit (if x = '*' then .alias word else .anchor word)
  else if x = '!' then
    saveKey
    allowKey false
    tag
  else if x = '|' && !flow then block .literal
  else if x = '>' && !flow then block .folded
  else if x = '\x27' || x = '"' then
    inlineScalar .quoted fun l => (readQuoted l.cursor).map fun (text, c) => (text, false, c)
  else if startsPlain flow c then
    inlineScalar .plain fun l => readPlain flow (l.indent + 1).toNat l.cursor
  else refuse

/-- Reads tokens to the end of the text. -/
def all : Nat → Lexing Unit
  | 0 => refuse
  | fuel + 1 => do
    skipGap fuel
    dropStale
    let c := (← get).cursor
    dedentTo c.column
    match c.peek with
    | none =>
      dedentTo (-1)
      dropKey
    | some x =>
      next x
      all fuel

end Lexer

/-- The tokens of a text. -/
def Token.ofText? (text : String) : Option (List Token) :=
  let cs := match text.toList with
    | '\ufeff' :: rest => rest
    | cs => cs
  if cs.all isPrintable then
    (Lexer.all (2 * cs.length + 4) { cursor := { rest := cs } }).map fun (_, l) => l.tokens
  else none

end QueryGateway.Yaml
