import QueryGateway.Yaml.Token

/-!
# Nodes of YAML

A text holds one document, and a document is one node: a scalar, a sequence or a mapping.  A node may
have a tag, and a name under which it is used again.

## Main definitions

* `Node` — the nodes.
* `Builder` — what is known while nodes are built from tokens.
* `Node.ofText?` — the node of a text; none of one without a document.
-/

namespace QueryGateway.Yaml

/-- The nodes. -/
inductive Node
  | scalar (tag : Option String) (style : ScalarStyle) (text : String)
  | sequence (tag : Option String) (items : List Node)
  | mapping (tag : Option String) (entries : List (Node × Node))
  /-- A node that is used within itself. -/
  | cycle

/-- A node that is not written. -/
def Node.blank (tag : Option String := none) : Node := .scalar tag .plain ""

/-- What is known while nodes are built. -/
structure Builder where
  tokens : List Token
  /-- What the handles of tags stand for. -/
  handles : List (String × String) := []
  /-- The names of nodes with their numbers, the latest first. -/
  names : List (String × Nat) := []
  /-- The numbered nodes that are complete. -/
  nodes : List (Nat × Node) := []

/-- Steps of building nodes. -/
abbrev Building := StateT Builder Option

namespace Builder

/-- What the handles of tags stand for unless a document says otherwise. -/
def usualHandles : List (String × String) := [("!", "!"), ("!!", "tag:yaml.org,2002:")]

/-- Refuses a text. -/
def refuse {α : Type} : Building α := fun _ => none

/-- The next token. -/
def peek : Building (Option Token) := return (← get).tokens.head?

/-- Goes on after the next token. -/
def skip : Building Unit := modify fun b => { b with tokens := b.tokens.tail }

/-- Whether the next token is one of some, or there is none. -/
def sees (ts : List Token) : Building Bool := return (← peek).all ts.contains

/-- Goes on after a token if it is the next one. -/
def skipIf (t : Token) : Building Bool := do
  if (← peek) == some t then
    skip
    return true
  else return false

/-- Goes on after a token, which must be the next one. -/
def expect (t : Token) : Building Unit := do
  if !(← skipIf t) then refuse

/-- The tag that a handle and a suffix stand for. -/
def tagOf (handle suffix : String) : Building String := do
  if handle = "" then return suffix
  else
    match (← get).handles.lookup handle with
    | some start => return start ++ suffix
    | none => refuse

/-- What may stand before a node. -/
structure Properties where
  number : Option Nat := none
  tag : Option String := none

/-- Gives the next node a name. -/
def nameNext (name : String) : Building Nat := do
  let b ← get
  let number := b.names.length
  set { b with names := (name, number) :: b.names }
  return number

/-- Reads a name that stands here. -/
def anchorHere : Building (Option Nat) := do
  match ← peek with
  | some (.anchor name) =>
    skip
    return some (← nameNext name)
  | _ => return none

/-- Reads a tag that stands here. -/
def tagHere : Building (Option String) := do
  match ← peek with
  | some (.tag handle suffix) =>
    skip
    return some (← tagOf handle suffix)
  | _ => return none

/-- Reads what stands before a node: a name and a tag in either order. -/
def properties : Building Properties := do
  match ← anchorHere with
  | some number => return { number, tag := ← tagHere }
  | none =>
    let tag ← tagHere
    return { number := ← anchorHere, tag }

/-- The node with a name. -/
def named (name : String) : Building Node := do
  let b ← get
  match b.names.lookup name with
  | none => refuse
  | some number => return (b.nodes.lookup number).getD .cycle

/-- Notes that a node is complete. -/
def complete (p : Properties) (n : Node) : Building Node := do
  if let some number := p.number then
    modify fun b => { b with nodes := (number, n) :: b.nodes }
  return n

mutual

/-- Builds a node.  In a block it may be a block collection, and where a value of a mapping is wanted
the items of a sequence may stand without further indentation. -/
def node : Nat → Bool → Bool → Building Node
  | 0, _, _ => refuse
  | fuel + 1, block, bare => do
    match ← peek with
    | some (.alias name) =>
      skip
      named name
    | _ =>
      let p ← properties
      match ← peek with
      | some (.scalar style text) =>
        skip
        complete p (.scalar p.tag style text)
      | some .blockEntry =>
        if bare then complete p (.sequence p.tag (← bareItems fuel))
        else unwritten p
      | some .flowSequenceStart =>
        skip
        complete p (.sequence p.tag (← flowItems fuel true))
      | some .flowMappingStart =>
        skip
        complete p (.mapping p.tag (← flowEntries fuel true))
      | some .blockSequenceStart =>
        if block then
          skip
          complete p (.sequence p.tag (← blockItems fuel))
        else unwritten p
      | some .blockMappingStart =>
        if block then
          skip
          complete p (.mapping p.tag (← blockEntries fuel))
        else unwritten p
      | _ => unwritten p

/-- A node of which only a name or a tag is written. -/
def unwritten (p : Properties) : Building Node :=
  if p.number.isSome || p.tag.isSome then complete p (.blank p.tag) else refuse

/-- Builds a node unless one of some tokens shows that it is not written. -/
def nodeUnless : Nat → List Token → Bool → Bool → Building Node
  | 0, _, _, _ => refuse
  | fuel + 1, ends, block, bare => do
    match ← peek with
    | some t => if ends.contains t then return .blank else node fuel block bare
    | none => refuse

/-- Builds the items of a block sequence. -/
def blockItems : Nat → Building (List Node)
  | 0 => refuse
  | fuel + 1 => do
    if ← skipIf .blockEnd then return []
    else
      expect .blockEntry
      let item ← nodeUnless fuel [.blockEntry, .blockEnd] true false
      return item :: (← blockItems fuel)

/-- Builds the items of a sequence that is not indented. -/
def bareItems : Nat → Building (List Node)
  | 0 => refuse
  | fuel + 1 => do
    if ← skipIf .blockEntry then
      let item ← nodeUnless fuel [.blockEntry, .key, .value, .blockEnd] true false
      return item :: (← bareItems fuel)
    else return []

/-- Builds the entries of a block mapping. -/
def blockEntries : Nat → Building (List (Node × Node))
  | 0 => refuse
  | fuel + 1 => do
    if ← skipIf .blockEnd then return []
    else
      expect .key
      let key ← nodeUnless fuel [.key, .value, .blockEnd] true true
      let value ←
        if ← skipIf .value then nodeUnless fuel [.key, .value, .blockEnd] true true
        else pure .blank
      return (key, value) :: (← blockEntries fuel)

/-- Builds the items of a sequence in brackets; an item with a key is a mapping of one entry. -/
def flowItems : Nat → Bool → Building (List Node)
  | 0, _ => refuse
  | fuel + 1, isFirst => do
    if ← skipIf .flowSequenceEnd then return []
    else
      if !isFirst then expect .flowEntry
      if ← skipIf .flowSequenceEnd then return []
      else if ← skipIf .key then
        let entry ← flowPair fuel
        return .mapping none [entry] :: (← flowItems fuel false)
      else
        let item ← node fuel false false
        return item :: (← flowItems fuel false)

/-- Builds the only entry of a mapping that is an item in brackets. -/
def flowPair : Nat → Building (Node × Node)
  | 0 => refuse
  | fuel + 1 => do
    let ends : List Token := [.flowEntry, .flowSequenceEnd]
    let key ←
      if ← sees (.value :: ends) then
        skip
        pure .blank
      else node fuel false false
    let value ←
      if ← skipIf .value then nodeUnless fuel ends false false else pure .blank
    return (key, value)

/-- Builds the entries of a mapping in braces. -/
def flowEntries : Nat → Bool → Building (List (Node × Node))
  | 0, _ => refuse
  | fuel + 1, isFirst => do
    if ← skipIf .flowMappingEnd then return []
    else
      if !isFirst then expect .flowEntry
      if ← skipIf .flowMappingEnd then return []
      else
        let ends : List Token := [.flowEntry, .flowMappingEnd]
        if ← skipIf .key then
          let key ← nodeUnless fuel (.value :: ends) false false
          let value ← if ← skipIf .value then nodeUnless fuel ends false false else pure .blank
          return (key, value) :: (← flowEntries fuel false)
        else
          let key ← node fuel false false
          return (key, .blank) :: (← flowEntries fuel false)

end

/-- Reads the directives of a document. -/
def directives : Nat → Bool → Building Unit
  | 0, _ => refuse
  | fuel + 1, sawVersion => do
    match ← peek with
    | some .versionDirective =>
      if sawVersion then refuse
      skip
      directives fuel true
    | some (.tagDirective handle start) =>
      if ((← get).handles.lookup handle).isSome then refuse
      skip
      modify fun b => { b with handles := (handle, start) :: b.handles }
      directives fuel sawVersion
    | _ => return ()

/-- The tokens that cannot begin the content of a document that has a start mark. -/
def isOutside : Token → Bool
  | .versionDirective | .tagDirective _ _ | .documentStart | .documentEnd => true
  | _ => false

/-- Goes on after the marks that end documents. -/
def skipEnds : Nat → Building Unit
  | 0 => return ()
  | fuel + 1 => do
    if ← skipIf .documentEnd then skipEnds fuel

/-- Reads the only document of a text. -/
def document (fuel : Nat) : Building Node := do
  let count := (← get).tokens.length
  directives fuel false
  let isDirected := (← get).tokens.length < count
  let isMarked ← skipIf .documentStart
  if isDirected && !isMarked then refuse
  modify fun b => { b with handles := b.handles ++ usualHandles }
  let content ←
    match ← peek with
    | none => if isMarked then pure .blank else refuse
    | some t => if isMarked && isOutside t then pure .blank else node fuel true false
  skipEnds fuel
  if (← peek).isSome then refuse
  return content

end Builder

/-- The node of a text, if it holds at most one document; none of a text without one is `blank`. -/
def Node.ofText? (text : String) : Option Node := do
  let tokens ← Token.ofText? text
  if tokens = [] then return .blank
  else
    let (content, _) ← (Builder.document (4 * tokens.length + 8)) { tokens }
    return content

end QueryGateway.Yaml
