import QueryGateway.Text.CaseTable

/-!
# Letter case

Two comparisons ignore case.  Identifiers are compared in ASCII; blocklist entries are compared by
their full lower-case form, in which a capital sigma at the end of a word becomes a final sigma.

## Main definitions

* `equalsIgnoringCase` — equality up to the case of ASCII letters.
* `lower` — the full lower-case form of a text.
-/

namespace QueryGateway.Text

/-- A text with its ASCII letters in lower case. -/
def asciiLower (text : String) : String :=
  String.ofList (text.toList.map Char.toLower)

/-- Equality up to the case of ASCII letters. -/
def equalsIgnoringCase (s t : String) : Bool :=
  s.toList.map Char.toLower == t.toList.map Char.toLower

/-- The code point that a run maps `n` to, if `n` belongs to the run. -/
def mapByRow (n : Nat) : Nat × Nat × Nat × Int → Option Nat
  | (first, last, step, offset) =>
    if first ≤ n ∧ n ≤ last ∧ (n - first) % step = 0 then some (n + offset).toNat else none

/-- The lower-case form of a character by itself, for characters that have one of one character. -/
def lowerChar (c : Char) : Char :=
  if c.toNat < 0x80 then c.toLower
  else ((lowerRows.findSome? (mapByRow c.toNat)).map Char.ofNat).getD c

/-- Whether the first character that is not Case_Ignorable is Cased. -/
def startsCased (cs : List Char) : Bool :=
  ((cs.dropWhile (within caseIgnorableBounds)).head?.map (within casedBounds)).getD false

/-- The lower-case form of the characters that stand after the reversed list `before`. -/
def lowerAfter (before : List Char) : List Char → List Char
  | [] => []
  | c :: rest =>
    let here :=
      if c = 'Σ' then
        -- A sigma is final if letters stand before it and none after it.
        if startsCased before && !startsCased rest then ['ς'] else ['σ']
      else if c = 'İ' then ['i', '\u0307']
      else [lowerChar c]
    here ++ lowerAfter (c :: before) rest

/-- The full lower-case form of a text. -/
def lower (text : String) : String :=
  String.ofList (lowerAfter [] text.toList)

end QueryGateway.Text
