import QueryGateway.Text.Hex

/-!
# UUIDs

A UUID is sixteen bytes.  Its usual text has the hex digits in groups with dashes between them; it
is also read in braces, as a URN, or as 32 digits without dashes.

## Main definitions

* `Uuid.hyphenated` — the usual text.
* `Uuid.ofText?` — reads a UUID in any of the forms.
-/

namespace QueryGateway.Uuid

/-- The digits of sixteen bytes in groups of 8, 4, 4, 4 and 12. -/
def hyphenated (bytes : Bytes) : String :=
  let digits := (Hex.encode bytes).toList
  let group (start count : Nat) := (digits.drop start).take count
  String.ofList
    (group 0 8 ++ '-' :: (group 8 4 ++ '-' :: (group 12 4 ++ '-' ::
      (group 16 4 ++ '-' :: group 20 12))))

/-- Whether a dash stands after each of the first four groups. -/
def hasDashes (cs : List Char) : Bool :=
  cs[8]? == some '-' && cs[13]? == some '-' && cs[18]? == some '-' && cs[23]? == some '-'

/-- Sixteen bytes from the usual text. -/
def ofHyphenated? (cs : List Char) : Option Bytes :=
  if cs.length = 36 ∧ hasDashes cs then
    let group (start count : Nat) := (cs.drop start).take count
    Hex.decodeChars? (group 0 8 ++ group 9 4 ++ group 14 4 ++ group 19 4 ++ group 24 12)
  else none

/-- What stands before the usual text in a URN, in either case. -/
def urnMark : List Char := "urn:uuid:".toList

/-- Sixteen bytes from a text: 32 digits, the usual text, or the usual text in braces or in a
URN. -/
def ofText? (text : String) : Option Bytes :=
  let cs := text.toList
  if cs.length = 32 then Hex.decodeChars? cs
  else if cs.length = 36 then ofHyphenated? cs
  else if cs.length = 38 ∧ cs.head? = some '\x7b' ∧ cs.getLast? = some '\x7d' then
    ofHyphenated? (cs.tail.take 36)
  else if cs.length = 45 ∧ (cs.take 9).map Char.toLower = urnMark then ofHyphenated? (cs.drop 9)
  else none

end QueryGateway.Uuid
