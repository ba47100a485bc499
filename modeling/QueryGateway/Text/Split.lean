/-!
# Splitting texts

## Main definitions

* `Text.splitChars`, `Text.split` — the parts of a text between separators.
-/

namespace QueryGateway.Text

/-- The parts between separators; there is one more of them than there are separators. -/
def splitChars (separator : Char) : List Char → List (List Char)
  | [] => [[]]
  | c :: rest =>
    if c = separator then [] :: splitChars separator rest
    else
      match splitChars separator rest with
      | [] => [[c]]
      | part :: parts => (c :: part) :: parts

/-- The parts of a text between separators. -/
def split (separator : Char) (text : String) : List String :=
  (splitChars separator text.toList).map String.ofList

end QueryGateway.Text
