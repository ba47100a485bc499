import QueryGateway.Text.CaseTable
import QueryGateway.Text.EscapedTable

/-!
# Quoted texts

A text shown for diagnosis stands in double quotes.  Quotes and backslashes are escaped, and
characters without a glyph of their own are shown by number.

## Main definitions

* `quoted` — a text in quotes.
-/

namespace QueryGateway.Text

/-- A character as it stands between quotes. -/
def quotedChar (c : Char) : List Char :=
  match c with
  | '\x00' => ['\\', '0']
  | '\t' => ['\\', 't']
  | '\r' => ['\\', 'r']
  | '\n' => ['\\', 'n']
  | '"' => ['\\', '"']
  | '\\' => ['\\', '\\']
  | c =>
    if within escapedBounds c then ['\\', 'u', '\x7b'] ++ Nat.toDigits 16 c.toNat ++ ['\x7d']
    else [c]

/-- A text in double quotes, with escapes. -/
def quoted (text : String) : String :=
  String.ofList ('"' :: (text.toList.flatMap quotedChar ++ ['"']))

end QueryGateway.Text
