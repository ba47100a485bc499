/-!
# Identifiers

Tables, schemas and columns are named by ASCII letters, digits and underscores.  A name is written
into a statement between double quotes, with quotes inside it doubled, so that no name can end its
own identifier early.

## Main definitions

* `isIdentifier` — the names that are admitted.
* `quoteIdentifier` — a name as it is written into a statement.
-/

namespace QueryGateway

/-- The characters of an identifier. -/
def isIdentifierChar (c : Char) : Bool := c.isAlphanum || c == '_'

/-- The names that are admitted: one character or more, all of them identifier characters. -/
def isIdentifier (name : String) : Bool :=
  name.toList != [] && name.toList.all isIdentifierChar

/-- The characters with each quote doubled. -/
def doubleQuotes : List Char → List Char
  | [] => []
  | c :: rest => if c = '"' then '"' :: '"' :: doubleQuotes rest else c :: doubleQuotes rest

/-- A name between double quotes. -/
def quoteIdentifier (name : String) : String :=
  String.ofList ('"' :: (doubleQuotes name.toList ++ ['"']))

@[simp] theorem doubleQuotes_nil : doubleQuotes [] = [] := rfl

@[simp] theorem doubleQuotes_quote (cs : List Char) :
    doubleQuotes ('"' :: cs) = '"' :: '"' :: doubleQuotes cs := rfl

@[simp] theorem doubleQuotes_cons_of_ne {c : Char} (hc : c ≠ '"') (cs : List Char) :
    doubleQuotes (c :: cs) = c :: doubleQuotes cs := by
  rw [doubleQuotes, if_neg hc]

end QueryGateway
