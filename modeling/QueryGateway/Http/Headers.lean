import QueryGateway.Text.Blank
import QueryGateway.Text.Case
import QueryGateway.Text.Utf8

/-!
# Request headers

Two things are read from the headers of a request: the key that names the caller, and the wish to
have the query run later.

## Main definitions

* `Headers` — names and values, in the order of the request.
* `Headers.apiKey` — the caller's key.
* `asyncRequested` — whether a request asks to be run later.
-/

namespace QueryGateway

/-- The headers of a request.  Names are compared without regard to case, and only the first value
of a name counts. -/
abbrev Headers := List (String × Bytes)

namespace Headers

/-- The first value of a header. -/
def first? (headers : Headers) (name : String) : Option Bytes :=
  (headers.find? fun (key, _) => Text.equalsIgnoringCase key name).map Prod.snd

/-- Whether a byte is a visible ASCII character, a space or a tab. -/
def isVisible (b : UInt8) : Bool := (32 ≤ b && b < 127) || b == 9

/-- The first value of a header as a text without blanks at its ends, if it is visible ASCII. -/
def text? (headers : Headers) (name : String) : Option String := do
  let value ← headers.first? name
  if value.all isVisible then (Utf8.decode? value).map Text.trim else none

/-- The key that names the caller; an empty one names nobody. -/
def apiKey (headers : Headers) : Option String :=
  (headers.text? "x-api-key").filter (· ≠ "")

end Headers

/-- Whether a request asks to be run later, by the parameter `async` or by the header `prefer`. -/
def asyncRequested (parameter : Option String) (headers : Headers) : Bool :=
  parameter.any (Text.equalsIgnoringCase · "true") ||
    (headers.text? "prefer").any (Text.equalsIgnoringCase · "respond-async")

end QueryGateway
