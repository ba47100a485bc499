import QueryGateway.Json.Printer
import QueryGateway.Json.Record
import QueryGateway.Metrics
import QueryGateway.Text.Base64

/-!
# Envelopes

On a list server a message travels in an envelope of JSON text, which carries its attempt number and
keeps the body, whatever its bytes are, in Base64.

## Main definitions

* `Envelope` — the envelope; `Envelope.wrap` makes the first one of a message.
* `Envelope.encode`, `Envelope.decode?` — its text.
* `Envelope.next` — the envelope for the next attempt.
-/

namespace QueryGateway

open Json

/-- The envelope of a message. -/
structure Envelope where
  id : String
  attempt : UInt32
  /-- The body in Base64. -/
  payload : String
  publishedAt : Instant
  deriving DecidableEq

namespace Envelope

/-- The first envelope of a message. -/
def wrap (id : String) (now : Instant) (body : Bytes) : Envelope :=
  { id, attempt := 1, payload := Base64.encode body, publishedAt := now }

/-- The envelope for the next attempt. -/
def next (e : Envelope) : Envelope := { e with attempt := e.attempt + 1 }

/-- The spellings of the fields. -/
def spellings : List (List String) := [["id"], ["attempt"], ["payload"], ["publishedAt"]]

/-- An envelope in JSON. -/
def reader : Reader Envelope := fun levels doc => do
  let (levels, fields) ← record spellings levels doc
  match fields with
  | [id, attempt, payload, published] =>
    return {
      id := ← id.required Reader.string levels
      attempt := ← attempt.required Reader.uint32 levels
      payload := ← payload.required Reader.string levels
      publishedAt := ← published.required Instant.reader levels }
  | _ => none

/-- The JSON form. -/
def toJson (e : Envelope) : Value :=
  .object [
    ("id", .string e.id), ("attempt", .ofUInt64 e.attempt.toUInt64), ("payload", .string e.payload),
    ("publishedAt", .string e.publishedAt.rfc3339)]

/-- The text of an envelope. -/
def encode (e : Envelope) : Bytes := e.toJson.bytes

/-- The envelope in a text and the body in it. -/
def decode? (text : Bytes) : Option (Envelope × Bytes) := do
  let e ← (Document.ofBytes? text).bind (reader maxDepth)
  return (e, ← Base64.decode? e.payload)

end Envelope

end QueryGateway
