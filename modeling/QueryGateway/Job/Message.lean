import QueryGateway.Job.Basic
import QueryGateway.Request

/-!
# Job messages

What a queue carries of a job: its identity and the request to run.

## Main definitions

* `JobMessage` — the message; `JobMessage.encode` and `JobMessage.decode?` are its JSON form.
* `JobMessage.ofJob` — the message of a job.
-/

namespace QueryGateway

open Json

/-- The message of a job. -/
structure JobMessage where
  id : String
  payloadHash : String
  apiKey : Option String
  dataSource : String
  table : String
  request : Request
  createdAt : Instant
  deriving DecidableEq

namespace JobMessage

/-- The message of a job with its request. -/
def ofJob (job : Job) (request : Request) : JobMessage :=
  { id := job.id, payloadHash := job.payloadHash, apiKey := job.apiKey,
    dataSource := job.dataSource, table := job.table, request, createdAt := job.createdAt }

/-- The spellings of the fields. -/
def spellings : List (List String) :=
  [["id"], ["payloadHash"], ["apiKey"], ["dataSource"], ["table"], ["request"], ["createdAt"]]

/-- A message in JSON. -/
def reader : Reader JobMessage := fun levels doc => do
  let (levels, fields) ← record spellings levels doc
  match fields with
  | [id, hash, apiKey, dataSource, table, request, created] =>
    return {
      id := ← id.required Reader.string levels
      payloadHash := ← hash.required Reader.string levels
      apiKey := ← apiKey.withDefault none (Reader.nullable Reader.string) levels
      dataSource := ← dataSource.required Reader.string levels
      table := ← table.required Reader.string levels
      request := ← request.required Request.reader levels
      createdAt := ← created.required Instant.reader levels }
  | _ => none

/-- The message that a body carries. -/
def decode? (body : Bytes) : Option JobMessage :=
  (Document.ofBytes? body).bind (reader maxDepth)

/-- The JSON form of a message; an absent key is written as null. -/
def toJson (m : JobMessage) : Value :=
  .object [
    ("id", .string m.id), ("payloadHash", .string m.payloadHash),
    ("apiKey", .ofOption m.apiKey), ("dataSource", .string m.dataSource),
    ("table", .string m.table), ("request", m.request.toJson),
    ("createdAt", .string m.createdAt.rfc3339)]

/-- The body that carries a message. -/
def encode (m : JobMessage) : Bytes := m.toJson.bytes

end JobMessage

end QueryGateway
