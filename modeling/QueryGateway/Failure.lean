import QueryGateway.Json.Printer

/-!
# Failures as callers see them

Whatever goes wrong behind the service interface is shown as a code, a message, details by name and
an HTTP status.

## Main definitions

* `ErrorCode` — the codes, with their text and usual status.
* `Failure` — a failure; `Failure.body` is its JSON form.
-/

namespace QueryGateway

open Json

/-- The codes of failures. -/
inductive ErrorCode
  | invalidInput
  | invalidTable
  | invalidSchema
  | columnBlocked
  | dataSourceNotFound
  | unsupportedType
  | queryFailed
  | internalError
  | notFound
  deriving DecidableEq, Repr

namespace ErrorCode

/-- Every code. -/
def all : List ErrorCode :=
  [.invalidInput, .invalidTable, .invalidSchema, .columnBlocked, .dataSourceNotFound,
    .unsupportedType, .queryFailed, .internalError, .notFound]

/-- The text of a code. -/
def text : ErrorCode → String
  | .invalidInput => "INVALID_INPUT"
  | .invalidTable => "INVALID_TABLE"
  | .invalidSchema => "INVALID_SCHEMA"
  | .columnBlocked => "COLUMN_BLOCKED"
  | .dataSourceNotFound => "DATASOURCE_NOT_FOUND"
  | .unsupportedType => "UNSUPPORTED_TYPE"
  | .queryFailed => "QUERY_FAILED"
  | .internalError => "INTERNAL_ERROR"
  | .notFound => "NOT_FOUND"

/-- The code with a text. -/
def ofText? (text : String) : Option ErrorCode :=
  all.find? fun code => code.text == text

/-- The HTTP status that goes with a code. -/
def status : ErrorCode → Nat
  | .invalidInput | .invalidTable | .invalidSchema | .unsupportedType => 400
  | .columnBlocked => 403
  | .dataSourceNotFound | .notFound => 404
  | .queryFailed | .internalError => 500

/-- The text of a code names it. -/
theorem ofText?_text (code : ErrorCode) : ofText? code.text = some code := by
  cases code <;> decide

end ErrorCode

/-- A failure as a caller sees it. -/
structure Failure where
  code : ErrorCode
  message : String
  details : Option (Keyed Value) := none
  status : Nat := code.status
  deriving DecidableEq

namespace Failure

/-- A failure with one more detail. -/
def withDetail (f : Failure) (key : String) (value : Value) : Failure :=
  { f with details := some (Keyed.insert key value (f.details.getD [])) }

/-- Malformed input. -/
def invalidInput (message : String) : Failure := { code := .invalidInput, message }

/-- Something that does not exist. -/
def notFound (message : String) : Failure := { code := .notFound, message }

/-- A fault of the service. -/
def internal (message : String) : Failure := { code := .internalError, message }

/-- A part of the service that is not there. -/
def unavailable (message : String) : Failure :=
  { code := .internalError, message, status := 503 }

/-- The JSON form: code, message and, if there are any, details. -/
def body (f : Failure) : Value :=
  .object
    ([("code", .string f.code.text), ("message", .string f.message)] ++
      (f.details.map fun d => ("details", Value.object d)).toList)

end Failure

end QueryGateway
