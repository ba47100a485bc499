import QueryGateway.Proofs.Job.Message
import QueryGateway.Proofs.Text.Base64
import QueryGateway.Queue.Envelope

/-!
# Reading back envelopes

An envelope is read back from its text with the body that is in it, whatever its bytes are; so the
texts of envelopes with different ids differ.

## Main definitions

* `Envelope.Carries` — an envelope that was made for a body.

## Main results

* `Envelope.decode?_encode` — an envelope is read back.
-/

namespace QueryGateway

open Json

@[simp] theorem Json.Reader.uint32_document (levels : Nat) (n : UInt32) :
    Reader.uint32 levels (Value.ofUInt64 n.toUInt64).document = some n := by
  have hlt := n.toNat_lt
  have hnat : n.toUInt64.toNat = n.toNat := UInt32.toNat_toUInt64 n
  unfold Reader.uint32 integer
  rw [Value.ofUInt64, Value.document]
  dsimp only
  rw [integer?_whole, Option.bind_some, if_pos (by omega), Option.map_some, hnat, Int.toNat_natCast,
    UInt32.ofNat_toNat]

namespace Envelope

/-- The members of an envelope. -/
def entries (e : Envelope) : List (String × Option Value) :=
  [("id", some (.string e.id)), ("attempt", some (.ofUInt64 e.attempt.toUInt64)),
    ("payload", some (.string e.payload)), ("publishedAt", some (.string e.publishedAt.rfc3339))]

theorem record_toJson (e : Envelope) (levels : Nat) :
    record spellings (levels + 1) e.toJson.document =
      some (levels, e.entries.map fun entry => .ofOption entry.2) := by
  have horder : InOrder spellings 0 e.entries := ⟨rfl, rfl, rfl, rfl, trivial⟩
  exact record_document rfl horder levels

/-- An envelope that was made for a body. -/
structure Carries (e : Envelope) (body : Bytes) : Prop where
  payload : e.payload = Base64.encode body
  publishedAt : e.publishedAt.WellFormed

theorem carries_wrap (id : String) {now : Instant} (hnow : now.WellFormed) (body : Bytes) :
    (wrap id now body).Carries body := ⟨rfl, hnow⟩

/-- The body stays in the envelope. -/
theorem Carries.next {e : Envelope} {body : Bytes} (h : e.Carries body) : e.next.Carries body :=
  ⟨h.payload, h.publishedAt⟩

/-- An envelope is read back. -/
theorem decode?_encode {e : Envelope} {body : Bytes} (h : e.Carries body) :
    decode? e.encode = some (e, body) := by
  have htime := Instant.reader_document h.publishedAt 126
  have hreader : reader maxDepth e.toJson.document = some e := by
    unfold reader
    rw [maxDepth, record_toJson e 126]
    simp [entries, Field.required, Field.ofOption, htime]
  unfold decode? encode
  rw [Document.ofBytes?_bytes, Option.bind_some, hreader]
  simp [h.payload]

end Envelope
end QueryGateway
