import QueryGateway.Job.Message
import QueryGateway.Proofs.Calendar.Reading
import QueryGateway.Proofs.Request.Reading

/-!
# Reading back job messages

A message is read back just when its request is.  It stands one level deeper in the message than it
did in the body it came from, so a request that could be read there need not be readable here.

## Main results

* `JobMessage.decode?_encode` — when a message is read back.
* `JobMessage.id_of_decode?` — whatever is read back is of the same job.
-/

namespace QueryGateway

open Json

/-- An instant is read back from its written form. -/
theorem Instant.reader_document {t : Instant} (h : t.WellFormed) (levels : Nat) :
    Instant.reader levels (Value.string t.rfc3339).document = some t := by
  show (Document.text? _).bind Instant.ofRelaxed? = some t
  rw [Document.text?_pieces, Option.bind_some, Instant.ofRelaxed?_rfc3339 h]

/-- An instant that was read is in the calendar. -/
theorem Instant.wellFormed_of_reader {levels : Nat} {doc : Document} {t : Instant}
    (h : Instant.reader levels doc = some t) : t.WellFormed := by
  obtain ⟨text, -, h⟩ := Option.bind_eq_some_iff.mp h
  exact wellFormed_of_ofRelaxed? h

namespace JobMessage

/-- The members of a message. -/
def entries (m : JobMessage) : List (String × Option Value) :=
  [("id", some (.string m.id)), ("payloadHash", some (.string m.payloadHash)),
    ("apiKey", some (.ofOption m.apiKey)), ("dataSource", some (.string m.dataSource)),
    ("table", some (.string m.table)), ("request", some m.request.toJson),
    ("createdAt", some (.string m.createdAt.rfc3339))]

theorem record_toJson (m : JobMessage) (levels : Nat) :
    record spellings (levels + 1) m.toJson.document =
      some (levels, m.entries.map fun entry => .ofOption entry.2) := by
  have horder : InOrder spellings 0 m.entries :=
    ⟨rfl, rfl, rfl, rfl, rfl, rfl, rfl, trivial⟩
  exact record_document rfl horder levels

/-- Of a message that was written, all but the request is read back in any case. -/
theorem reader_toJson (levels : Nat) {m : JobMessage} (hcreated : m.createdAt.WellFormed) :
    reader (levels + 1) m.toJson.document =
      (Request.reader levels m.request.toJson.document).map fun request => { m with request } := by
  have htime := Instant.reader_document hcreated levels
  unfold reader
  rw [record_toJson m levels]
  obtain ⟨id, hash, apiKey, source, table, request, created⟩ := m
  cases hrequest : Request.reader levels request.toJson.document <;>
    simp [entries, Field.required, Field.withDefault, Field.ofOption, htime, hrequest]

/-- When a message is read from its document. -/
theorem reader_document {levels : Nat} {m : JobMessage} (h : m.request.Canonical)
    (hcreated : m.createdAt.WellFormed) :
    reader (levels + 4) m.toJson.document = some m ↔ m.request.ReadsBackWithin levels := by
  rw [← Request.reader_document h, reader_toJson _ hcreated, Option.map_eq_some_iff]
  constructor
  · rintro ⟨request, hread, hm⟩
    rw [hread, ← congrArg JobMessage.request hm]
  · intro hread
    exact ⟨m.request, hread, rfl⟩

/-- When a message is read back from the body that carries it.  Of the levels of nesting that a
document may have, four are used by the message, its request, the filter and the conditions. -/
theorem decode?_encode {m : JobMessage} (h : m.request.Canonical)
    (hcreated : m.createdAt.WellFormed) :
    decode? m.encode = some m ↔ m.request.ReadsBackWithin 123 := by
  unfold decode? encode
  rw [Document.ofBytes?_bytes, Option.bind_some]
  exact reader_document h hcreated

/-- Whatever is read back is a message of the same job. -/
theorem id_of_decode? {m m' : JobMessage} (h : decode? m.encode = some m') : m'.id = m.id := by
  unfold decode? encode at h
  rw [Document.ofBytes?_bytes, Option.bind_some] at h
  unfold reader at h
  rw [maxDepth, record_toJson m 126] at h
  obtain ⟨id, hash, apiKey, source, table, request, created⟩ := m
  simp [entries, Field.required, Field.withDefault, Field.ofOption, Option.bind_eq_some_iff] at h
  obtain ⟨_, _, _, _, rfl⟩ := h
  rfl

end JobMessage

/-- When a request is read back from its written form. -/
theorem Request.ofBytes?_bytes {r : Request} (h : r.Canonical) :
    Request.ofBytes? r.toJson.bytes = some r ↔ r.ReadsBackWithin 124 := by
  unfold Request.ofBytes?
  rw [Document.ofBytes?_bytes, Option.bind_some]
  exact Request.reader_document h

end QueryGateway
