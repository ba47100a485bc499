import QueryGateway.Proofs.Job.Message
import QueryGateway.Proofs.Request.Digest

/-!
# Writing messages that were read

A body may spell a message in many ways: records as arrays, fields that are left out or null or
unknown, times with blanks, offsets and leap seconds.  Whatever was read has an instant that the
calendar can write and operands no deeper than a message admits, so only the doubles among the
operands can keep it from being read again.  The filter may be written in any order.

## Main definitions

* `JobMessage.reordered` — a message with its filter in another order.
* `Request.DoublesReadBack` — every double of the filter is read back from its printed text.
* `JobMessage.oddBody` — a body in many odd spellings.

## Main results

* `JobMessage.bounded_of_decode?` — what is known of a message that was read.
* `JobMessage.decode?_encode_reordered` — a message that was read is read again from what is
  written of it, and its request keeps its digest.
-/

namespace QueryGateway

open Json

namespace Request

/-- Every double in an operand of the filter is read back from its printed text. -/
def DoublesReadBack (r : Request) : Prop :=
  ∀ entry ∈ r.filter, ∀ op v, entry.2.operand? op = some v →
    ∀ x finite, .float x finite ∈ v.numbers → (Number.float x finite).ReadsBack

/-- The request with its filter in another order. -/
def reordered (r : Request) (filter : Keyed Conditions) : Request := { r with filter }

/-- A request whose operands are not too deep is read back if its doubles are. -/
theorem readsBackWithin_of_nestsWithin {levels : Nat} {r : Request} (h : r.NestsWithin levels)
    (hdoubles : r.DoublesReadBack) : r.ReadsBackWithin levels := by
  intro entry hentry op v hv
  refine ⟨h entry hentry op v hv, ?_⟩
  intro n hn
  cases n with
  | whole n hrange => exact Number.readsBack_whole n hrange
  | float x finite => exact hdoubles entry hentry op v hv x finite hn

theorem distinct_of_canonical {r : Request} (h : r.Canonical) : r.Distinct :=
  h.1.imp fun hlt => String.ne_of_lt hlt

variable {r : Request} {filter : Keyed Conditions}

/-- A request is read back, whatever the order in which its filter is written. -/
theorem reader_reordered {levels : Nat} (h : r.Canonical) (hreads : r.ReadsBackWithin levels)
    (hfilter : filter.Perm r.filter) :
    reader (levels + 3) (r.reordered filter).toJson.document = some r := by
  have hread : Reader.map Conditions.reader (levels + 2)
      (Value.object (filter.mapValues Conditions.toJson)).document = some r.filter :=
    Reader.map_document_of_perm h.1 hfilter fun entry hentry =>
      (Conditions.reader_document (h.2 entry hentry)).mpr (hreads entry hentry)
  rw [reader_toJson]
  unfold reordered
  rw [hread]
  rfl

/-- The digest ignores the order of the filter. -/
theorem hash_reordered (h : r.Canonical) (hfilter : filter.Perm r.filter) :
    (r.reordered filter).hash = r.hash := by
  have hdistinct := distinct_of_canonical h
  have hreordered : (r.reordered filter).Distinct :=
    (hfilter.map Prod.fst).nodup_iff.mpr hdistinct
  have halike : (r.reordered filter).Alike r :=
    ⟨rfl, rfl, rfl, rfl, rfl, hfilter, rfl⟩
  unfold hash canonicalBytes
  rw [(canonical_eq_iff hreordered hdistinct).mpr halike]

end Request

namespace JobMessage

/-- The message with the filter of its request in another order. -/
def reordered (m : JobMessage) (filter : Keyed Conditions) : JobMessage :=
  { m with request := m.request.reordered filter }

/-- A message that was read: its request is in order, its operands are no deeper than a message
admits, and it was made at an instant of the calendar. -/
theorem bounded_of_decode? {body : Bytes} {m : JobMessage} (h : decode? body = some m) :
    m.request.Canonical ∧ m.request.NestsWithin 123 ∧ m.createdAt.WellFormed := by
  obtain ⟨doc, -, h⟩ := Option.bind_eq_some_iff.mp h
  obtain ⟨⟨below, fields⟩, hrecord, h⟩ := Option.bind_eq_some_iff.mp h
  obtain rfl := levels_of_record hrecord
  dsimp only at h
  split at h
  · next request created _ =>
    obtain ⟨_, -, h⟩ := Option.bind_eq_some_iff.mp h
    obtain ⟨_, -, h⟩ := Option.bind_eq_some_iff.mp h
    obtain ⟨_, -, h⟩ := Option.bind_eq_some_iff.mp h
    obtain ⟨_, -, h⟩ := Option.bind_eq_some_iff.mp h
    obtain ⟨_, -, h⟩ := Option.bind_eq_some_iff.mp h
    obtain ⟨r, hrequest, h⟩ := Option.bind_eq_some_iff.mp h
    obtain ⟨t, hcreated, h⟩ := Option.bind_eq_some_iff.mp h
    obtain rfl := Option.some.inj h
    obtain ⟨_, hrequest⟩ := Field.exists_read hrequest
    obtain ⟨_, hcreated⟩ := Field.exists_read hcreated
    obtain ⟨hcanonical, hnests⟩ := Request.bounded_of_reader hrequest
    exact ⟨hcanonical, hnests, Instant.wellFormed_of_reader hcreated⟩
  · cases h

/-- A message that was read, in whatever spelling, is read again once it is written, in whatever
order its filter is written, and that order does not change the digest of its request. -/
theorem decode?_encode_reordered {body : Bytes} {m : JobMessage} (h : decode? body = some m)
    (hdoubles : m.request.DoublesReadBack) {filter : Keyed Conditions}
    (hfilter : filter.Perm m.request.filter) :
    decode? (m.reordered filter).encode = some m ∧
      (m.reordered filter).request.hash = m.request.hash := by
  obtain ⟨hcanonical, hnests, hcreated⟩ := bounded_of_decode? h
  have hreads := Request.readsBackWithin_of_nestsWithin hnests hdoubles
  refine ⟨?_, Request.hash_reordered hcanonical hfilter⟩
  unfold decode? encode
  rw [Document.ofBytes?_bytes, Option.bind_some, maxDepth,
    reader_toJson (m := m.reordered filter) 126 hcreated]
  show (Request.reader 126 (m.request.reordered filter).toJson.document).map _ = _
  rw [Request.reader_reordered hcanonical hreads hfilter]
  rfl

/-! ### A message in odd spellings -/

/-- Two and a half. -/
def twoAndAHalf : Number := .float ⟨0x4004000000000000⟩ (by decide)

/-- A body in which the message, a sort key and the conditions of a column are written as arrays,
the filter is not in order, a bare name stands for an operator, a field is unknown, an operand is
null, and the time has blanks around it, a year of five digits, a leap second and an offset. -/
def oddBody : Bytes := Utf8.encode
  ("[\"job-7\",\"h\",null,\"main\",\"users\"," ++
    "\x7b\"filter\":\x7b\"b\":[null,2.5],\"a\":\x7b\"gt\":1,\"$eq\":null,\"other\":[1]\x7d\x7d," ++
    "\"orderBy\":[[\"id\"]],\"limit\":5\x7d,\" +12016-12-31t23:59:60.25+01:30 \"]")

/-- The message that it carries. -/
def oddMessage : JobMessage where
  id := "job-7"
  payloadHash := "h"
  apiKey := none
  dataSource := "main"
  table := "users"
  request :=
    { limit := 5
      orderBy := [{ field := "id", direction := "" }]
      filter := [
        ("a", { gt := some (.number (.whole 1 (by decide))) }),
        ("b", { gt := some (.number twoAndAHalf) })] }
  createdAt := ⟨317052743399, 1250000000⟩

theorem doublesReadBack_oddMessage : oddMessage.request.DoublesReadBack := by
  have hreads : ∀ entry ∈ oddMessage.request.filter, ∀ op ∈ [Comparison.eq, .gt, .ge, .lt, .le],
      ∀ v ∈ entry.2.operand? op, ∀ n ∈ v.numbers, n.ReadsBack := by
    decide +kernel
  intro entry hentry op v hv x finite hn
  exact hreads entry hentry op (by cases op <;> decide) v hv _ hn

theorem decode?_encode_reordered_oddMessage :
    decode? oddBody = some oddMessage ∧
      decode? (oddMessage.reordered oddMessage.request.filter.reverse).encode = some oddMessage ∧
      (oddMessage.reordered oddMessage.request.filter.reverse).request.hash =
        oddMessage.request.hash := by
  have hread : decode? oddBody = some oddMessage := by decide +kernel
  exact ⟨hread, decode?_encode_reordered hread doublesReadBack_oddMessage
    (List.reverse_perm oddMessage.request.filter)⟩

end JobMessage
end QueryGateway
