import QueryGateway.Proofs.Calendar.Stamp
import QueryGateway.Proofs.Postgres.Parameter

/-!
# Timestamps that are sent

A text in RFC 3339 is sent as a count of microseconds from the start of 2000 in UTC.  The count
depends on the moment that the text denotes and on nothing else of it, so texts with other offsets,
or with more digits, that denote the same moment are sent alike, and the order of moments is kept.

## Main results

* `Parameter.accepted_iff` — which texts are accepted.
* `Parameter.exists_sent_of_writes` — what is sent for one text, with an offset and without.
* `Parameter.bind_timestamp` — texts that denote the same moment, and moments one after the other.
-/

namespace QueryGateway.Postgres.Parameter

open Json

variable {tz plain : SqlType}

/-- A text that is accepted with an offset was read in the form of RFC 3339. -/
theorem exists_of_bind_timestamptz (htz : tz.slot = .timestamptz) {s : String} {p : Parameter}
    (h : bind (.string s) tz = .ok p) :
    ∃ t, Instant.ofRfc3339? s = some t ∧ p = .timestamptz t := by
  rcases cases_of_bind h with ⟨h, -⟩ | ⟨-, h⟩
  · cases h
  · rw [htz, ofValue?] at h
    obtain ⟨t, ht, rfl⟩ := Option.map_eq_some_iff.mp h
    exact ⟨t, ht, rfl⟩

/-- The texts that are accepted with an offset are those of RFC 3339. -/
theorem accepted_iff (htz : tz.slot = .timestamptz) {s : String} :
    (∃ p, bind (.string s) tz = .ok p) ↔ ∃ a, Stamp.Writes s.toList a ∧ a.Admitted := by
  constructor
  · rintro ⟨p, hp⟩
    obtain ⟨t, ht, -⟩ := exists_of_bind_timestamptz htz hp
    obtain ⟨a, ha⟩ := Stamp.exists_writes_of_ofRfc3339? ht
    exact ⟨a, ha, Stamp.admitted_of_ofRfc3339? ha ht⟩
  · rintro ⟨a, hs, ha⟩
    refine ⟨.timestamptz a.instant, bind_of_ofValue? (by simp) ?_⟩
    rw [htz, ofValue?, readText?, Stamp.ofRfc3339?_of_writes hs ha, Option.map_some]

/-- What is read in the form of RFC 3339 is a time without offset too. -/
theorem timeOf?_of_ofRfc3339? {s : String} {t : Instant} (h : Instant.ofRfc3339? s = some t) :
    timeOf? s = some t := by
  rw [timeOf?, h]
  rfl

/-- What is sent for a text: the microseconds of the moment that it denotes, with an offset and
without. -/
theorem exists_sent_of_writes (htz : tz.slot = .timestamptz) (hplain : plain.slot = .timestamp)
    {s : String} {a : Stamp} {p : Parameter} (hs : Stamp.Writes s.toList a) (hleap : a.second < 60)
    (hp : bind (.string s) tz = .ok p) :
    encode? tz p = some (some (.ofInt 8 (Stamp.microsecondsOf a.moment))) ∧
      Bytes.toInt (.ofInt 8 (Stamp.microsecondsOf a.moment)) = Stamp.microsecondsOf a.moment ∧
      ∃ p', bind (.string s) plain = .ok p' ∧ encode? plain p' = encode? tz p := by
  obtain ⟨t, ht, rfl⟩ := exists_of_bind_timestamptz htz hp
  have hfits : Fits 8 (Stamp.microsecondsOf a.moment) :=
    Stamp.microseconds_of_writes hs hleap ht ▸
      fits_microseconds (Instant.wellFormed_of_ofRfc3339? ht)
  refine ⟨?_, Bytes.toInt_ofInt (hfits.doubled (by decide)), .timestamp t, ?_, rfl⟩
  · rw [encode?, Stamp.microseconds_of_writes hs hleap ht, fitted?_of_fits (by decide) hfits]
    rfl
  · refine bind_of_ofValue? (by simp) ?_
    rw [hplain, ofValue?, readText?, timeOf?_of_ofRfc3339? ht, Option.map_some]

/-- The texts that are accepted with an offset are those of RFC 3339 with fields that are admitted.
Of two such texts without a leap second, if they denote the same moment then the same bytes are sent,
and if the moment of the first is earlier then its count is not greater.  The count is that of the
microseconds of the moment from the start of 2000 in UTC, and it is also what is sent for a time
without offset. -/
theorem bind_timestamp (htz : tz.slot = .timestamptz) (hplain : plain.slot = .timestamp) :
    (∀ s, (∃ p, bind (.string s) tz = .ok p) ↔ ∃ a, Stamp.Writes s.toList a ∧ a.Admitted) ∧
    ∀ (s s' : String) (a b : Stamp) (p q : Parameter),
      Stamp.Writes s.toList a → Stamp.Writes s'.toList b → a.second < 60 → b.second < 60 →
      bind (.string s) tz = .ok p → bind (.string s') tz = .ok q →
      ∃ xs ys : Bytes, encode? tz p = some (some xs) ∧ encode? tz q = some (some ys) ∧
        (a.moment = b.moment → xs = ys) ∧ (a.moment < b.moment → xs.toInt ≤ ys.toInt) ∧
        xs.length = 8 ∧ xs.toInt = Stamp.microsecondsOf a.moment ∧
        ∃ p', bind (.string s) plain = .ok p' ∧ encode? plain p' = some (some xs) := by
  refine ⟨fun s => accepted_iff htz, fun s s' a b p q hs hs' hleap hleap' hp hq => ?_⟩
  obtain ⟨hxs, hcount, p', hp', hsame⟩ := exists_sent_of_writes htz hplain hs hleap hp
  obtain ⟨hys, hcount', -⟩ := exists_sent_of_writes htz hplain hs' hleap' hq
  refine ⟨_, _, hxs, hys, fun heq => by rw [heq], fun hlt => ?_, Bytes.length_ofInt _ _, hcount,
    p', hp', hsame.trans hxs⟩
  rw [hcount, hcount']
  exact Stamp.microsecondsOf_mono hlt.le

/-- Half a microsecond before the start of 2000, told in the east. -/
def stampBefore : Stamp := ⟨2000, 1, 1, 1, 29, 59, "9999995".toList, 5400⟩

/-- A tenth of a nanosecond after the start of 2000, told in the west. -/
def stampAfter : Stamp := ⟨1999, 12, 31, 22, 30, 0, "0000000001".toList, -5400⟩

theorem writes_stampBefore :
    Stamp.Writes "2000-01-01T01:29:59.9999995+01:30".toList stampBefore := by
  have htext : "2000-01-01T01:29:59.9999995+01:30".toList = "2000".toList ++ '-' :: ("01".toList ++
      '-' :: ("01".toList ++ 'T' :: ("01".toList ++ ':' :: ("29".toList ++ ':' :: ("59".toList ++
      (('.' :: "9999995".toList) ++ ('+' :: ("01".toList ++ ':' :: "30".toList)))))))) := by decide
  have hhours : WritesField 2 "01".toList 1 := by decide
  have hminutes : WritesField 2 "30".toList 30 := by decide
  rw [htext]
  exact .intro (by decide) (by decide) (by decide) (by decide) (by decide) (by decide) (by decide)
    (.point (by decide) (List.all_eq_true.mp (by decide)))
    (.signed .plus hhours hminutes (by decide))

theorem writes_stampAfter :
    Stamp.Writes "1999-12-31 22:30:00.0000000001-01:30".toList stampAfter := by
  have htext : "1999-12-31 22:30:00.0000000001-01:30".toList = "1999".toList ++ '-' ::
      ("12".toList ++ '-' :: ("31".toList ++ ' ' :: ("22".toList ++ ':' :: ("30".toList ++ ':' ::
      ("00".toList ++ (('.' :: "0000000001".toList) ++
      ('-' :: ("01".toList ++ ':' :: "30".toList)))))))) := by decide
  have hhours : WritesField 2 "01".toList 1 := by decide
  have hminutes : WritesField 2 "30".toList 30 := by decide
  rw [htext]
  exact .intro (by decide) (by decide) (by decide) (by decide) (by decide) (by decide) (by decide)
    (.point (by decide) (List.all_eq_true.mp (by decide)))
    (.signed .minus hhours hminutes (by decide))

theorem moment_stampBefore_lt : stampBefore.moment < stampAfter.moment := by
  have hbefore : stampBefore.wholeSeconds = -1 := by
    unfold Stamp.wholeSeconds stampBefore
    dsimp only
    omega
  have hafter : stampAfter.wholeSeconds = 0 := by
    have hlast := @Date.toDays_eq 1999 12 31 (by decide)
    have hfirst := @Date.toDays_eq 2000 1 1 (by decide)
    have hdays : Date.toDays ⟨(1999 : Nat), 12, 31⟩ = Date.toDays ⟨(2000 : Nat), 1, 1⟩ - 1 := by
      decide
    unfold Stamp.wholeSeconds stampAfter
    dsimp only
    omega
  have hfraction : Nat.ofDigitChars 10 stampBefore.fraction 0 = 9999995 := by decide
  have hfraction' : Nat.ofDigitChars 10 stampAfter.fraction 0 = 1 := by decide
  unfold Stamp.moment
  rw [hbefore, hafter, hfraction, hfraction', show stampBefore.fraction.length = 7 by decide,
    show stampAfter.fraction.length = 10 by decide]
  norm_num

/-- Moments on both sides of the start of 2000 are sent as this start. -/
theorem bind_timestamp_millennium :
    stampBefore.moment < stampAfter.moment ∧ ∃ xs ys : Bytes,
      encode? ⟨1184, "timestamptz"⟩ (.timestamptz ⟨946684799, 999999500⟩) = some (some xs) ∧
      encode? ⟨1184, "timestamptz"⟩ (.timestamptz ⟨946684800, 0⟩) = some (some ys) ∧
      xs.toInt ≤ ys.toInt ∧ xs.toInt = 0 := by
  have hp : bind (.string "2000-01-01T01:29:59.9999995+01:30") ⟨1184, "timestamptz"⟩ =
      .ok (.timestamptz ⟨946684799, 999999500⟩) := by decide +kernel
  have hq : bind (.string "1999-12-31 22:30:00.0000000001-01:30") ⟨1184, "timestamptz"⟩ =
      .ok (.timestamptz ⟨946684800, 0⟩) := by decide +kernel
  have hplain : SqlType.slot ⟨1114, "timestamp"⟩ = .timestamp := rfl
  obtain ⟨xs, ys, hxs, hys, -, hle, -⟩ := (bind_timestamp rfl hplain).2 _ _ _ _ _ _
    writes_stampBefore writes_stampAfter (by decide) (by decide) hp hq
  have hsent : encode? ⟨1184, "timestamptz"⟩ (.timestamptz ⟨946684799, 999999500⟩) =
      some (some [0, 0, 0, 0, 0, 0, 0, 0]) := by decide
  obtain rfl := Option.some.inj (Option.some.inj (hxs.symm.trans hsent))
  exact ⟨moment_stampBefore_lt, _, ys, hxs, hys, hle moment_stampBefore_lt, by decide⟩

end QueryGateway.Postgres.Parameter
