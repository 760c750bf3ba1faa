import FilterQuery.Json.Records
import FilterQuery.Proofs.Calendar.Reading
import FilterQuery.Proofs.Compile.Inputs
import FilterQuery.Proofs.Json.Texts

/-!
# Ranges in JSON text

A range of dates and instants is written as an array of their ISO texts. Both readers look at each
text, that of dates first; what neither of them reads stays a text.

* `Json.decodeText`: data from JSON text;
* `Value.HasText`: the values that are read back from their text;
* `Value.HasText.readTemporal`: a written value is read back, whichever of the two kinds it is;
* `Range.ofJson_texts_eq_ok_iff`: what a range of two texts holds;
* `Range.exists_ofJson_texts_iff`: two texts make a range if both are of the calendar or neither is;
* **`Range.survives_text`**.
-/

namespace FilterQuery

/-- Data from JSON text. -/
def Json.decodeText {α : Type} (decode : Json.Decoder α) (text : String) :
    Except Json.DecodeError α :=
  match Json.read? text with
  | some j => decode j
  | none => .error .shape

theorem Json.decodeText_of_read? {α : Type} {decode : Json.Decoder α} {text : String} {j : Json}
    (h : Json.read? text = some j) : Json.decodeText decode text = decode j := by
  rw [decodeText, h]

/-- A date or an instant with its ISO text. The years of instants have four digits, and their leap
seconds end a minute. -/
inductive Value.HasText : Value → String → Prop
  | date (d : Date) : HasText (.date d) d.text
  | instant (t : Instant) (hfirst : 0 ≤ t.date.civil.year) (hlast : t.date.civil.year ≤ 9999)
      (hminute : t.isLeap = true → t.seconds % 60 = 59) : HasText (.instant t) t.text

section

variable {v w : Value} {s s' : String}

theorem Value.HasText.family? (h : v.HasText s) : v.family? = some .temporal := by
  cases h <;> rfl

/-- **A written date or instant is read as itself.** -/
theorem Value.HasText.readTemporal (h : v.HasText s) : readTemporal (.text s) = v := by
  cases h with
  | date d => rw [FilterQuery.readTemporal, d.read?_text]
  | instant t hfirst hlast hminute =>
    rw [FilterQuery.readTemporal, Date.read?_instantText, t.read?_text hfirst hlast hminute]

theorem readTemporal_of_unread (hdate : Date.read? s = none) (hinstant : Instant.read? s = none) :
    readTemporal (.text s) = .text s := by
  rw [readTemporal, hdate, hinstant]

/-- The text of a date or of an instant, in any of their forms. -/
def IsTemporal (s : String) : Prop := Date.read? s ≠ none ∨ Instant.read? s ≠ none

theorem family?_readTemporal :
    ((readTemporal (.text s)).family? = some .temporal ∧ IsTemporal s) ∨
      ((readTemporal (.text s)).family? = some .text ∧ ¬ IsTemporal s) := by
  simp only [readTemporal, IsTemporal]
  cases hdate : Date.read? s with
  | some d => exact .inl ⟨rfl, .inl (Option.some_ne_none d)⟩
  | none =>
    cases hinstant : Instant.read? s with
    | some t => exact .inl ⟨rfl, .inr (Option.some_ne_none t)⟩
    | none => exact .inr ⟨rfl, by simp⟩

namespace Range

theorem of_eq_ok_iff {r : Range} : Range.of v w = .ok r ↔ r.start = v ∧ r.stop = w := by
  unfold Range.of
  split
  · rename_i hends
    constructor
    · rintro ⟨⟩
      exact ⟨rfl, rfl⟩
    · rintro ⟨rfl, rfl⟩
      rfl
  · rename_i hends
    constructor
    · rintro ⟨⟩
    · rintro ⟨rfl, rfl⟩
      exact absurd r.ends_comparable hends

/-- **A range of two texts holds what each of them is read as.** -/
theorem ofJson_texts_eq_ok_iff {r : Range} : Range.ofJson (.arr [.str s, .str s']) = .ok r ↔
    r.start = readTemporal (.text s) ∧ r.stop = readTemporal (.text s') :=
  mapError_eq_ok_iff.trans of_eq_ok_iff

/-- **Two texts make a range exactly if both are of the calendar or neither is.** -/
theorem exists_ofJson_texts_iff : (∃ r, Range.ofJson (.arr [.str s, .str s']) = .ok r) ↔
    (IsTemporal s ↔ IsTemporal s') := by
  have hcomparable : (∃ r, Range.ofJson (.arr [.str s, .str s']) = .ok r) ↔
      comparable (readTemporal (.text s)) (readTemporal (.text s')) = true := by
    simp only [ofJson_texts_eq_ok_iff]
    constructor
    · rintro ⟨r, hstart, hstop⟩
      rw [← hstart, ← hstop]
      exact r.ends_comparable
    · exact fun h => ⟨⟨_, _, h⟩, rfl, rfl⟩
  rw [hcomparable, comparable, Value.isOrdered]
  rcases family?_readTemporal (s := s) with ⟨hstart, hs⟩ | ⟨hstart, hs⟩ <;>
    rcases family?_readTemporal (s := s') with ⟨hstop, hs'⟩ | ⟨hstop, hs'⟩ <;>
    simp [hstart, hstop, hs, hs']

/-- **Ranges survive a trip through JSON text.** Two texts have a form in JSON. From every JSON text
for those of two dates or instants their range is read, and a range that is read from two texts
holds each text as it is that is of no date and no instant. Only an instant in a leap second inside
of a minute does not survive: its text is that of an instant of the second after it. -/
theorem survives_text :
    (∀ s s' : String, Json.read? (Json.compact (.arr [.str s, .str s'])) =
      some (.arr [.str s, .str s'])) ∧
    (∀ (text s s' : String) (v w : Value),
      Json.read? text = some (.arr [.str s, .str s']) → v.HasText s → w.HasText s' →
        ∃ r, Json.decodeText Range.ofJson text = .ok r ∧ r.start = v ∧ r.stop = w) ∧
    (∀ (text s s' : String) (r : Range),
      Json.read? text = some (.arr [.str s, .str s']) →
      Json.decodeText Range.ofJson text = .ok r →
        (Date.read? s = none → Instant.read? s = none → r.start = .text s) ∧
        (Date.read? s' = none → Instant.read? s' = none → r.stop = .text s')) ∧
    ∀ t : Instant, 0 ≤ t.date.civil.year → t.date.civil.year ≤ 9999 → t.isLeap = true →
      t.seconds % 60 ≠ 59 → ∃ u : Instant, u.seconds = t.seconds + 1 ∧
        u.nanos + 1000000000 = t.nanos ∧ Value.HasText (.instant u) t.text := by
  refine ⟨fun s s' => Json.read?_texts [s, s'], ?_, ?_, ?_⟩
  · intro text s s' v w hread hv hw
    have hends : comparable v w = true := by
      rw [comparable, Value.isOrdered, hv.family?, hw.family?]
      rfl
    refine ⟨⟨v, w, hends⟩, ?_, rfl, rfl⟩
    rw [Json.decodeText_of_read? hread, ofJson_texts_eq_ok_iff]
    exact ⟨hv.readTemporal.symm, hw.readTemporal.symm⟩
  · intro text s s' r hread hr
    rw [Json.decodeText_of_read? hread, ofJson_texts_eq_ok_iff] at hr
    exact ⟨fun hdate hinstant => hr.1.trans (readTemporal_of_unread hdate hinstant),
      fun hdate hinstant => hr.2.trans (readTemporal_of_unread hdate hinstant)⟩
  · intro t hfirst hlast hleap hminute
    obtain ⟨u, hseconds, hnanos, huleap, hdate, htext⟩ := t.exists_text_eq hleap hminute
    refine ⟨u, hseconds, hnanos, ?_⟩
    rw [← hdate] at hfirst hlast
    rw [← htext]
    exact .instant u hfirst hlast fun h => absurd (huleap.symm.trans h) Bool.false_ne_true

/-- The first representable date and the leap second at the end of 2016, two names, and a leap
second inside of a minute, which has the text of another instant. -/
theorem survives_text_leap_second :
    (∃ r, Json.decodeText Range.ofJson "[\"-262143-01-01\",\"2016-12-31T23:59:60.500Z\"]" = .ok r ∧
      r.start = .date ⟨Date.firstDay, by decide, by decide⟩ ∧
      r.stop = .instant ⟨1483228799, 1500000000, by decide, by decide, by decide⟩) ∧
    (∃ r, Json.decodeText Range.ofJson "[\"ana\",\"joana\"]" = .ok r ∧
      r.start = .text "ana" ∧ r.stop = .text "joana") ∧
    ∃ u : Instant, u.seconds = 1709296470 ∧ u.nanos = 500000000 ∧
      Value.HasText (.instant u) "2024-03-01T12:34:30.500Z" := by
  obtain ⟨-, htemporal, htexts, hinside⟩ := survives_text
  refine ⟨?_, ?_, ?_⟩
  · have hdate : Value.HasText (.date ⟨Date.firstDay, by decide, by decide⟩) "-262143-01-01" :=
      .date _
    have hinstant : Value.HasText
        (.instant ⟨1483228799, 1500000000, by decide, by decide, by decide⟩)
        "2016-12-31T23:59:60.500Z" := .instant _ (by decide) (by decide) fun _ => rfl
    exact htemporal _ _ _ _ _ rfl hdate hinstant
  · have hr : Json.decodeText Range.ofJson "[\"ana\",\"joana\"]" =
        .ok ⟨.text "ana", .text "joana", rfl⟩ := rfl
    obtain ⟨hstart, hstop⟩ := htexts _ "ana" "joana" _ rfl hr
    exact ⟨_, hr, hstart rfl rfl, hstop rfl rfl⟩
  · obtain ⟨u, hseconds, hnanos, htext⟩ :=
      hinside ⟨1709296469, 1500000000, by decide, by decide, by decide⟩ (by decide) (by decide) rfl
        (by decide)
    exact ⟨u, hseconds, Nat.add_right_cancel hnanos, htext⟩

/-- The leap second after 12:34:29 has the text of an instant of 12:34:30, so a range from it to
itself comes back as one of that instant. -/
theorem survives_text_inside_minute :
    ∃ t u : Instant, t.seconds = 1709296469 ∧ t.nanos = 1500000000 ∧ t.date.civil.year = 2024 ∧
      t.text = "2024-03-01T12:34:30.500Z" ∧ u ≠ t ∧
      ∃ r, Json.decodeText Range.ofJson
          "[\"2024-03-01T12:34:30.500Z\",\"2024-03-01T12:34:30.500Z\"]" = .ok r ∧
        r.start = .instant u ∧ r.stop = .instant u := by
  let u : Instant := ⟨1709296470, 500000000, by decide, by decide, by decide⟩
  have hsame : u.text = "2024-03-01T12:34:30.500Z" := by decide +kernel
  have htext : Value.HasText (.instant u) "2024-03-01T12:34:30.500Z" :=
    hsame ▸ .instant u (by decide) (by decide) fun h => absurd h (by decide)
  have hread : Json.read? "[\"2024-03-01T12:34:30.500Z\",\"2024-03-01T12:34:30.500Z\"]" =
      some (.arr [.str "2024-03-01T12:34:30.500Z", .str "2024-03-01T12:34:30.500Z"]) := rfl
  have hr : Json.decodeText Range.ofJson
      "[\"2024-03-01T12:34:30.500Z\",\"2024-03-01T12:34:30.500Z\"]" =
        .ok ⟨.instant u, .instant u, rfl⟩ := by
    rw [Json.decodeText_of_read? hread, ofJson_texts_eq_ok_iff]
    exact ⟨htext.readTemporal.symm, htext.readTemporal.symm⟩
  exact ⟨⟨1709296469, 1500000000, by decide, by decide, by decide⟩, u, rfl, rfl, by decide,
    by decide +kernel, by decide, _, hr, rfl, rfl⟩

end Range

end

end FilterQuery
