import FilterQuery.Config
import FilterQuery.Proofs.Compile.Inputs
import FilterQuery.Proofs.Text.Case
import FilterQuery.Proofs.Text.Numerals

/-!
# Settings under their keys

Which texts are taken for the settings of a compiler, and what is reported of others. All three
texts are read before the limits are checked.

* `JoinType.Named`, `WritesLimit`, `FaultyLimit`: texts of a join type and of a limit, and texts of
  neither;
* `Holds`, `Reads`: one setting and all of them, with defaults;
* `Refuses`: the first thing wrong with the texts under the keys;
* `fromLookup_eq_ok_iff`, `fromLookup_eq_error_iff`: settings that are taken, and errors;
* `fromLookup_of_shows`: settings are read back from their own texts;
* **`CompilerConfig.fromLookup_exact`**: all of this, whatever is under the keys.
-/

namespace FilterQuery

/-! ## Texts of a join type -/

namespace JoinType

/-- The words for a join type. -/
def words : JoinType → List String
  | left => ["left", "left_outer"]
  | inner => ["inner"]

/-- The text names the join type by one of its words, each letter in either case. -/
def Named (s : String) (t : JoinType) : Prop := ∃ word ∈ t.words, Text.SpelledAs s word

variable {s : String} {t : JoinType}

theorem isUpper_eq_false_of_words (t : JoinType) :
    ∀ word ∈ t.words, ∀ l ∈ word.toList, l.isUpper = false := by
  have hcheck : (t.words.all fun word => word.toList.all fun l => !l.isUpper) = true := by
    cases t <;> decide +kernel
  intro word hword l hl
  have hletters := List.all_eq_true.1 hcheck word hword
  rw [← Bool.not_eq_true']
  exact List.all_eq_true.1 hletters l hl

theorem named_iff : Named s t ↔ Text.asciiLowercase s ∈ t.words := by
  constructor
  · rintro ⟨word, hword, hsame⟩
    rwa [(Text.asciiLowercase_eq_iff (isUpper_eq_false_of_words t word hword)).2 hsame]
  · intro hword
    exact ⟨_, hword, (Text.asciiLowercase_eq_iff (isUpper_eq_false_of_words t _ hword)).1 rfl⟩

theorem named_name (t : JoinType) : Named t.name t :=
  ⟨t.name, by cases t <;> simp [name, words], Text.SpelledAs.refl t.name⟩

/-- What is reported of a text that names no join type. -/
def unknown (s : String) : QueryError :=
  .invalidConfiguration ("Unknown join type '" ++ Text.asciiLowercase s ++
    "', expected 'left' or 'inner'")

theorem read_eq (s : String) : read s =
    if Text.asciiLowercase s ∈ left.words then .ok left
    else if Text.asciiLowercase s ∈ inner.words then .ok inner
    else .error (unknown s) := by
  simp only [read, words, List.mem_cons, List.not_mem_nil, or_false]
  rfl

theorem eq_of_mem_words {word : String} {t' : JoinType} (h : word ∈ t.words)
    (h' : word ∈ t'.words) : t = t' := by
  have hapart : ∀ word ∈ left.words, word ∉ inner.words := by decide +kernel
  match t, t' with
  | left, left | inner, inner => rfl
  | left, inner => exact absurd h' (hapart word h)
  | inner, left => exact absurd h (hapart word h')

theorem read_eq_ok_iff : read s = .ok t ↔ Named s t := by
  have hword (t' : JoinType) (h : Text.asciiLowercase s ∈ t'.words) :
      (.ok t' : Except QueryError JoinType) = .ok t ↔ Text.asciiLowercase s ∈ t.words := by
    rw [Except.ok.injEq]
    exact ⟨fun heq => heq ▸ h, eq_of_mem_words h⟩
  rw [named_iff, read_eq]
  split
  · exact hword left ‹_›
  · split
    · exact hword inner ‹_›
    · cases t <;> simp [*]

/-- **A text is refused as a join type if it names none.** -/
theorem read_eq_error_iff {e : QueryError} :
    read s = .error e ↔ (∀ t, ¬ Named s t) ∧ e = unknown s := by
  simp only [named_iff]
  rw [read_eq]
  split
  · exact iff_of_false (by simp) fun h => h.1 left ‹_›
  · split
    · exact iff_of_false (by simp) fun h => h.1 inner ‹_›
    · have hnone : ∀ t : JoinType, Text.asciiLowercase s ∉ t.words := by
        intro t
        cases t <;> assumption
      rw [Except.error.injEq]
      exact ⟨fun h => ⟨hnone, h.symm⟩, fun h => h.2.symm⟩

end JoinType

namespace CompilerConfig

/-! ## Texts of a limit -/

/-- The text is a numeral below 2⁶⁴, with blanks around it at most. -/
def WritesLimit (s : String) (n : Nat) : Prop :=
  ∃ core, Text.IsTrimmed s core ∧ Text.IsNumeral core n ∧ n < UInt64.size

/-- What is wrong with a text of a limit, the blanks around it left aside. -/
def FaultyLimit (s : String) (fault : Text.NumberFault) : Prop :=
  ∃ core, Text.IsTrimmed s core ∧ Text.IsFault core fault

/-- What is reported of a text under a key that is no limit. -/
def unreadable (key s : String) (fault : Text.NumberFault) : QueryError :=
  (QueryError.invalidConfiguration (key ++ " must be a positive integer, got '" ++ s ++
    "'")).withSource fault.message

section

variable {key s : String} {n : Nat} {e : QueryError}

theorem readWord_trim_eq_ok_iff : Text.readWord (Text.trim s) = .ok n ↔ WritesLimit s n := by
  simp only [Text.readWord_eq_ok_iff, WritesLimit, Text.isTrimmed_iff, exists_eq_left']

theorem readWord_trim_eq_error_iff {fault : Text.NumberFault} :
    Text.readWord (Text.trim s) = .error fault ↔ FaultyLimit s fault := by
  simp only [Text.readWord_eq_error_iff, FaultyLimit, Text.isTrimmed_iff, exists_eq_left']

theorem readLimit_eq_ok_iff : readLimit key s = .ok n ↔ WritesLimit s n := by
  rw [← readWord_trim_eq_ok_iff, readLimit]
  cases Text.readWord (Text.trim s) <;> simp

/-- **A text is refused as a limit if it is faulty.** -/
theorem readLimit_eq_error_iff :
    readLimit key s = .error e ↔ ∃ fault, FaultyLimit s fault ∧ e = unreadable key s fault := by
  simp only [← readWord_trim_eq_error_iff, readLimit, unreadable]
  cases Text.readWord (Text.trim s) <;> simp [eq_comm]

theorem writesLimit_toString (h : n < UInt64.size) : WritesLimit (toString n) n :=
  ⟨_, Text.isTrimmed_toString n, .inl (Text.isDigits_toString n), h⟩

end

/-! ## One setting -/

variable {lookup : String → Option String}

/-- A setting is what the text under its key says, or the default if there is none. -/
def Holds {α : Type} (lookup : String → Option String) (key : String) (default : α)
    (Says : String → α → Prop) (a : α) : Prop :=
  match lookup key with
  | none => a = default
  | some s => Says s a

section

variable {α : Type} {key : String} {default a : α} {read : String → Except QueryError α}
  {Says : String → α → Prop} {e : QueryError}

theorem setting_eq_ok_iff (h : ∀ s a, read s = .ok a ↔ Says s a) :
    setting lookup key default read = .ok a ↔ Holds lookup key default Says a := by
  rw [setting, Holds]
  cases lookup key with
  | none => rw [Except.ok.injEq, eq_comm]
  | some s => exact h s a

theorem setting_eq_error_iff :
    setting lookup key default read = .error e ↔ ∃ s, lookup key = some s ∧ read s = .error e := by
  rw [setting]
  cases lookup key <;> simp

theorem exists_holds_iff (lookup : String → Option String) (key : String) (default : α)
    (Says : String → α → Prop) (p : α → Prop) (hdefault : p default) :
    (∃ a, Holds lookup key default Says a ∧ p a) ↔
      ∀ s, lookup key = some s → ∃ a, Says s a ∧ p a := by
  simp only [Holds]
  cases lookup key <;> simp [hdefault]

theorem holds_of_eq_some {s : String} (h : lookup key = some s) (ha : Says s a) :
    Holds lookup key default Says a := by
  rw [Holds, h]
  exact ha

end

/-! ## All settings -/

theorem validate_eq_ok_iff {c : CompilerConfig} :
    c.validate = .ok () ↔ 0 < c.maxRelationDepth ∧ 0 < c.maxListLen := by
  unfold validate
  split
  · simp [*]
  · split <;> simp [*, Nat.pos_iff_ne_zero]

theorem validate_eq_error_iff {c : CompilerConfig} {e : QueryError} : c.validate = .error e ↔
    c.maxRelationDepth = 0 ∧ e = .invalidConfiguration "max_relation_depth must be at least 1" ∨
    0 < c.maxRelationDepth ∧ c.maxListLen = 0 ∧
      e = .invalidConfiguration "max_list_len must be at least 1" := by
  unfold validate
  split
  · simp [*, eq_comm]
  · split <;> simp [*, Nat.pos_iff_ne_zero, eq_comm]

/-- The settings where there are no texts at all. -/
def defaults : CompilerConfig := {}

/-- The settings are what the texts under their keys say, with defaults for the others. -/
structure Reads (lookup : String → Option String) (c : CompilerConfig) : Prop where
  joinType : Holds lookup joinTypeKey defaults.joinType JoinType.Named c.joinType
  maxRelationDepth :
    Holds lookup maxRelationDepthKey defaults.maxRelationDepth WritesLimit c.maxRelationDepth
  maxListLen : Holds lookup maxListLenKey defaults.maxListLen WritesLimit c.maxListLen

/-- The first thing wrong with the texts under the keys. A text that cannot be read comes before a
limit of zero, whichever key it is under. -/
inductive Refuses (lookup : String → Option String) : QueryError → Prop
  | joinType {s : String} (found : lookup joinTypeKey = some s)
      (unnamed : ∀ t, ¬ JoinType.Named s t) : Refuses lookup (JoinType.unknown s)
  | maxRelationDepth {t : JoinType} {s : String} {fault : Text.NumberFault}
      (joinType : Holds lookup joinTypeKey defaults.joinType JoinType.Named t)
      (found : lookup maxRelationDepthKey = some s) (faulty : FaultyLimit s fault) :
      Refuses lookup (unreadable maxRelationDepthKey s fault)
  | maxListLen {t : JoinType} {depth : Nat} {s : String} {fault : Text.NumberFault}
      (joinType : Holds lookup joinTypeKey defaults.joinType JoinType.Named t)
      (maxRelationDepth :
        Holds lookup maxRelationDepthKey defaults.maxRelationDepth WritesLimit depth)
      (found : lookup maxListLenKey = some s) (faulty : FaultyLimit s fault) :
      Refuses lookup (unreadable maxListLenKey s fault)
  | noJoins {c : CompilerConfig} (reads : Reads lookup c) (zero : c.maxRelationDepth = 0) :
      Refuses lookup (.invalidConfiguration "max_relation_depth must be at least 1")
  | noList {c : CompilerConfig} (reads : Reads lookup c) (pos : 0 < c.maxRelationDepth)
      (zero : c.maxListLen = 0) :
      Refuses lookup (.invalidConfiguration "max_list_len must be at least 1")

theorem Refuses.code_eq {e : QueryError} (h : Refuses lookup e) :
    e.code = .invalidConfiguration := by
  cases h <;> rfl

/-- **Settings are taken** if they are read and their limits are above zero. -/
theorem fromLookup_eq_ok_iff {c : CompilerConfig} :
    fromLookup lookup = .ok c ↔ Reads lookup c ∧ c.validate = .ok () := by
  simp only [fromLookup, exceptBind_eq_ok_iff,
    setting_eq_ok_iff (fun _ _ => JoinType.read_eq_ok_iff),
    setting_eq_ok_iff (fun _ _ => readLimit_eq_ok_iff)]
  constructor
  · rintro ⟨t, ht, depth, hdepth, len, hlen, u, hvalid, ⟨⟩⟩
    exact ⟨⟨ht, hdepth, hlen⟩, hvalid⟩
  · rintro ⟨⟨ht, hdepth, hlen⟩, hvalid⟩
    exact ⟨_, ht, _, hdepth, _, hlen, (), hvalid, rfl⟩

/-- **Otherwise the error is that of the first thing wrong.** -/
theorem fromLookup_eq_error_iff {e : QueryError} :
    fromLookup lookup = .error e ↔ Refuses lookup e := by
  -- Each of the four steps may fail, once those before it have gone well.
  simp only [fromLookup, exceptBind_eq_error_iff,
    setting_eq_ok_iff (fun _ _ => JoinType.read_eq_ok_iff),
    setting_eq_ok_iff (fun _ _ => readLimit_eq_ok_iff), setting_eq_error_iff,
    JoinType.read_eq_error_iff, readLimit_eq_error_iff, validate_eq_error_iff]
  constructor
  · rintro (⟨s, hs, hno, rfl⟩ | ⟨t, ht, ⟨s, hs, fault, hfault, rfl⟩ | ⟨depth, hdepth,
      ⟨s, hs, fault, hfault, rfl⟩ | ⟨len, hlen, (⟨hzero, rfl⟩ | ⟨hpos, hzero, rfl⟩) | ⟨u, -, ⟨⟩⟩⟩⟩⟩)
    · exact .joinType hs hno
    · exact .maxRelationDepth ht hs hfault
    · exact .maxListLen ht hdepth hs hfault
    · exact .noJoins (c := ⟨t, depth, len⟩) ⟨ht, hdepth, hlen⟩ hzero
    · exact .noList (c := ⟨t, depth, len⟩) ⟨ht, hdepth, hlen⟩ hpos hzero
  · rintro (⟨hs, hno⟩ | ⟨ht, hs, hfault⟩ | ⟨ht, hdepth, hs, hfault⟩ | ⟨⟨ht, hdepth, hlen⟩, hzero⟩ |
      ⟨⟨ht, hdepth, hlen⟩, hpos, hzero⟩)
    · exact .inl ⟨_, hs, hno, rfl⟩
    · exact .inr ⟨_, ht, .inl ⟨_, hs, _, hfault, rfl⟩⟩
    · exact .inr ⟨_, ht, .inr ⟨_, hdepth, .inl ⟨_, hs, _, hfault, rfl⟩⟩⟩
    · exact .inr ⟨_, ht, .inr ⟨_, hdepth, .inr ⟨_, hlen, .inl (.inl ⟨hzero, rfl⟩)⟩⟩⟩
    · exact .inr ⟨_, ht, .inr ⟨_, hdepth, .inr ⟨_, hlen, .inl (.inr ⟨hpos, hzero, rfl⟩)⟩⟩⟩

theorem exists_fromLookup_iff : (∃ c, fromLookup lookup = .ok c) ↔
    (∀ s, lookup joinTypeKey = some s → ∃ t, JoinType.Named s t) ∧
    (∀ s, lookup maxRelationDepthKey = some s → ∃ n, WritesLimit s n ∧ 0 < n) ∧
    (∀ s, lookup maxListLenKey = some s → ∃ n, WritesLimit s n ∧ 0 < n) := by
  have hjoinType := exists_holds_iff lookup joinTypeKey defaults.joinType JoinType.Named
    (fun _ => True) trivial
  have hdepth := exists_holds_iff lookup maxRelationDepthKey defaults.maxRelationDepth WritesLimit
    (0 < ·) (by decide)
  have hlen := exists_holds_iff lookup maxListLenKey defaults.maxListLen WritesLimit
    (0 < ·) (by decide)
  simp only [and_true] at hjoinType
  simp only [fromLookup_eq_ok_iff, validate_eq_ok_iff]
  rw [← hjoinType, ← hdepth, ← hlen]
  constructor
  · rintro ⟨c, hreads, hpos⟩
    exact ⟨⟨_, hreads.joinType⟩, ⟨_, hreads.maxRelationDepth, hpos.1⟩, _, hreads.maxListLen, hpos.2⟩
  · rintro ⟨⟨t, ht⟩, ⟨depth, hdepth, hdepthPos⟩, len, hlen, hlenPos⟩
    exact ⟨⟨t, depth, len⟩, ⟨ht, hdepth, hlen⟩, hdepthPos, hlenPos⟩

/-- The texts of the settings are under their keys. -/
structure Shows (lookup : String → Option String) (c : CompilerConfig) : Prop where
  joinType : lookup joinTypeKey = some c.joinType.name
  maxRelationDepth : lookup maxRelationDepthKey = some (toString c.maxRelationDepth)
  maxListLen : lookup maxListLenKey = some (toString c.maxListLen)

/-- **Settings are read back from their own texts.** -/
theorem fromLookup_of_shows {c : CompilerConfig} (hvalid : c.validate = .ok ())
    (hdepth : c.maxRelationDepth < UInt64.size) (hlen : c.maxListLen < UInt64.size)
    (h : Shows lookup c) : fromLookup lookup = .ok c := by
  refine fromLookup_eq_ok_iff.2 ⟨⟨?_, ?_, ?_⟩, hvalid⟩
  · exact holds_of_eq_some h.joinType (JoinType.named_name c.joinType)
  · exact holds_of_eq_some h.maxRelationDepth (writesLimit_toString hdepth)
  · exact holds_of_eq_some h.maxListLen (writesLimit_toString hlen)

/-- **Settings are taken from the texts that say them, and from no others.** Where a text under a
key is none of its setting, the error is that of the first such key, and one of a limit that is zero
comes after those. -/
theorem fromLookup_exact (lookup : String → Option String) :
    ((∃ c, fromLookup lookup = .ok c) ↔
      (∀ s, lookup joinTypeKey = some s → ∃ t, JoinType.Named s t) ∧
      (∀ s, lookup maxRelationDepthKey = some s → ∃ n, WritesLimit s n ∧ 0 < n) ∧
      (∀ s, lookup maxListLenKey = some s → ∃ n, WritesLimit s n ∧ 0 < n)) ∧
    (∀ c, fromLookup lookup = .ok c ↔ Reads lookup c ∧ c.validate = .ok ()) ∧
    (∀ e, fromLookup lookup = .error e ↔ Refuses lookup e) ∧
    (∀ e, fromLookup lookup = .error e → e.code = .invalidConfiguration) ∧
    (∀ c : CompilerConfig, c.validate = .ok () → c.maxRelationDepth < UInt64.size →
      c.maxListLen < UInt64.size → Shows lookup c → fromLookup lookup = .ok c) := by
  refine ⟨exists_fromLookup_iff, fun _ => fromLookup_eq_ok_iff, fun _ => fromLookup_eq_error_iff,
    ?_, fun _ => fromLookup_of_shows⟩
  intro e h
  exact (fromLookup_eq_error_iff.1 h).code_eq

/-- The greatest limit is read back, and a plus sign, zeros, blanks and capitals do not matter. A
limit that is too large is reported before one of zero under the key before it. -/
theorem fromLookup_exact_greatest :
    let under (texts : List (String × String)) (key : String) : Option String := texts.lookup key
    let greatest : CompilerConfig := ⟨.inner, 18446744073709551615, 1⟩
    let shown := under [(joinTypeKey, "inner"), (maxRelationDepthKey, "18446744073709551615"),
      (maxListLenKey, "1")]
    let adorned := under [(joinTypeKey, "Left_OUTER"), (maxRelationDepthKey, "\u00a0+007\n")]
    let wrong := under [(maxRelationDepthKey, "0"), (maxListLenKey, "18446744073709551616")]
    let tooLarge := unreadable maxListLenKey "18446744073709551616" .tooLarge
    (greatest.validate = .ok () ∧ greatest.maxRelationDepth < UInt64.size ∧
      greatest.maxListLen < UInt64.size ∧ Shows shown greatest ∧
      fromLookup shown = .ok greatest) ∧
    (fromLookup adorned = .ok ⟨.left, 7, 1000⟩ ∧ Reads adorned ⟨.left, 7, 1000⟩) ∧
    fromLookup wrong = .error tooLarge ∧ Refuses wrong tooLarge := by
  intro under greatest shown adorned wrong tooLarge
  have hvalid : greatest.validate = .ok () := by decide
  have hdepth : greatest.maxRelationDepth < UInt64.size := by decide
  have hlen : greatest.maxListLen < UInt64.size := by decide
  have hshows : Shows shown greatest := ⟨by decide +kernel, by decide +kernel, by decide +kernel⟩
  have hadorned : fromLookup adorned = .ok ⟨.left, 7, 1000⟩ := by decide +kernel
  have hwrong : fromLookup wrong = .error tooLarge := by decide +kernel
  obtain ⟨-, -, -, -, hback⟩ := fromLookup_exact shown
  obtain ⟨-, hreads, -⟩ := fromLookup_exact adorned
  obtain ⟨-, -, hrefuses, -⟩ := fromLookup_exact wrong
  exact ⟨⟨hvalid, hdepth, hlen, hshows, hback greatest hvalid hdepth hlen hshows⟩,
    ⟨hadorned, ((hreads _).1 hadorned).1⟩, hwrong, (hrefuses _).1 hwrong⟩

end CompilerConfig

end FilterQuery
