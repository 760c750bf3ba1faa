import FilterQuery.Declaration
import FilterQuery.DottedPath
import FilterQuery.RelationPath

/-!
# Dotted paths and what a field targets

* `Text.joined` and `Text.pieces` undo each other: **`DottedPath.joined_split`**,
  `DottedPath.dot_notMem`;
* `SegmentsOf`: the texts between the dots; **`segmentsOf_iff`**: a path has them in one way;
* `Declaration.relations`, `Declaration.leaf`: the relations that a field follows and the attribute
  at their end;
* `Declaration.Targets`: the same, said of the declared path; **`Declaration.targets_split`**;
* `RelationPath.readWithin_eq_ok_iff`: which paths are read.
-/

namespace FilterQuery

namespace Text

theorem joined_merge (sep s t : String) (rest : List String) :
    joined sep ((s ++ sep ++ t) :: rest) = joined sep (s :: t :: rest) := by
  cases rest with
  | nil => rfl
  | cons u rest => simp only [joined, String.append_assoc]

theorem joined_concat (sep s t : String) (rest : List String) :
    joined sep (s :: rest ++ [t]) = joined sep (s :: rest) ++ sep ++ t := by
  induction rest generalizing s with
  | nil => rfl
  | cons u rest ih =>
    rw [List.cons_append, List.cons_append, joined, ← List.cons_append, ih u, joined]
    simp only [String.append_assoc]

theorem joined_ofList (sep : Char) (first : List Char) (rest : List (List Char)) :
    joined (String.ofList [sep]) ((first :: rest).map String.ofList) =
      String.ofList (first ++ rest.flatMap (sep :: ·)) := by
  induction rest generalizing first with
  | nil => rw [List.flatMap_nil, List.append_nil]; rfl
  | cons r rest ih =>
    rw [List.map_cons, List.map_cons, joined, ← List.map_cons, ih r, ← String.ofList_append,
      ← String.ofList_append, List.append_assoc, List.flatMap_cons]
    rfl

theorem pieces_flatMap (sep : Char) (cs : List Char) :
    (pieces sep cs).1 ++ (pieces sep cs).2.flatMap (sep :: ·) = cs := by
  induction cs with
  | nil => rfl
  | cons c cs ih =>
    by_cases h : c = sep
    · subst h
      rw [pieces_cons_self, List.nil_append, List.flatMap_cons, List.cons_append, ih]
    · rw [pieces_cons_of_ne h, List.cons_append, ih]

theorem notMem_pieces (sep : Char) (cs : List Char) :
    ∀ piece ∈ (pieces sep cs).1 :: (pieces sep cs).2, sep ∉ piece := by
  induction cs with
  | nil => simp
  | cons c cs ih =>
    by_cases h : c = sep
    · subst h
      rw [pieces_cons_self]
      intro piece hp
      rcases List.mem_cons.1 hp with rfl | hp
      · exact List.not_mem_nil
      · exact ih piece hp
    · rw [pieces_cons_of_ne h]
      intro piece hp
      rcases List.mem_cons.1 hp with rfl | hp
      · intro hm
        rcases List.mem_cons.1 hm with e | hm
        · exact h e.symm
        · exact ih _ List.mem_cons_self hm
      · exact ih piece (List.mem_cons_of_mem _ hp)

section

variable {sep : Char} {cs ds : List Char}

theorem pieces_of_notMem (h : sep ∉ cs) : pieces sep cs = (cs, []) := by
  induction cs with
  | nil => rfl
  | cons c cs ih =>
    rw [List.mem_cons, not_or] at h
    rw [pieces_cons_of_ne (Ne.symm h.1), ih h.2]

theorem pieces_append_cons (h : sep ∉ cs) :
    pieces sep (cs ++ sep :: ds) = (cs, (pieces sep ds).1 :: (pieces sep ds).2) := by
  induction cs with
  | nil => exact pieces_cons_self sep ds
  | cons c cs ih =>
    rw [List.mem_cons, not_or] at h
    rw [List.cons_append, pieces_cons_of_ne (Ne.symm h.1), ih h.2]

theorem pieces_parts {first : List Char} {rest : List (List Char)} (hfirst : sep ∉ first)
    (hrest : ∀ r ∈ rest, sep ∉ r) :
    pieces sep (first ++ rest.flatMap (sep :: ·)) = (first, rest) := by
  induction rest generalizing first with
  | nil =>
    rw [List.flatMap_nil, List.append_nil]
    exact pieces_of_notMem hfirst
  | cons r rest ih =>
    obtain ⟨hr, hrest⟩ := List.forall_mem_cons.1 hrest
    rw [List.flatMap_cons, List.cons_append, pieces_append_cons hfirst, ih hr hrest]

end

end Text

namespace DottedPath

theorem segments_split (s : String) : (split s).segments =
    ((Text.pieces '.' s.toList).1 :: (Text.pieces '.' s.toList).2).map String.ofList :=
  segments_ofSegments _ _

/-- **The segments of a path make up the path.** -/
theorem joined_split (s : String) : Text.joined "." (split s).segments = s := by
  rw [segments_split, show "." = String.ofList ['.'] from rfl, Text.joined_ofList,
    Text.pieces_flatMap, String.ofList_toList]

theorem dot_notMem {s segment : String} (h : segment ∈ (split s).segments) :
    '.' ∉ segment.toList := by
  rw [segments_split, List.mem_map] at h
  obtain ⟨piece, hp, rfl⟩ := h
  rw [String.toList_ofList]
  exact Text.notMem_pieces '.' s.toList piece hp

end DottedPath

/-- Texts without dots that make up a path. -/
structure SegmentsOf (path : String) (segments : List String) : Prop where
  ne_nil : segments ≠ []
  joined_eq : Text.joined "." segments = path
  dot_notMem : ∀ s ∈ segments, '.' ∉ s.toList

/-- **A path has one list of segments**, those at which it is cut. -/
theorem segmentsOf_iff {path : String} {segments : List String} :
    SegmentsOf path segments ↔ segments = (DottedPath.split path).segments := by
  constructor
  · rintro ⟨hne, rfl, hdots⟩
    obtain ⟨first, rest, rfl⟩ := List.exists_cons_of_ne_nil hne
    obtain ⟨hfirst, hrest⟩ := List.forall_mem_cons.1 hdots
    have hlists : first :: rest =
        (first.toList :: rest.map String.toList).map String.ofList := by
      simp
    have hparts : ∀ r ∈ rest.map String.toList, '.' ∉ r := by
      intro r hr
      obtain ⟨s, hs, rfl⟩ := List.mem_map.1 hr
      exact hrest s hs
    have hjoined : Text.joined "." (first :: rest) = String.ofList
        (first.toList ++ (rest.map String.toList).flatMap ('.' :: ·)) := by
      rw [hlists]
      exact Text.joined_ofList '.' _ _
    rw [hjoined, DottedPath.segments_split, String.toList_ofList, Text.pieces_parts hfirst hparts]
    exact hlists
  · rintro rfl
    refine ⟨?_, DottedPath.joined_split path, fun _ => DottedPath.dot_notMem⟩
    rw [DottedPath.segments]
    exact List.append_ne_nil_of_right_ne_nil _ (List.cons_ne_nil _ _)

/-! ## What a field targets -/

namespace Declaration

/-- The relations that a field follows from the root. -/
def relations (d : Declaration) : List String :=
  if d.hasPath then (DottedPath.split d.path).relations else []

/-- The attribute at the end of them. -/
def leaf (d : Declaration) : String :=
  if d.hasPath then (DottedPath.split d.path).leaf else d.field

/-- The attribute that a field constrains, with the relations to it, in one text. -/
def target (d : Declaration) : String := if d.hasPath then d.path else d.field

/-- The declared path is made up of the relations and the attribute. Without a path there is no
relation, and the attribute has the name of the field. -/
def Targets (d : Declaration) (relations : List String) (leaf : String) : Prop :=
  if d.path = "" then relations = [] ∧ leaf = d.field
  else d.path = Text.joined "." (relations ++ [leaf]) ∧
    ∀ segment ∈ relations ++ [leaf], '.' ∉ segment.toList

variable {d : Declaration}

theorem hasPath_eq_false_iff : d.hasPath = false ↔ d.path = "" := by
  rw [hasPath, Bool.not_eq_false', String.isEmpty_iff]

theorem hasPath_iff : d.hasPath = true ↔ d.path ≠ "" := by
  rw [ne_eq, ← hasPath_eq_false_iff, Bool.not_eq_false]

/-- **A field targets the segments of its path.** -/
theorem targets_split (d : Declaration) : d.Targets d.relations d.leaf := by
  unfold Targets relations leaf
  by_cases h : d.path = ""
  · rw [if_pos h, if_neg (by rw [hasPath_iff]; exact fun hn => hn h),
      if_neg (by rw [hasPath_iff]; exact fun hn => hn h)]
    exact ⟨rfl, rfl⟩
  · rw [if_neg h, if_pos (hasPath_iff.2 h), if_pos (hasPath_iff.2 h)]
    exact ⟨(DottedPath.joined_split d.path).symm, fun _ => DottedPath.dot_notMem⟩

theorem target_eq (d : Declaration) : d.target = Text.joined "." (d.relations ++ [d.leaf]) := by
  unfold target relations leaf
  split
  · exact (DottedPath.joined_split d.path).symm
  · rfl

end Declaration

/-! ## Reading relation paths -/

namespace RelationPath

theorem firstBlank_eq_none_iff {segments : List String} :
    firstBlank segments = none ↔ ∀ s ∈ segments, Text.allBlank s = false := by
  rw [firstBlank, Option.map_eq_none_iff, List.findIdx?_eq_none_iff]

theorem read_eq_ok_iff {path : String} {p : DottedPath} :
    read path = .ok p ↔ p = DottedPath.split path ∧ path ≠ "" ∧
      ∀ s ∈ p.segments, Text.allBlank s = false := by
  unfold read
  by_cases he : path.isEmpty = true
  · simp [String.isEmpty_iff.1 he]
  · rw [if_neg he]
    have hne : path ≠ "" := fun h => he (String.isEmpty_iff.2 h)
    dsimp only
    cases hb : firstBlank (DottedPath.split path).segments with
    | some place =>
      constructor
      · intro h
        cases h
      · rintro ⟨rfl, -, h⟩
        exact absurd (firstBlank_eq_none_iff.2 h) (hb ▸ Option.some_ne_none _)
    | none =>
      rw [Except.ok.injEq]
      constructor
      · rintro rfl
        exact ⟨rfl, hne, firstBlank_eq_none_iff.1 hb⟩
      · rintro ⟨rfl, -⟩
        rfl

theorem readWithin_eq_ok_iff {limit : Nat} {path : String} {p : DottedPath} :
    readWithin limit path = .ok p ↔ p = DottedPath.split path ∧ path ≠ "" ∧
      (∀ s ∈ p.segments, Text.allBlank s = false) ∧ p.relations.length ≤ limit := by
  have key : readWithin limit path = .ok p ↔ read path = .ok p ∧ p.relations.length ≤ limit := by
    unfold readWithin
    cases read path with
    | error e => simp [bind, Except.bind]
    | ok q =>
      by_cases hl : limit < q.relations.length
      · simp only [bind, Except.bind, if_pos hl, reduceCtorEq, Except.ok.injEq, false_iff, not_and]
        rintro rfl
        omega
      · simp only [bind, Except.bind, if_neg hl, pure, Except.pure, Except.ok.injEq]
        exact ⟨fun h => ⟨h, by subst h; omega⟩, fun h => h.1⟩
  rw [key, read_eq_ok_iff]
  simp only [and_assoc]

theorem ne_empty_of_allBlank_eq_false {s : String} (h : Text.allBlank s = false) : s ≠ "" := by
  rintro rfl
  exact absurd h (by decide)

end RelationPath

end FilterQuery
