import FilterQuery.Proofs.Compile.Failures
import Mathlib.Data.Finset.Card

/-!
# Filter types that embed one another

A filter type may embed another one, which may embed a third one, and each of them declares fields.
A name that is declared again keeps its place, and is otherwise as it was declared last.

* `FirstSeen`: the items of a list, each where it appears first;
* `Declarations.declare`: several fields declared in a row; `Declarations.firstSeen_declare`,
  `Declarations.find?_declare`: the order of their names, and which of them is found;
* `Lineage`, `Lineage.levels`: filter types that embed one another, and each of them with its object
  inside of that of the last; **`Lineage.declarations_eq`**: they declare what one filter type
  would;
* **`Lineage.firstSeen_names`**, `Lineage.DeclaresLast`: the places of names, and the last
  declaration of each;
* **`declarations_of_lineage`**: the declarations of a filter type, whatever it embeds.
-/

namespace FilterQuery

/-! ## First appearances -/

/-- The items of a list, each once and in the order in which they appear first. -/
structure FirstSeen (items all : List String) : Prop where
  nodup : items.Nodup
  mem_iff : ∀ s, s ∈ items ↔ s ∈ all
  ordered : items.Pairwise fun s t => all.idxOf s < all.idxOf t

namespace FirstSeen

variable {items all : List String} {s : String}

theorem nil : FirstSeen [] [] := ⟨.nil, fun _ => Iff.rfl, .nil⟩

theorem ordered_snoc (h : FirstSeen items all) :
    items.Pairwise fun t u => (all ++ [s]).idxOf t < (all ++ [s]).idxOf u := by
  refine h.ordered.imp_of_mem fun ht hu hlt => ?_
  rw [List.idxOf_append_of_mem ((h.mem_iff _).1 ht), List.idxOf_append_of_mem ((h.mem_iff _).1 hu)]
  exact hlt

theorem snoc_of_mem (h : FirstSeen items all) (hs : s ∈ all) : FirstSeen items (all ++ [s]) := by
  refine ⟨h.nodup, fun t => ?_, h.ordered_snoc⟩
  rw [h.mem_iff, List.mem_append, List.mem_singleton]
  constructor
  · exact .inl
  · rintro (ht | rfl)
    · exact ht
    · exact hs

theorem snoc_of_notMem (h : FirstSeen items all) (hs : s ∉ all) :
    FirstSeen (items ++ [s]) (all ++ [s]) := by
  refine ⟨?_, fun t => ?_, ?_⟩
  · rw [← List.concat_eq_append, List.nodup_concat, h.mem_iff]
    exact ⟨hs, h.nodup⟩
  · rw [List.mem_append, List.mem_append, h.mem_iff]
  · refine List.pairwise_append.2 ⟨h.ordered_snoc, List.pairwise_singleton _ _, fun t ht u hu => ?_⟩
    have ht' : t ∈ all := (h.mem_iff t).1 ht
    rw [List.mem_singleton.1 hu, List.idxOf_append_of_mem ht', List.idxOf_append_of_notMem hs]
    exact Nat.lt_add_right _ (List.idxOf_lt_length_of_mem ht')

theorem length_eq (h : FirstSeen items all) : items.length = all.toFinset.card := by
  have hset : items.toFinset = all.toFinset := Finset.ext fun t => by
    rw [List.mem_toFinset, List.mem_toFinset, h.mem_iff]
  rw [← hset, List.toFinset_card_of_nodup h.nodup]

end FirstSeen

/-! ## Fields declared in a row -/

namespace Declarations

variable {F P : Type} {f : Field F} {fields : List (Field F)}

theorem map_name_put : (put f fields).map Field.name =
    if f.name ∈ fields.map Field.name then fields.map Field.name
    else fields.map Field.name ++ [f.name] := by
  induction fields with
  | nil => rfl
  | cons g rest ih =>
    rw [put]
    by_cases hg : g.name = f.name
    · simp [hg]
    · rw [if_neg hg, List.map_cons, ih, List.map_cons]
      by_cases hf : f.name ∈ rest.map Field.name
      · rw [if_pos hf, if_pos (List.mem_cons_of_mem _ hf)]
      · rw [if_neg hf, if_neg (by rw [List.mem_cons, not_or]; exact ⟨Ne.symm hg, hf⟩),
          List.cons_append]

theorem find?_put (name : String) : (put f fields).find? (fun g => g.name == name) =
    if f.name = name then some f else fields.find? fun g => g.name == name := by
  induction fields with
  | nil => simp [put, List.find?_singleton]
  | cons g rest ih =>
    rw [put]
    by_cases hg : g.name = f.name
    · rw [if_pos hg, List.find?_cons, List.find?_cons, hg]
      by_cases hf : f.name = name
      · simp [hf]
      · rw [beq_false_of_ne hf, if_neg hf]
    · rw [if_neg hg, List.find?_cons, List.find?_cons, ih]
      by_cases hf : f.name = name
      · subst hf
        rw [beq_false_of_ne hg, if_pos rfl]
      · rw [if_neg hf, if_neg hf]

theorem map_embed_put (project : P → F) :
    (put f fields).map (Field.embed project) =
      put (f.embed project) (fields.map (Field.embed project)) := by
  induction fields with
  | nil => rfl
  | cons g rest ih =>
    have hname : (g.embed project).name = (f.embed project).name ↔ g.name = f.name := Iff.rfl
    rw [put, List.map_cons, put]
    by_cases hg : g.name = f.name
    · rw [if_pos hg, if_pos (hname.2 hg), List.map_cons]
    · rw [if_neg hg, if_neg (mt hname.1 hg), List.map_cons, ih]

/-- Declare fields in a row. -/
def declare (d : Declarations F) (fs : List (Field F)) : Declarations F :=
  fs.foldl (fun d f => d.field f.declaration f.access) d

theorem declare_snoc (d : Declarations F) (fs : List (Field F)) (f : Field F) :
    d.declare (fs ++ [f]) = (d.declare fs).field f.declaration f.access := by
  rw [declare, List.foldl_append]
  rfl

theorem inherit_declare (d : Declarations F) (fs : List (Field F)) (project : P → F) :
    (d.declare fs).inherit project = (d.inherit project).declare (fs.map (Field.embed project)) := by
  induction fs using List.reverseRecOn with
  | nil => rfl
  | append_singleton fs f ih =>
    rw [declare_snoc, List.map_append, List.map_singleton, declare_snoc, ← ih]
    exact congrArg Declarations.mk (map_embed_put project)

/-- **Each name has one place**, where it is declared first. -/
theorem firstSeen_declare (fs : List (Field F)) :
    FirstSeen ((empty.declare fs).fields.map Field.name) (fs.map Field.name) := by
  induction fs using List.reverseRecOn with
  | nil => exact .nil
  | append_singleton fs f ih =>
    have hput : (empty.declare (fs ++ [f])).fields = put f (empty.declare fs).fields := by
      rw [declare_snoc]
      rfl
    rw [hput, map_name_put, List.map_append, List.map_singleton]
    by_cases hf : f.name ∈ fs.map Field.name
    · rw [if_pos ((ih.mem_iff _).2 hf)]
      exact ih.snoc_of_mem hf
    · rw [if_neg (mt (ih.mem_iff _).1 hf)]
      exact ih.snoc_of_notMem hf

/-- **A name is found as it is declared last.** -/
theorem find?_declare (d : Declarations F) (before : List (Field F)) (f : Field F)
    (after : List (Field F)) (h : f.name ∉ after.map Field.name) :
    (d.declare (before ++ f :: after)).fields.find? (fun g => g.name == f.name) = some f := by
  induction after using List.reverseRecOn with
  | nil =>
    rw [declare_snoc]
    exact (find?_put f.name).trans (if_pos rfl)
  | append_singleton after g ih =>
    rw [List.map_append, List.mem_append, not_or, List.map_singleton, List.mem_singleton] at h
    rw [← List.cons_append, ← List.append_assoc, declare_snoc]
    exact ((find?_put f.name).trans (if_neg (Ne.symm h.2))).trans (ih h.1)

end Declarations

/-! ## Filter types that embed others -/

theorem exists_last {α : Type*} {p : α → Prop} {l : List α} (h : ∃ a ∈ l, p a) :
    ∃ before a after, l = before ++ a :: after ∧ p a ∧ ∀ b ∈ after, ¬ p b := by
  induction l with
  | nil =>
    obtain ⟨a, ha, -⟩ := h
    cases ha
  | cons a l ih =>
    by_cases hl : ∃ b ∈ l, p b
    · obtain ⟨before, b, after, rfl, hb, hafter⟩ := ih hl
      exact ⟨a :: before, b, after, rfl, hb, hafter⟩
    · obtain ⟨b, hb, hp⟩ := h
      rcases List.mem_cons.1 hb with rfl | hb
      · exact ⟨[], b, l, rfl, hp, fun c hc hp => hl ⟨c, hc, hp⟩⟩
      · exact absurd ⟨b, hb, hp⟩ hl

/-- A filter type, with the fields that it declares and the filter type that it embeds, if any. -/
inductive Lineage : Type → Type 1
  | base {F : Type} (declared : List (Field F)) : Lineage F
  | extend {F P : Type} (parent : Lineage P) (project : F → P) (declared : List (Field F)) :
      Lineage F

/-- A filter type of a lineage, and where its object is inside of that of the lineage. -/
structure Level (F : Type) where
  Object : Type
  project : F → Object
  declared : List (Field Object)

/-- The fields of a level, read through the object of the lineage. -/
def Level.fields {F : Type} (level : Level F) : List (Field F) :=
  level.declared.map (Field.embed level.project)

namespace Lineage

variable {F P : Type}

/-- The declarations of a filter type. -/
def declarations {F : Type} : Lineage F → Declarations F
  | base declared => Declarations.empty.declare declared
  | extend parent project declared => (parent.declarations.inherit project).declare declared

/-- The filter types of a lineage, the innermost first. -/
def levels {F : Type} : Lineage F → List (Level F)
  | base declared => [⟨F, id, declared⟩]
  | extend parent project declared =>
    parent.levels.map (fun level => ⟨level.Object, level.project ∘ project, level.declared⟩) ++
      [⟨F, id, declared⟩]

/-- All names in the order of their declarations, with repetitions. -/
def names (l : Lineage F) : List String :=
  l.levels.flatMap fun level => level.declared.map Field.name

/-- A field is declared at a level, and neither there nor at a later level is its name declared
again. -/
def DeclaresLast (l : Lineage F) (level : Level F) (f : Field level.Object) : Prop :=
  ∃ earlier later before after, l.levels = earlier ++ level :: later ∧
    level.declared = before ++ f :: after ∧ f.name ∉ after.map Field.name ∧
    ∀ outer ∈ later, f.name ∉ outer.declared.map Field.name

/-- **A lineage declares what one filter type would**, with the fields of all levels in a row. -/
theorem declarations_eq (l : Lineage F) :
    l.declarations = Declarations.empty.declare (l.levels.flatMap Level.fields) := by
  induction l with
  | base declared =>
    rw [levels, List.flatMap_singleton]
    exact congrArg _ (List.map_id _).symm
  | @extend F P parent project declared ih =>
    have hfields : (parent.levels.map fun level : Level P =>
        (⟨level.Object, level.project ∘ project, level.declared⟩ : Level F)).flatMap Level.fields =
          (parent.levels.flatMap Level.fields).map (Field.embed project) := by
      rw [List.flatMap_map, List.map_flatMap]
      refine List.flatMap_congr fun level _ => ?_
      rw [Level.fields, Level.fields, List.map_map]
      rfl
    have hown : Level.fields (⟨F, id, declared⟩ : Level F) = declared := List.map_id _
    rw [levels, List.flatMap_append, List.flatMap_singleton, hfields, hown, declarations, ih,
      Declarations.inherit_declare, Declarations.declare, Declarations.declare,
      Declarations.declare, List.foldl_append]
    rfl

theorem map_name_fields (level : Level F) :
    level.fields.map Field.name = level.declared.map Field.name := by
  rw [Level.fields, List.map_map]
  rfl

theorem names_eq (l : Lineage F) : (l.levels.flatMap Level.fields).map Field.name = l.names := by
  rw [List.map_flatMap, names]
  exact List.flatMap_congr fun level _ => map_name_fields level

/-- **Each name has one entry**, at the place of its first declaration. -/
theorem firstSeen_names (l : Lineage F) :
    FirstSeen (l.declarations.fields.map Field.name) l.names := by
  rw [← l.names_eq, l.declarations_eq]
  exact Declarations.firstSeen_declare _

/-- The last declaration of a name is the last of all fields in a row that has the name. -/
theorem DeclaresLast.exists_append {l : Lineage F} {level : Level F} {f : Field level.Object}
    (h : l.DeclaresLast level f) : ∃ before after,
      l.levels.flatMap Level.fields = before ++ f.embed level.project :: after ∧
        f.name ∉ after.map Field.name := by
  obtain ⟨earlier, later, before, after, hlevels, hdeclared, hafter, hlater⟩ := h
  refine ⟨earlier.flatMap Level.fields ++ before.map (Field.embed level.project),
    after.map (Field.embed level.project) ++ later.flatMap Level.fields, ?_, ?_⟩
  · rw [hlevels, List.flatMap_append, List.flatMap_cons, Level.fields, hdeclared, List.map_append,
      List.map_cons]
    simp only [List.append_assoc, List.cons_append]
  · rw [List.map_append, List.mem_append, List.map_map, List.map_flatMap, List.mem_flatMap]
    rintro (hmem | ⟨outer, houter, hmem⟩)
    · exact hafter hmem
    · rw [map_name_fields] at hmem
      exact hlater outer houter hmem

theorem exists_declaresLast {l : Lineage F} {name : String} (h : name ∈ l.names) :
    ∃ level f, l.DeclaresLast level f ∧ f.name = name := by
  obtain ⟨earlier, level, later, hlevels, hlevel, hlater⟩ := exists_last (List.mem_flatMap.1 h)
  obtain ⟨before, f, after, hdeclared, hname, hafter⟩ := exists_last (List.mem_map.1 hlevel)
  refine ⟨level, f, ⟨earlier, later, before, after, hlevels, hdeclared, ?_, ?_⟩, hname⟩
  · rintro hmem
    obtain ⟨g, hg, hgname⟩ := List.mem_map.1 hmem
    exact hafter g hg (hgname.trans hname)
  · rw [hname]
    exact hlater

end Lineage

/-! ## What is read -/

/-- Reading a field of an object comes to what an access has given. An error is turned into one
about the access, unless it is such an error already. -/
structure Field.Gives {F : Type} (g : Field F) (object : F)
    (given : Except QueryError (Option Input)) : Prop where
  ok : ∀ input, given = .ok input → g.read object = .ok input
  kept : ∀ e, given = .error e → e.code = .fieldAccess →
    g.read object = .error (e.withField g.name)
  turned : ∀ e, given = .error e → e.code ≠ .fieldAccess →
    g.read object = .error ((QueryError.fieldAccess g.name e.message).withSource e.display)

theorem Field.gives_access {F : Type} (g : Field F) (object : F) :
    g.Gives object (g.access object) where
  ok _ h := Field.read_eq_ok_iff.2 h
  kept e h hcode := by
    refine Field.read_eq_error_iff.2 ⟨e, h, ?_⟩
    rw [Field.accessError, if_pos hcode]
  turned e h hcode := by
    refine Field.read_eq_error_iff.2 ⟨e, h, ?_⟩
    rw [Field.accessError, if_neg hcode]
    rfl

/-- **The declarations of a filter type, whatever it embeds.** There is one entry for each name, in
the order in which the names appear first at any of the levels. The entry is as the name was declared
last: operator and path, and what is read is what the accessor of that level gives for its object,
with an error turned once. -/
theorem declarations_of_lineage {F : Type} (l : Lineage F) :
    FirstSeen (l.declarations.fields.map Field.name) l.names ∧
    l.declarations.size = l.names.toFinset.card ∧
    (∀ name ∈ l.names, ∃ level f, l.DeclaresLast level f ∧ f.name = name) ∧
    ∀ (level : Level F) (f : Field level.Object), l.DeclaresLast level f →
      l.declarations.get? f.name = some f.declaration ∧
      ∀ (i : Nat) (g : Field F), l.declarations.fields[i]? = some g → g.name = f.name →
        g.declaration = f.declaration ∧ ∀ object,
          g.access object = f.access (level.project object) ∧
          g.read object = f.read (level.project object) ∧
          g.Gives object (f.access (level.project object)) := by
  have hseen : FirstSeen (l.declarations.fields.map Field.name) l.names := l.firstSeen_names
  have hsize : l.declarations.size = l.names.toFinset.card := by
    rw [← hseen.length_eq, List.length_map]
    rfl
  refine ⟨hseen, hsize, fun _ => Lineage.exists_declaresLast, fun level f h => ?_⟩
  obtain ⟨before, after, hfields, hafter⟩ := h.exists_append
  have hfind : l.declarations.fields.find? (fun g => g.name == f.name) =
      some (f.embed level.project) := by
    rw [l.declarations_eq, hfields]
    exact Declarations.find?_declare .empty before (f.embed level.project) after hafter
  refine ⟨by rw [Declarations.get?, hfind]; rfl, fun i g hi hname => ?_⟩
  have hentry : g = f.embed level.project := by
    have hmem : f.embed level.project ∈ l.declarations.fields := List.mem_of_find?_eq_some hfind
    exact List.inj_on_of_nodup_map hseen.nodup (List.mem_of_getElem? hi) hmem hname
  subst hentry
  exact ⟨rfl, fun object => ⟨rfl, rfl, Field.gives_access _ object⟩⟩

/-- Three filter types. The innermost has a code that cannot be read, and a name that the next one
declares again, with a path. -/
def layered : Lineage ((Unit × String) × Bool) :=
  .extend
    (.extend
      (.base [
        ⟨⟨"code", .equal, ""⟩, fun _ => .error (.internal "locked")⟩,
        ⟨⟨"name", .like, ""⟩, fun _ => .ok none⟩])
      Prod.fst
      [⟨⟨"name", .startsWith, "owner.name"⟩, fun o => .ok (some (.scalar (.text o.2)))⟩])
    Prod.fst
    [⟨⟨"title", .equal, "name"⟩, fun o => .ok (some (.scalar (.bool o.2)))⟩]

/-- The name of the example keeps its place and gets its new operator and path. The error of its code
is turned once, through two levels. -/
theorem declarations_of_lineage_layered :
    FirstSeen ["code", "name", "title"] ["code", "name", "name", "title"] ∧
    layered.declarations.size = 3 ∧
    layered.declarations.get? "name" = some ⟨"name", .startsWith, "owner.name"⟩ ∧
    ∃ g, layered.declarations.fields[0]? = some g ∧ ∀ object, ∃ e, g.read object = .error e ∧
      e.code = .fieldAccess ∧
      e.message = "Failed to read field 'code': Internal error: locked" := by
  obtain ⟨hseen, hsize, -, hlast⟩ := declarations_of_lineage layered
  have hname := hlast ⟨Unit × String, Prod.fst, _⟩
    ⟨⟨"name", .startsWith, "owner.name"⟩, fun o => .ok (some (.scalar (.text o.2)))⟩
    ⟨[_], [_], [], [], rfl, rfl, by decide, by decide +kernel⟩
  have hcode := hlast ⟨Unit, Prod.fst ∘ Prod.fst, _⟩
    ⟨⟨"code", .equal, ""⟩, fun _ => .error (.internal "locked")⟩
    ⟨[], _, [], [_], rfl, rfl, by decide +kernel, by decide +kernel⟩
  refine ⟨hseen, hsize.trans (by decide +kernel), hname.1, _, rfl, fun object => ?_⟩
  obtain ⟨-, hread⟩ := hcode.2 0 _ rfl rfl
  exact ⟨_, (hread object).2.2.turned _ rfl (by decide), rfl, by decide +kernel⟩

end FilterQuery
