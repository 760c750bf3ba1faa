import FilterQuery.Compiler
import FilterQuery.Proofs.Inheritance

/-!
# Sort keys from page to page

A sort key that names a field with a relation path is sent along that path. The request for the page
after is made of the one that was understood, so its keys are sent along once more.

* `Declarations.list`, `Declarations.get?_eq_some_iff`: the declarations of a filter type, and
  which of them a name finds;
* `Declarations.columnFor`: the column that a name stands for; `Declarations.sortKey_eq`: nothing
  else of a sort key changes;
* **`sortPage_stable_iff`**: when keys that are sent along stay as they are.
-/

namespace FilterQuery

namespace Declarations

variable {F : Type} {d : Declarations F} {e : Declaration} {name : String}

/-- The declarations of a filter type, in order. -/
def list (d : Declarations F) : List Declaration := d.fields.map Field.declaration

theorem get?_eq_some_iff (h : (d.fields.map Field.name).Nodup) :
    d.get? name = some e ↔ e ∈ d.list ∧ e.field = name := by
  rw [get?, Option.map_eq_some_iff, list, List.mem_map]
  constructor
  · rintro ⟨f, hf, rfl⟩
    have hname := List.find?_some hf
    exact ⟨⟨f, List.mem_of_find?_eq_some hf, rfl⟩, beq_iff_eq.1 hname⟩
  · rintro ⟨⟨f, hf, rfl⟩, rfl⟩
    cases hfind : d.fields.find? fun g => g.name == f.declaration.field with
    | none => exact absurd (beq_iff_eq.2 rfl) (List.find?_eq_none.1 hfind f hf)
    | some g =>
      have hname := List.find?_some hfind
      obtain rfl := List.inj_on_of_nodup_map h (List.mem_of_find?_eq_some hfind) hf
        (beq_iff_eq.1 hname)
      exact ⟨g, rfl, rfl⟩

/-! ## What a name stands for -/

/-- The column that a name stands for in a sort key. -/
def columnFor (d : Declarations F) (name : String) : String :=
  match d.get? name with
  | some e => if e.hasPath then e.path else name
  | none => name

theorem columnFor_of_path (h : d.get? name = some e) (hp : e.path ≠ "") :
    d.columnFor name = e.path := by
  rw [columnFor, h]
  exact if_pos (Declaration.hasPath_iff.2 hp)

theorem columnFor_of_noPath (h : ∀ e, d.get? name = some e → e.path = "") :
    d.columnFor name = name := by
  unfold columnFor
  cases he : d.get? name with
  | none => rfl
  | some e =>
    have hp : e.hasPath = false := Declaration.hasPath_eq_false_iff.2 (h e he)
    dsimp only
    rw [hp]
    rfl

theorem sortKey_eq (d : Declarations F) (key : SortKey) :
    d.sortKey key = key.withColumn (d.columnFor key.column) := by
  unfold sortKey columnFor
  cases d.get? key.column with
  | none => rfl
  | some e =>
    dsimp only
    split <;> rfl

theorem sortPage_eq_self_iff {page : PageRequest} :
    d.sortPage page = page ↔ ∀ key ∈ page.sort, d.columnFor key.column = key.column := by
  have hkey : ∀ key, d.sortKey key = key ↔ d.columnFor key.column = key.column := by
    intro key
    rw [sortKey_eq]
    exact ⟨congrArg SortKey.column, fun h => by rw [h]; rfl⟩
  have hsort : d.sortPage page = page ↔ page.sort.map d.sortKey = page.sort :=
    ⟨congrArg PageRequest.sort, fun h => by rw [sortPage, h]; rfl⟩
  have hmap : page.sort.map d.sortKey = page.sort ↔ ∀ key ∈ page.sort, d.sortKey key = key := by
    conv_lhs => rhs; rw [← List.map_id page.sort]
    exact List.map_inj_left
  rw [hsort, hmap]
  exact forall₂_congr fun key _ => hkey key

theorem forall_sortPage_iff : (∀ page : PageRequest, ∀ key ∈ (d.sortPage page).sort,
    d.columnFor key.column = key.column) ↔
      ∀ name, d.columnFor (d.columnFor name) = d.columnFor name := by
  constructor
  · intro h name
    have hkey := h { sort := [⟨name, .ascending, none⟩] } (d.sortKey ⟨name, .ascending, none⟩)
      List.mem_cons_self
    rw [sortKey_eq] at hkey
    exact hkey
  · intro h page key hkey
    obtain ⟨given, -, rfl⟩ := List.mem_map.1 hkey
    rw [sortKey_eq]
    exact h given.column

/-- **Paths do not chain**: the path of a declaration is no name of a field that has another path. -/
theorem columnFor_columnFor_iff (h : (d.fields.map Field.name).Nodup) :
    (∀ name, d.columnFor (d.columnFor name) = d.columnFor name) ↔
      ∀ e ∈ d.list, e.path ≠ "" → ∀ g ∈ d.list, g.field = e.path →
        g.path = "" ∨ g.path = e.path := by
  constructor
  · intro hstable e he hp g hg hname
    have hcolumn := hstable e.field
    rw [columnFor_of_path ((get?_eq_some_iff h).2 ⟨he, rfl⟩) hp] at hcolumn
    refine or_iff_not_imp_left.2 fun hgp => ?_
    rw [← hcolumn, columnFor_of_path ((get?_eq_some_iff h).2 ⟨hg, hname⟩) hgp]
  · intro hpaths name
    by_cases hnone : ∀ e, d.get? name = some e → e.path = ""
    · rw [columnFor_of_noPath hnone, columnFor_of_noPath hnone]
    · obtain ⟨e, hnone⟩ := not_forall.1 hnone
      obtain ⟨he, hp⟩ := Classical.not_imp.1 hnone
      rw [columnFor_of_path he hp]
      by_cases hfield : ∀ g, d.get? e.path = some g → g.path = ""
      · exact columnFor_of_noPath hfield
      · obtain ⟨g, hfield⟩ := not_forall.1 hfield
        obtain ⟨hg, hgp⟩ := Classical.not_imp.1 hfield
        obtain ⟨hmem, hname⟩ := (get?_eq_some_iff h).1 hg
        rw [columnFor_of_path hg hgp]
        exact (hpaths e ((get?_eq_some_iff h).1 he).1 hp g hmem hname).resolve_left hgp

end Declarations

/-- **When sort keys stay from page to page.** What a filter type has made of a request it leaves
alone, and with it the request for the page after, if and only if the path of no field is the name of
a field with another path. Of any request it changes nothing but the columns that name a field with a
path, which become the path. -/
theorem sortPage_stable_iff {F : Type} (l : Lineage F) :
    ((∀ page, l.declarations.sortPage (l.declarations.sortPage page) =
        l.declarations.sortPage page) ↔
      ∀ d ∈ l.declarations.list, d.path ≠ "" → ∀ e ∈ l.declarations.list, e.field = d.path →
        e.path = "" ∨ e.path = d.path) ∧
    ((∀ page, l.declarations.sortPage (l.declarations.sortPage page).next =
        (l.declarations.sortPage page).next) ↔
      ∀ page, l.declarations.sortPage (l.declarations.sortPage page) =
        l.declarations.sortPage page) ∧
    ∀ page, (l.declarations.sortPage page).page = page.page ∧
      (l.declarations.sortPage page).size = page.size ∧
      (l.declarations.sortPage page).sort.length = page.sort.length ∧
      ∀ (i : Nat) (key : SortKey), page.sort[i]? = some key →
        ∃ key', (l.declarations.sortPage page).sort[i]? = some key' ∧
          key'.order = key.order ∧ key'.nulls = key.nulls ∧
          (∀ d ∈ l.declarations.list, d.field = key.column → d.path ≠ "" →
            key'.column = d.path) ∧
          ((∀ d ∈ l.declarations.list, d.field = key.column → d.path = "") →
            key'.column = key.column) := by
  have hnames : (l.declarations.fields.map Field.name).Nodup := l.firstSeen_names.nodup
  simp only [Declarations.sortPage_eq_self_iff]
  refine ⟨Declarations.forall_sortPage_iff.trans (Declarations.columnFor_columnFor_iff hnames),
    Iff.rfl, fun page => ⟨rfl, rfl, List.length_map _, fun i key hkey => ?_⟩⟩
  have hsorted : (l.declarations.sortPage page).sort[i]? = some (l.declarations.sortKey key) := by
    change (page.sort.map l.declarations.sortKey)[i]? = _
    rw [List.getElem?_map, hkey]
    rfl
  refine ⟨_, hsorted, ?_⟩
  rw [Declarations.sortKey_eq]
  refine ⟨rfl, rfl, fun d hd hname hp => ?_, fun hp => ?_⟩
  · exact Declarations.columnFor_of_path ((Declarations.get?_eq_some_iff hnames).2 ⟨hd, hname⟩) hp
  · refine Declarations.columnFor_of_noPath fun d hd => ?_
    obtain ⟨hmem, hname⟩ := (Declarations.get?_eq_some_iff hnames).1 hd
    exact hp d hmem hname

/-- The path of the title is the name of a field with another path, so a request in the order of the
title is one in the order of names at first, and of names of owners then. -/
theorem sortPage_stable_iff_layered :
    (¬ ∀ page, layered.declarations.sortPage (layered.declarations.sortPage page) =
      layered.declarations.sortPage page) ∧
    ∃ key, (layered.declarations.sortPage
        { size := 5, sort := [⟨"title", .descending, some .last⟩] }).sort[0]? = some key ∧
      key = ⟨"name", .descending, some .last⟩ ∧
      layered.declarations.sortKey key = ⟨"owner.name", .descending, some .last⟩ := by
  obtain ⟨hstable, -, hpage⟩ := sortPage_stable_iff layered
  constructor
  · intro h
    have hpaths := hstable.1 h ⟨"title", .equal, "name"⟩ (by decide +kernel) (by decide)
      ⟨"name", .startsWith, "owner.name"⟩ (by decide +kernel) rfl
    exact absurd hpaths (by decide)
  · obtain ⟨-, -, -, hkeys⟩ :=
      hpage { size := 5, sort := [⟨"title", .descending, some .last⟩] }
    obtain ⟨⟨column, order, nulls⟩, hkey, horder, hnulls, hcolumn, -⟩ := hkeys 0 _ rfl
    obtain rfl : column = "name" :=
      hcolumn ⟨"title", .equal, "name"⟩ (by decide +kernel) rfl (by decide)
    obtain rfl : order = .descending := horder
    obtain rfl : nulls = some .last := hnulls
    exact ⟨_, hkey, rfl, by decide +kernel⟩

end FilterQuery
