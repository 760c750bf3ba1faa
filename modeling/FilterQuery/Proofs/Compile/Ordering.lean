import FilterQuery.Proofs.Compile.Blocks
import FilterQuery.Proofs.Compile.Reuse
import FilterQuery.Proofs.Rows.Sorting
import FilterQuery.Proofs.Sql.Growth

/-!
# What a page is ordered by

A sort key is looked up among joins that it may have to add. It leads to a column of its relations,
to the same one whenever it is looked up again.

* `Criteria.Denotes`: the relations and the attribute that a column stands for, with
  **`Criteria.Denotes.unique`**;
* `Criteria.leads_reuseChain`, `Criteria.denotes_sortOperand`: where a sort key leads;
* `Criteria.AddsFirst`: left joins, each the first of its relation;
  **`Criteria.addsFirst_sortOperands`**: sort keys add nothing else;
* **`Criteria.sortOperand_again`**: a sort key that is looked up again;
* `SortsBy`: what sort keys come to, with **`Criteria.sortsBy_sortOperands`**;
* `Declarations.sortKey_targets`, **`Built.denotes_operand`**: what a sort key that names a field is
  for, and what the predicate of the field is on;
* **`finish_sortsBy`**: the order of a page.
-/

namespace FilterQuery

open Sql

namespace Sql

/-- The column under the functions of an operand. -/
def Operand.base : Operand → Operand
  | column qualifier name => column qualifier name
  | lower a => a.base
  | instant a => a.base
  | size a => a.base

theorem leads_tip {M : Join → Prop} {way : List String} {parent : Source} {js : List Join}
    (hw : Leads M way parent.tableAlias) (hl : Linked parent js) (hM : ∀ j ∈ js, M j) :
    Leads M (way ++ js.map Join.name) (tip parent js).tableAlias := by
  induction js generalizing way parent with
  | nil => rwa [List.map_nil, List.append_nil]
  | cons j js ih =>
    obtain ⟨hparent, hl⟩ := hl
    obtain ⟨hj, hM⟩ := List.forall_mem_cons.1 hM
    rw [← hparent] at hw
    rw [List.map_cons, List.append_cons]
    exact ih (.join hw hj) hl hM

namespace Criteria

variable {c c' d e : Criteria} {parent source : Source} {name leaf : String}
  {names way relations : List String} {a : Operand}

/-! ## What a column stands for -/

/-- A column of the last of joins with these names, one after the other, from the root. -/
def Denotes (c : Criteria) (a : Operand) (relations : List String) (leaf : String) : Prop :=
  ∃ b, a = .column b leaf ∧ Leads (· ∈ c.joins) relations b

namespace Denotes

/-- **A column stands for one attribute.** -/
theorem unique {relations' : List String} {leaf' : String} (hn : Numbered c.joins)
    (h : c.Denotes a relations leaf) (h' : c.Denotes a relations' leaf') :
    relations = relations' ∧ leaf = leaf' := by
  obtain ⟨b, rfl, hb⟩ := h
  obtain ⟨b', heq, hb'⟩ := h'
  obtain ⟨rfl, rfl⟩ := Operand.column.inj heq
  exact ⟨(hb.inter hb' hn (fun _ hj => hj) fun _ hj => hj).1, rfl⟩

theorem mono (h : c.Denotes a relations leaf) (hp : c.joins <+: c'.joins) :
    c'.Denotes a relations leaf := by
  obtain ⟨b, rfl, hb⟩ := h
  exact ⟨b, rfl, hb.mono fun _ hj => hp.subset hj⟩

end Denotes

/-! ## Where sort keys lead -/

theorem leads_reuseJoin (hw : Leads (· ∈ c.joins) way parent.tableAlias)
    (h : reuseJoin parent name c = .ok source c') :
    Leads (· ∈ c'.joins) (way ++ [name]) source.tableAlias := by
  rcases reuseJoin_eq_ok_iff.1 h with ⟨j, hj, rfl, rfl⟩ | ⟨-, -, rfl, rfl⟩
  · obtain ⟨hmem, hparent, rfl⟩ := child_eq_some hj
    rw [← hparent] at hw
    exact .join hw hmem
  · have hw' : Leads (· ∈ (c.withJoins [c.nextJoin parent name .left]).joins) way
        (c.nextJoin parent name .left).parentAlias := hw.mono fun _ => List.mem_append_left _
    exact .join hw' (List.mem_append_right _ (List.mem_singleton_self _))

theorem leads_reuseChain (hw : Leads (· ∈ c.joins) way parent.tableAlias)
    (h : reuseChain names parent c = .ok source c') :
    Leads (· ∈ c'.joins) (way ++ names) source.tableAlias := by
  induction names generalizing c parent way with
  | nil =>
    obtain ⟨rfl, rfl⟩ := pure_eq_ok_iff.1 h
    rwa [List.append_nil]
  | cons name names ih =>
    obtain ⟨next, d, hj, hr⟩ := reuseChain_cons_eq_ok_iff.1 h
    rw [List.append_cons]
    exact ih (leads_reuseJoin hw hj) hr

theorem denotes_sortOperand {key : SortKey} (h : sortOperand key.column c = .ok a c') :
    c'.Denotes a key.relations key.leaf := by
  obtain ⟨p, source, hp, hr, rfl⟩ := sortOperand_eq_ok_iff.1 h
  obtain ⟨rfl, -⟩ := readSortKey_eq_ok_iff.1 hp
  exact ⟨_, rfl, leads_reuseChain .root hr⟩

/-! ## What sort keys add -/

/-- Only left joins are added, and each is the first one of its relation. -/
def AddsFirst (c c' : Criteria) : Prop :=
  ∃ added, c' = c.withJoins added ∧ ∀ j ∈ added, j.joinType = .left ∧ First c'.joins j

namespace AddsFirst

theorem refl (c : Criteria) : AddsFirst c c :=
  ⟨[], (withJoins_nil c).symm, fun _ hj => absurd hj List.not_mem_nil⟩

theorem trans (h : AddsFirst c d) (h' : AddsFirst d e) : AddsFirst c e := by
  obtain ⟨js, rfl, hjs⟩ := h
  obtain ⟨ks, rfl, hks⟩ := h'
  refine ⟨js ++ ks, withJoins_withJoins _ _ _, fun j hj => ?_⟩
  rcases List.mem_append.1 hj with hj | hj
  · exact ⟨(hjs j hj).1, (hjs j hj).2.append⟩
  · exact hks j hj

theorem prefix_joins (h : AddsFirst c c') : c.joins <+: c'.joins := by
  obtain ⟨added, rfl, -⟩ := h
  exact List.prefix_append _ _

end AddsFirst

theorem addsFirst_reuseJoin (h : reuseJoin parent name c = .ok source c') : AddsFirst c c' := by
  rcases reuseJoin_eq_ok_iff.1 h with ⟨-, -, -, rfl⟩ | ⟨hnone, -, -, rfl⟩
  · exact .refl _
  · refine ⟨_, rfl, fun j hj => ?_⟩
    obtain rfl := List.mem_singleton.1 hj
    exact ⟨rfl, child_snoc_self hnone⟩

theorem addsFirst_reuseChain (h : reuseChain names parent c = .ok source c') : AddsFirst c c' := by
  induction names generalizing c parent with
  | nil =>
    obtain ⟨-, rfl⟩ := pure_eq_ok_iff.1 h
    exact .refl _
  | cons name names ih =>
    obtain ⟨next, d, hj, hr⟩ := reuseChain_cons_eq_ok_iff.1 h
    exact (addsFirst_reuseJoin hj).trans (ih hr)

theorem addsFirst_sortOperand {column : String} (h : sortOperand column c = .ok a c') :
    AddsFirst c c' := by
  obtain ⟨p, source, -, hr, -⟩ := sortOperand_eq_ok_iff.1 h
  exact addsFirst_reuseChain hr

/-- **Sort keys add first joins only.** -/
theorem addsFirst_sortOperands {keys : List SortKey} {order : List (SortKey × Operand)}
    (h : sortOperands keys c = .ok order c') : AddsFirst c c' := by
  induction keys generalizing c order with
  | nil =>
    obtain ⟨-, rfl⟩ := pure_eq_ok_iff.1 h
    exact .refl _
  | cons key keys ih =>
    obtain ⟨a, d, order', ha, hr, -⟩ := sortOperands_cons_eq_ok_iff.1 h
    exact (addsFirst_sortOperand ha).trans (ih hr)

theorem eq_of_first_added {js added : List Join} {j k : Join}
    (hn : ((js ++ added).map Join.tableAlias).Nodup) (hfirst : ∀ i ∈ added, First (js ++ added) i)
    (hj : j ∈ added) (hk : k ∈ js ++ added) (hparent : k.parentAlias = j.parentAlias)
    (hname : k.name = j.name) : k = j := by
  have hjfirst : child (js ++ added) j.parentAlias j.name = some j := hfirst j hj
  rcases List.mem_append.1 hk with hold | hnew
  · -- The joins before have a first one of the relation, and that was not added.
    cases hc : child js j.parentAlias j.name with
    | none => exact absurd hname (child_eq_none_iff.1 hc k hold hparent)
    | some i =>
      have hi : some i = some j := (child_append hc).symm.trans hjfirst
      obtain rfl := Option.some.inj hi
      rw [List.map_append, List.nodup_append] at hn
      exact absurd rfl
        (hn.2.2 _ (List.mem_map_of_mem (child_eq_some hc).1) _ (List.mem_map_of_mem hj))
  · have hkfirst : child (js ++ added) k.parentAlias k.name = some k := hfirst k hnew
    rw [hparent, hname, hjfirst] at hkfirst
    exact (Option.some.inj hkfirst).symm

/-! ## Sort keys that are looked up again -/

theorem reuseJoin_again (h : reuseJoin parent name c = .ok source d) (hp : d.joins <+: e.joins) :
    reuseJoin parent name e = .ok source e := by
  obtain ⟨js, hjs⟩ := hp
  refine reuseJoin_eq_ok_iff.2 (.inl ?_)
  rw [← hjs]
  rcases reuseJoin_eq_ok_iff.1 h with ⟨j, hj, rfl, rfl⟩ | ⟨hnone, -, rfl, rfl⟩
  · exact ⟨j, child_append hj, rfl, rfl⟩
  · exact ⟨_, child_append (child_snoc_self hnone), rfl, rfl⟩

theorem reuseChain_again (h : reuseChain names parent c = .ok source d)
    (hp : d.joins <+: e.joins) : reuseChain names parent e = .ok source e := by
  induction names generalizing c parent with
  | nil =>
    obtain ⟨rfl, rfl⟩ := pure_eq_ok_iff.1 h
    rfl
  | cons name names ih =>
    obtain ⟨next, c₁, hj, hr⟩ := reuseChain_cons_eq_ok_iff.1 h
    have hp₁ : c₁.joins <+: e.joins := (addsFirst_reuseChain hr).prefix_joins.trans hp
    exact reuseChain_cons_eq_ok_iff.2 ⟨next, e, reuseJoin_again hj hp₁, ih hr⟩

/-- **A sort key that is looked up again takes the same column**, and adds nothing. -/
theorem sortOperand_again {key : SortKey} (h : sortOperand key.column c = .ok a d)
    (hp : d.joins <+: e.joins) (hdepth : key.relations.length ≤ e.maxDepth) :
    sortOperand key.column e = .ok a e := by
  obtain ⟨p, source, hread, hr, rfl⟩ := sortOperand_eq_ok_iff.1 h
  obtain ⟨rfl, hne, -⟩ := readSortKey_eq_ok_iff.1 hread
  exact sortOperand_eq_ok_iff.2
    ⟨_, source, readSortKey_eq_ok_iff.2 ⟨rfl, hne, hdepth⟩, reuseChain_again hr hp, rfl⟩

end Criteria

end Sql

/-! ## The order of sort keys -/

/-- What sort keys come to:

* each key is a column of its last segment, on a table to which its other segments lead from the
  root, and no other segments do;
* the joins that are added are left joins behind those that were there, and none of them has the
  relation and the parent of another join;
* a key that is looked up again later is the same column, and adds nothing; it is within the depth,
  unless that was changed. -/
structure SortsBy (c c' : Criteria) (keys : List SortKey) (order : List (SortKey × Operand)) :
    Prop where
  keys_eq : order.map Prod.fst = keys
  denotes : ∀ entry ∈ order,
    SegmentsOf entry.1.column (entry.1.relations ++ [entry.1.leaf]) ∧
      c'.Denotes entry.2 entry.1.relations entry.1.leaf
  unique : ∀ a relations leaf relations' leaf', c'.Denotes a relations leaf →
    c'.Denotes a relations' leaf' → relations = relations' ∧ leaf = leaf'
  appended : ∃ added, c' = c.withJoins added ∧ ∀ j ∈ added, j.joinType = .left ∧
    ∀ k ∈ c'.joins, k ≠ j → ¬ (k.parentAlias = j.parentAlias ∧ k.name = j.name)
  nodup_alias : (c'.joins.map Join.tableAlias).Nodup
  within_depth : ∀ key ∈ keys, key.relations.length ≤ c.maxDepth
  again : ∀ before key after, keys = before ++ key :: after →
    ∃ order₁ a order₂ d, order = order₁ ++ (key, a) :: order₂ ∧
      Criteria.sortOperands (before ++ [key]) c = .ok (order₁ ++ [(key, a)]) d ∧
      Criteria.Steps d c' ∧ ∀ e, Criteria.Steps d e → key.relations.length ≤ e.maxDepth →
        Criteria.sortOperand key.column e = .ok a e

namespace Sql.Criteria

variable {c c' : Criteria} {keys : List SortKey} {order : List (SortKey × Operand)}

theorem map_fst_sortOperands (h : sortOperands keys c = .ok order c') :
    order.map Prod.fst = keys := by
  induction keys generalizing c order with
  | nil =>
    obtain ⟨rfl, -⟩ := pure_eq_ok_iff.1 h
    rfl
  | cons key keys ih =>
    obtain ⟨a, d, order', -, hr, rfl⟩ := sortOperands_cons_eq_ok_iff.1 h
    rw [List.map_cons, ih hr]

theorem denotes_sortOperands (h : sortOperands keys c = .ok order c') :
    ∀ entry ∈ order, c'.Denotes entry.2 entry.1.relations entry.1.leaf := by
  induction keys generalizing c order with
  | nil =>
    obtain ⟨rfl, -⟩ := pure_eq_ok_iff.1 h
    exact fun _ hentry => absurd hentry List.not_mem_nil
  | cons key keys ih =>
    obtain ⟨a, d, order', ha, hr, rfl⟩ := sortOperands_cons_eq_ok_iff.1 h
    have hp : d.joins <+: c'.joins := (addsFirst_sortOperands hr).prefix_joins
    exact List.forall_mem_cons.2 ⟨(denotes_sortOperand ha).mono hp, ih hr⟩

theorem sortOperands_again {before after : List SortKey} {key : SortKey}
    (h : sortOperands (before ++ key :: after) c = .ok order c') :
    ∃ order₁ a order₂ d, order = order₁ ++ (key, a) :: order₂ ∧
      sortOperands (before ++ [key]) c = .ok (order₁ ++ [(key, a)]) d ∧ Steps d c' ∧
      ∀ e, Steps d e → key.relations.length ≤ e.maxDepth → sortOperand key.column e = .ok a e := by
  obtain ⟨order₁, c₁, _, hbefore, hrest, rfl⟩ := sortOperands_append_eq_ok_iff.1 h
  obtain ⟨a, d, order₂, ha, hafter, rfl⟩ := sortOperands_cons_eq_ok_iff.1 hrest
  have hkey : sortOperands [key] c₁ = .ok [(key, a)] d :=
    sortOperands_cons_eq_ok_iff.2 ⟨a, d, [], ha, rfl, rfl⟩
  exact ⟨order₁, a, order₂, d, rfl,
    sortOperands_append_eq_ok_iff.2 ⟨order₁, c₁, _, hbefore, hkey, rfl⟩,
    (grown_sortOperands hafter).1.steps,
    fun e hsteps hdepth => sortOperand_again ha hsteps.prefix_joins hdepth⟩

/-- **What sort keys come to.** -/
theorem sortsBy_sortOperands (hn : Numbered c.joins) (h : sortOperands keys c = .ok order c') :
    SortsBy c c' keys order := by
  have hn' : Numbered c'.joins := (grown_sortOperands h).1.numbered hn
  refine ⟨map_fst_sortOperands h, fun entry hentry => ?_, fun _ _ _ _ _ ha => ha.unique hn', ?_,
    hn'.nodup_alias, fun key hkey => ?_, ?_⟩
  · exact ⟨segmentsOf_iff.2 rfl, denotes_sortOperands h entry hentry⟩
  · obtain ⟨added, rfl, hadded⟩ := addsFirst_sortOperands h
    refine ⟨added, rfl, fun j hj => ⟨(hadded j hj).1, ?_⟩⟩
    rintro k hk hne ⟨hparent, hname⟩
    exact hne (eq_of_first_added hn'.nodup_alias (fun i hi => (hadded i hi).2) hj hk hparent hname)
  · obtain ⟨_, hread⟩ := exists_sortOperands_iff.1 ⟨order, c', h⟩ key hkey
    obtain ⟨rfl, -, hdepth⟩ := readSortKey_eq_ok_iff.1 hread
    exact hdepth
  · rintro before key after rfl
    exact sortOperands_again h

end Sql.Criteria

/-! ## Sort keys that name a field -/

theorem Declarations.column_sortKey {F : Type} {D : Declarations F} {key : SortKey}
    {d : Declaration} (h : D.get? key.column = some d) : (D.sortKey key).column = d.target := by
  obtain ⟨f, hf, rfl⟩ := Option.map_eq_some_iff.1 h
  have hfound := List.find?_some hf
  have hname : f.declaration.field = key.column := beq_iff_eq.1 hfound
  unfold sortKey Declaration.target
  rw [h]
  dsimp only
  split
  · rfl
  · exact hname.symm

/-- What a field targets is made up of its relations and its attribute, unless the field has no path
and a dot in its name. -/
theorem Declaration.segmentsOf_target {d : Declaration}
    (h : d.path ≠ "" ∨ '.' ∉ d.field.toList) : SegmentsOf d.target (d.relations ++ [d.leaf]) := by
  refine ⟨List.append_ne_nil_of_right_ne_nil _ (List.cons_ne_nil _ _), d.target_eq.symm, ?_⟩
  have htargets := d.targets_split
  unfold Targets at htargets
  by_cases hp : d.path = ""
  · rw [if_pos hp] at htargets
    obtain ⟨hrelations, hleaf⟩ := htargets
    intro s hs
    rw [hrelations, hleaf] at hs
    rw [List.mem_singleton.1 hs]
    exact h.resolve_left fun hne => hne hp
  · rw [if_neg hp] at htargets
    exact htargets.2

theorem Declarations.sortKey_targets {F : Type} {D : Declarations F} {key : SortKey}
    {d : Declaration} (h : D.get? key.column = some d)
    (hdot : d.path ≠ "" ∨ '.' ∉ d.field.toList) :
    (D.sortKey key).relations = d.relations ∧ (D.sortKey key).leaf = d.leaf := by
  have hsplit : d.relations ++ [d.leaf] = (DottedPath.split (D.sortKey key).column).segments := by
    rw [column_sortKey h]
    exact segmentsOf_iff.1 (Declaration.segmentsOf_target hdot)
  obtain ⟨hrelations, hleaf⟩ := List.append_inj' hsplit rfl
  exact ⟨hrelations.symm, (List.singleton_inj.1 hleaf).symm⟩

theorem View.base_operand (view : View) (a : Operand) : (view.operand a).base = a.base := by
  cases view <;> rfl

theorem Operation.base_look (op : Operation) (a : Operand) : (op.look a).base = a.base := by
  unfold Operation.look
  split <;> rfl

/-- **The predicate of a field is on the attribute that the field targets.** -/
theorem Built.denotes_operand {c : Compiler} {s : Criteria} {fields : List (Declaration × Input)}
    {blocks : List (List Join)} {ps : List Constraint} (h : Built c s fields blocks ps) {i : Nat}
    {d : Declaration} {input : Input} {p : Constraint} (hf : fields[i]? = some (d, input))
    (hp : ps[i]? = some p) {a : Operand} (ha : a ∈ p.operands) :
    (s.withJoins blocks.flatten).Denotes a.base d.relations d.leaf := by
  obtain ⟨block, hblock⟩ : ∃ block, blocks[i]? = some block := by
    have hlt : i < blocks.length := by
      rw [h.length_eq.1]
      exact (List.getElem?_eq_some_iff.1 hf).1
    exact ⟨_, List.getElem?_eq_getElem hlt⟩
  obtain ⟨-, -, clause, -, rfl⟩ :=
    Operation.build_backend_eq_ok_iff.1 (h.getElem?_build hf hblock hp)
  rw [Clause.eq_of_mem_operands ha, View.base_operand, Operation.base_look]
  have hmem : ∀ j ∈ block, j ∈ (s.withJoins blocks.flatten).joins := fun j hj =>
    List.mem_append_right _ (List.mem_flatten.2 ⟨block, List.mem_of_getElem? hblock, hj⟩)
  have hchain := h.getElem?_block hf hblock
  have hnames : block.map Join.name = d.relations := by
    rw [hchain]
    exact Criteria.map_name_chain _ _ _ _
  have hlinked : Linked .root block := by
    rw [hchain]
    exact Criteria.linked_chain _ _ _ _
  rw [← hnames]
  exact ⟨_, rfl, leads_tip .root hlinked hmem⟩

/-- A column stands for the attribute that a field targets, and so does whatever the predicates of
the field look at. -/
def SortsField (c : Criteria) (fields : List (Declaration × Input)) (ps : List Constraint)
    (d : Declaration) (a : Operand) : Prop :=
  ∃ relations leaf, d.Targets relations leaf ∧ c.Denotes a relations leaf ∧
    ∀ (i : Nat) (input : Input) (p : Constraint), fields[i]? = some (d, input) → ps[i]? = some p →
      ∀ b ∈ p.operands, c.Denotes b.base relations leaf

/-- **What a page is ordered by.** On reachable criteria the sort keys of a page come to columns as
`SortsBy` says, and the page statement lists these behind `ORDER BY`. If the page was requested of a
filter type, then each key of the request that names a field comes to the attribute that the
predicate of the field is on, if the field has a path or its name has no dot. -/
theorem finish_sortsBy {c : Criteria} (hc : c.Reachable) {k : Constraint} {page : PageRequest}
    {q : SelectQuery} (h : c.finish k page = .ok q) :
    ∃ order c', Criteria.sortOperands page.sort c = .ok order c' ∧
      q = c'.select c.joins k order page ∧
      q.Selects c.dialect (c'.selection k) (c.selection k) order page ∧
      SortsBy c c' page.sort order ∧
      ∀ (F : Type) (compiler : Compiler) (t : FilterType F) (object : F) (request : PageRequest)
        (s s₁ : Criteria) (r : Compiled Constraint),
        compiler.compile Criteria.backend t object request s = .ok r s₁ → Criteria.Steps s₁ c →
        r.page = page → ∃ fields ps,
          fields = t.declarations.fields.filterMap (Field.held object) ∧
          r.constraint = .and ps ∧ ps.length = fields.length ∧
          ∀ (i : Nat) (key : SortKey) (d : Declaration), request.sort[i]? = some key →
            t.declarations.get? key.column = some d → (d.path ≠ "" ∨ '.' ∉ d.field.toList) →
            ∃ a, order[i]? = some (t.declarations.sortKey key, a) ∧
              SortsField c' fields ps d a := by
  obtain ⟨order, c', hsort, rfl⟩ := Criteria.finish_eq_ok_iff.1 h
  have hsorts : SortsBy c c' page.sort order := Criteria.sortsBy_sortOperands hc.numbered hsort
  refine ⟨order, c', hsort, rfl, Criteria.selects_of_sortOperands hsort, hsorts,
    fun F compiler t object request s s₁ r hcompile hsteps hpage => ?_⟩
  obtain ⟨hk, hrequest⟩ := compile_eq_ok_iff.1 hcompile
  obtain ⟨fields, blocks, ps, hactive, hb, hand, rfl⟩ := constraint_eq_ok_iff.1 hk
  obtain ⟨-, hfields⟩ := Declarations.active_eq_ok_iff.1 hactive
  have hprefix : (s.withJoins blocks.flatten).joins <+: c'.joins :=
    hsteps.prefix_joins.trans (Criteria.addsFirst_sortOperands hsort).prefix_joins
  refine ⟨fields, ps, hfields, hand, hb.length_eq.2, fun i key d hkey hd hdot => ?_⟩
  have hkeys : (order.map Prod.fst)[i]? = some (t.declarations.sortKey key) := by
    rw [hsorts.keys_eq, ← hpage, hrequest]
    change (request.sort.map t.declarations.sortKey)[i]? = _
    rw [List.getElem?_map, hkey]
    rfl
  rw [List.getElem?_map, Option.map_eq_some_iff] at hkeys
  obtain ⟨⟨_, a⟩, horder, rfl⟩ := hkeys
  have hdenotes := (hsorts.denotes _ (List.mem_of_getElem? horder)).2
  obtain ⟨hrelations, hleaf⟩ := Declarations.sortKey_targets hd hdot
  rw [hrelations, hleaf] at hdenotes
  exact ⟨a, horder, d.relations, d.leaf, d.targets_split, hdenotes, fun n input p hf hp b hmem =>
    (hb.denotes_operand hf hp hmem).mono hprefix⟩

/-- A page in the order of cities, of names of owners, and of names. Owners are joined once more for
it, since the first account has none, and both keys of owners share that join. -/
def byCity : PageRequest where
  size := 5
  sort := [⟨"city", .descending, none⟩, ⟨"account.owner.name", .ascending, none⟩,
    ⟨"name", .ascending, none⟩]

/-- The city that the example orders by is a column of another join than the one that its constraint
compares, and stands for the same attribute. -/
theorem finish_sortsBy_sharing : ∃ r c q order c',
    (Compiler.atEpoch .inner).compile Criteria.backend sharing () byCity people = .ok r c ∧
    c.finish r.constraint r.page = .ok q ∧
    q.sql = "SELECT t0.* FROM people t0 INNER JOIN account j1 ON t0.account_id = j1.id " ++
      "INNER JOIN account j2 ON t0.account_id = j2.id " ++
      "INNER JOIN owner j3 ON j2.owner_id = j3.id " ++
      "LEFT JOIN owner j4 ON j1.owner_id = j4.id " ++
      "WHERE (LOWER(t0.name) LIKE $1 AND j1.status = $2 AND j3.city = $3) " ++
      "ORDER BY j4.city DESC, j4.name ASC, t0.name ASC LIMIT 5" ∧
    SortsBy c c' r.page.sort order ∧
    order.map Prod.snd = [.column "j4" "city", .column "j4" "name", .column "t0" "name"] ∧
    c'.joins.map (fun j => (j.joinType, j.parentAlias, j.name, j.tableAlias)) =
      [(.inner, "t0", "account", "j1"), (.inner, "t0", "account", "j2"),
        (.inner, "j2", "owner", "j3"), (.left, "j1", "owner", "j4")] ∧
    ∃ fields ps, fields = sharing.declarations.fields.filterMap (Field.held ()) ∧
      r.constraint = .and ps ∧
      SortsField c' fields ps ⟨"city", .equal, "account.owner.city"⟩ (.column "j4" "city") := by
  obtain ⟨r, c, hcompile, hcheck⟩ := exists_of_passes
    ((Compiler.atEpoch .inner).compile Criteria.backend sharing () byCity people)
    (fun r c => passes (Criteria.sortOperands r.page.sort c) fun order d =>
      order.map Prod.snd == [.column "j4" "city", .column "j4" "name", .column "t0" "name"] &&
        d.joins.map (fun j => (j.joinType, j.parentAlias, j.name, j.tableAlias)) ==
          [(.inner, "t0", "account", "j1"), (.inner, "t0", "account", "j2"),
            (.inner, "j2", "owner", "j3"), (.left, "j1", "owner", "j4")] &&
        "SELECT t0.*" ++ (d.selection r.constraint).sql c.dialect ++ " ORDER BY " ++
          Text.joined ", " (order.map fun entry => entry.1.clause (entry.2.sql c.dialect)) ++ " " ++
            r.page.clause ==
          "SELECT t0.* FROM people t0 INNER JOIN account j1 ON t0.account_id = j1.id " ++
            "INNER JOIN account j2 ON t0.account_id = j2.id " ++
            "INNER JOIN owner j3 ON j2.owner_id = j3.id " ++
            "LEFT JOIN owner j4 ON j1.owner_id = j4.id " ++
            "WHERE (LOWER(t0.name) LIKE $1 AND j1.status = $2 AND j3.city = $3) " ++
            "ORDER BY j4.city DESC, j4.name ASC, t0.name ASC LIMIT 5") (by decide +kernel)
  obtain ⟨order, c', hsort, hcheck⟩ := exists_of_passes _ _ hcheck
  rw [Bool.and_eq_true, Bool.and_eq_true, beq_iff_eq, beq_iff_eq, beq_iff_eq] at hcheck
  obtain ⟨⟨hcolumns, hjoins⟩, htext⟩ := hcheck
  have hc : c.Reachable := by
    obtain ⟨hk, -⟩ := compile_eq_ok_iff.1 hcompile
    obtain ⟨_, _, _, -, hb, -, rfl⟩ := constraint_eq_ok_iff.1 hk
    exact ⟨people, rfl, hb.steps⟩
  have hq : c.finish r.constraint r.page = .ok _ :=
    Criteria.finish_eq_ok_iff.2 ⟨order, c', hsort, rfl⟩
  obtain ⟨_, _, hsort', -, hselects, hsorts, hrequest⟩ := finish_sortsBy hc hq
  rw [hsort, EStateM.Result.ok.injEq] at hsort'
  obtain ⟨rfl, rfl⟩ := hsort'
  obtain ⟨fields, ps, hfields, hand, -, hkeys⟩ :=
    hrequest Unit _ sharing () byCity people c r hcompile .refl rfl
  obtain ⟨a, horder, hcity⟩ := hkeys 0 ⟨"city", .descending, none⟩
    ⟨"city", .equal, "account.owner.city"⟩ rfl (by decide +kernel) (.inl (by decide))
  have ha : a = .column "j4" "city" := by
    have hfirst : (order.map Prod.snd)[0]? = some a := by
      rw [List.getElem?_map, horder]
      rfl
    rw [hcolumns] at hfirst
    exact (Option.some.inj hfirst).symm
  rw [ha] at hcity
  have hne : order ≠ [] := List.ne_nil_of_mem (List.mem_of_getElem? horder)
  exact ⟨r, c, _, order, c', hcompile, hq, (hselects.sql_ordered hne).trans htext, hsorts,
    hcolumns, hjoins, fields, ps, hfields, hand, hcity⟩

end FilterQuery
