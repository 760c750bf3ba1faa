import FilterQuery.Proofs.Compile.Renumbering

/-!
# Sizes of collections

The items of an attribute are counted only if its path is registered as that of a collection. The
path is that of the column, put together again from the joins that lead to it.

* `Criteria.attributePath_of_steps`: a column keeps its path, whatever is joined later;
  **`Criteria.attributePath_of_resolve`**: it is the path that was resolved;
* `Criteria.Joining`, **`Criteria.Reachable.joining`**: what sort keys and fields join;
* `Operation.build_counting`: the predicate of an operator that counts items;
* `SizedBy`: the text on which the size that a field asks for depends;
  **`Compiler.sizedBy_target`**: it is what the field targets;
* **`size_of_declared_path`**: both of them, on reachable criteria.
-/

namespace FilterQuery

open Sql

namespace Sql.Criteria

variable {c c' : Criteria} {a : Operand} {path : String}

/-! ## Paths of columns -/

theorem attributePath_of_steps (h : Steps c c') (ha : c.attributePath a = some path) :
    c'.attributePath a = some path := by
  obtain ⟨js, hjs⟩ := h.prefix_joins
  cases a with
  | column qualifier name =>
    simp only [attributePath] at ha ⊢
    by_cases hroot : qualifier = rootAlias
    · rwa [if_pos hroot] at ha ⊢
    · rw [if_neg hroot, Option.map_eq_some_iff] at ha
      obtain ⟨j, hj, rfl⟩ := ha
      rw [if_neg hroot, ← hjs, List.find?_append, hj]
      rfl
  | _ => cases ha

/-- **The path of a resolved column is the path that was resolved.** -/
theorem attributePath_of_resolve {type : JoinType} {limit : Nat} (hn : Numbered c.joins)
    (h : RelationPath.resolve backend type limit path c = .ok a c') :
    c'.attributePath a = some path := by
  obtain ⟨⟨-, hink, -⟩, rfl, rfl⟩ := resolve_eq_ok_iff.1 h
  have hnames : ∀ name ∈ (DottedPath.split path).relations, name ≠ "" := fun name hm =>
    RelationPath.ne_empty_of_allBlank_eq_false (hink name (List.mem_append_left _ hm))
  rw [attributePath_chain hn hnames]
  exact congrArg some (DottedPath.joined_split path)

theorem attributePath_of_rootAttr {name : String} (h : backend.rootAttr name c = .ok a c') :
    c'.attributePath a = some name := by
  obtain ⟨-, rfl, rfl⟩ := columnOf_eq_ok_iff.1 (h : columnOf .root name c = .ok a c')
  rfl

/-! ## What was joined before -/

/-- What joins relations: a sort key, or a field that is compiled. -/
inductive Joining : Criteria → Criteria → Prop
  | key {c c' : Criteria} {column : String} {a : Operand} (h : sortOperand column c = .ok a c') :
      Joining c c'
  | field {c c' : Criteria} {compiler : Compiler} {filter : String} {d : Declaration}
      {input : Input} {p : Constraint}
      (h : compiler.constrain backend filter d input c = .ok p c') : Joining c c'

theorem Joining.steps (h : Joining c c') : Steps c c' ∧ c'.collections = c.collections := by
  cases h with
  | key h =>
    obtain ⟨hgrown, -⟩ := grown_sortOperand h
    obtain ⟨js, rfl⟩ := hgrown.exists_withJoins
    exact ⟨hgrown.steps, rfl⟩
  | field h =>
    obtain ⟨ha, rfl, -⟩ := Compiler.constrain_eq_ok_iff.1 h
    exact ⟨steps_chain ha.name_ne_empty, rfl⟩

/-- **Sort keys and fields leave criteria reachable**, with the collections that were registered. -/
theorem Reachable.joining (hc : Reachable c) (h : Relation.ReflTransGen Joining c c') :
    Reachable c' ∧ c'.collections = c.collections := by
  induction h with
  | refl => exact ⟨hc, rfl⟩
  | tail _ hjoin ih =>
    obtain ⟨hsteps, hcollections⟩ := hjoin.steps
    exact ⟨ih.1.steps hsteps, hcollections.trans ih.2⟩

end Sql.Criteria

/-! ## Operators that count items -/

namespace Operation

variable {op : Operation} {ctx : PredicateContext} {a : Operand} {input : Input} {s : Criteria}
  {path : String}

theorem countsItems_iff : op.countsItems = true ↔ op ∈ [sizeEq, sizeGt, sizeLt] := by
  cases op <;> decide

theorem build_counting (hcount : op.countsItems = true) (hpath : s.attributePath a = some path) :
    op.build Criteria.backend ctx a input s =
      if path ∈ s.collections then
        match op.clause ctx input with
        | .ok clause => .ok (clause.constraint (.size a)) s
        | .error e => .error e s
      else .error ((QueryError.notACollection path).withOperation op.name) s := by
  have hsize : Criteria.backend.size s a = s.sizeOf a := rfl
  unfold build target
  rw [if_pos hcount, hsize, Criteria.sizeOf_eq hpath]
  by_cases hm : path ∈ s.collections
  · rw [if_pos hm, if_pos hm]
    cases op.clause ctx input with
    | error e => rfl
    | ok clause => simp [Except.mapError, Clause.build_backend]
  · rw [if_neg hm, if_neg hm]
    rfl

end Operation

/-- The size that a field asks for depends on one text: if it is registered, then the predicate is on
the size of the column, or the input does not fit; and if not, then the error names the text. -/
structure SizedBy (path : String) (c : Compiler) (d : Declaration) (s : Criteria) (a : Operand)
    (s' : Criteria) : Prop where
  attributePath : s'.attributePath a = some path
  size_iff : (∃ a', Criteria.backend.size s' a = .ok a') ↔ path ∈ s.collections
  registered : path ∈ s.collections → ∀ filter input,
    c.constrain Criteria.backend filter d input s =
      match d.operation.clause c.context input with
      | .ok clause => .ok (clause.constraint (.size a)) s'
      | .error e => .error (Compiler.place filter d e) s'
  unregistered : path ∉ s.collections → ∀ filter input,
    c.constrain Criteria.backend filter d input s = .error
      { QueryError.notACollection path with
        field := some d.field
        filter := some filter
        operation := some d.operation.name } s'
  notACollection_iff : ∀ filter input,
    (∃ e t, c.constrain Criteria.backend filter d input s = .error e t ∧
      e.code = .notACollection) ↔ path ∉ s.collections

namespace Compiler

variable {c : Compiler} {d : Declaration} {s s' : Criteria} {a : Operand}

theorem constrain_counting {filter : String} {input : Input} (hs : Numbered s.joins)
    (hcount : d.operation.countsItems = true) (h : c.locate Criteria.backend d s = .ok a s') :
    c.constrain Criteria.backend filter d input s =
      if d.target ∈ s.collections then
        match d.operation.clause c.context input with
        | .ok clause => .ok (clause.constraint (.size a)) s'
        | .error e => .error (place filter d e) s'
      else .error (place filter d (.notACollection d.target)) s' := by
  unfold constrain
  rw [h]
  obtain ⟨ha, rfl, rfl⟩ := locate_eq_ok_iff.1 h
  dsimp only
  rw [Operation.build_counting hcount (attributePath_column hs ha), located,
    Criteria.collections_withJoins]
  by_cases hm : d.target ∈ s.collections
  · rw [if_pos hm, if_pos hm]
    cases d.operation.clause c.context input <;> rfl
  · rw [if_neg hm, if_neg hm]
    rfl

theorem code_eq_notACollection_iff {filter : String} {input : Input} (hs : Numbered s.joins)
    (hcount : d.operation.countsItems = true) (h : c.locate Criteria.backend d s = .ok a s') :
    (∃ e t, c.constrain Criteria.backend filter d input s = .error e t ∧
      e.code = .notACollection) ↔ d.target ∉ s.collections := by
  rw [constrain_counting hs hcount h]
  by_cases hm : d.target ∈ s.collections
  · rw [if_pos hm]
    refine iff_of_false ?_ fun hn => hn hm
    rintro ⟨e, t, he, hcode⟩
    cases hclause : d.operation.clause c.context input with
    | ok clause =>
      rw [hclause] at he
      cases he
    | error e₀ =>
      rw [hclause] at he
      cases he
      have hvalue : e₀.code = .invalidFilterValue :=
        (d.operation.refuses_clause input c.context e₀ hclause).1
      have hplace : (place filter d e₀).code = e₀.code := rfl
      rw [hplace, hvalue] at hcode
      cases hcode
  · rw [if_neg hm]
    exact iff_of_true ⟨_, _, rfl, rfl⟩ hm

/-- **An operator that counts items depends on what its field targets.** -/
theorem sizedBy_target (hs : Numbered s.joins) (hcount : d.operation.countsItems = true)
    (h : c.locate Criteria.backend d s = .ok a s') : SizedBy d.target c d s a s' := by
  have hpath : s'.attributePath a = some d.target := by
    obtain ⟨ha, rfl, rfl⟩ := locate_eq_ok_iff.1 h
    exact attributePath_column hs ha
  have hcollections : s'.collections = s.collections := by
    obtain ⟨-, -, rfl⟩ := locate_eq_ok_iff.1 h
    rfl
  refine ⟨hpath, ?_, fun hm filter input => ?_, fun hm filter input => ?_,
    fun filter input => code_eq_notACollection_iff hs hcount h⟩
  · have hsize : Criteria.backend.size s' a = s'.sizeOf a := rfl
    rw [hsize, Criteria.sizeOf_eq hpath, hcollections]
    by_cases hm : d.target ∈ s.collections <;> simp [hm]
  · rw [constrain_counting hs hcount h, if_pos hm]
  · rw [constrain_counting hs hcount h, if_neg hm]
    rfl

end Compiler

/-- **Sizes of declared paths.** On reachable criteria the path of a resolved column is the path that
was resolved, and that of a column of the root is its name, whatever is joined later. So a field
whose operator counts items depends on what it declares: on its path, or on its name if it has none.
Sort keys and fields may have joined the same relations before. -/
theorem size_of_declared_path {s : Criteria} (hs : s.Reachable) :
    (∀ type limit path a s', RelationPath.resolve Criteria.backend type limit path s = .ok a s' →
      ∀ later, Criteria.Steps s' later → later.attributePath a = some path) ∧
    (∀ name a s', Criteria.backend.rootAttr name s = .ok a s' →
      ∀ later, Criteria.Steps s' later → later.attributePath a = some name) ∧
    ∀ s₁, Relation.ReflTransGen Criteria.Joining s s₁ →
      s₁.Reachable ∧ s₁.collections = s.collections ∧
      ∀ (c : Compiler) (d : Declaration) (a : Operand) (s' : Criteria),
        d.operation ∈ [.sizeEq, .sizeGt, .sizeLt] → c.locate Criteria.backend d s₁ = .ok a s' →
          SizedBy d.target c d s₁ a s' := by
  refine ⟨fun type limit path a s' h later hlater => ?_, fun name a s' h later hlater => ?_,
    fun s₁ hjoined => ?_⟩
  · exact Criteria.attributePath_of_steps hlater (Criteria.attributePath_of_resolve hs.numbered h)
  · exact Criteria.attributePath_of_steps hlater (Criteria.attributePath_of_rootAttr h)
  · obtain ⟨hs₁, hcollections⟩ := hs.joining hjoined
    exact ⟨hs₁, hcollections, fun c d a s' hop h =>
      Compiler.sizedBy_target hs₁.numbered (Operation.countsItems_iff.2 hop) h⟩

/-- Roles of accounts are registered as a collection, and owners are not. A sort key has joined the
accounts before. -/
theorem size_of_declared_path_roles : ∃ key s₁ a s₂,
    Criteria.sortOperand "account.name" (people.withCollection "account.roles") = .ok key s₁ ∧
    (Compiler.atEpoch .inner).locate Criteria.backend ⟨"roles", .sizeEq, "account.roles"⟩ s₁ =
      .ok a s₂ ∧
    a = .column "j2" "roles" ∧ s₂.attributePath a = some "account.roles" ∧
    (Compiler.atEpoch .inner).constrain Criteria.backend "Person"
      ⟨"roles", .sizeEq, "account.roles"⟩ (.scalar (.int 1)) s₁ =
        .ok (.test (.size a) (.compare .eq (.int 1))) s₂ ∧
    ∃ e s₃, (Compiler.atEpoch .inner).constrain Criteria.backend "Person"
        ⟨"owners", .sizeGt, "account.owners"⟩ (.scalar (.int 1)) s₁ = .error e s₃ ∧
      e.code = .notACollection ∧ e.field = some "owners" ∧
      e.message = "Attribute 'account.owners' is not a collection" := by
  obtain ⟨key, s₁, hkey, hcheck⟩ := exists_of_passes
    (Criteria.sortOperand "account.name" (people.withCollection "account.roles"))
    (fun _ s => passes ((Compiler.atEpoch .inner).locate Criteria.backend
        ⟨"roles", .sizeEq, "account.roles"⟩ s) (fun a _ => a == .column "j2" "roles") &&
      passes ((Compiler.atEpoch .inner).locate Criteria.backend
        ⟨"owners", .sizeGt, "account.owners"⟩ s) fun _ _ => true) (by decide +kernel)
  rw [Bool.and_eq_true] at hcheck
  obtain ⟨a, s₂, hroles, ha⟩ := exists_of_passes _ _ hcheck.1
  obtain ⟨b, s₃, howners, -⟩ := exists_of_passes _ _ hcheck.2
  have hs : (people.withCollection "account.roles").Reachable :=
    ⟨people, rfl, .single (.collection _ _)⟩
  obtain ⟨-, -, hjoined⟩ := size_of_declared_path hs
  obtain ⟨-, hcollections, hsized⟩ := hjoined s₁ (.single (.key hkey))
  have hcollections : s₁.collections = ["account.roles"] := hcollections
  have hsizeRoles := hsized _ _ a s₂ (by decide) hroles
  have hsizeOwners := hsized _ _ b s₃ (by decide) howners
  refine ⟨key, s₁, a, s₂, hkey, hroles, beq_iff_eq.1 ha, hsizeRoles.attributePath, ?_, ?_⟩
  · refine hsizeRoles.registered ?_ "Person" (.scalar (.int 1))
    rw [hcollections]
    exact List.mem_singleton_self _
  · refine ⟨_, s₃, hsizeOwners.unregistered ?_ "Person" (.scalar (.int 1)), rfl, rfl, ?_⟩
    · rw [hcollections]
      decide
    · decide +kernel

end FilterQuery
