import QueryBridge.Proofs.Passes.GeneratedNames
import QueryBridge.Proofs.Tree.Positions

set_option autoImplicit false

namespace QueryBridge

/-- A relation goes by its alias, a table without one by the last part of its path. -/
inductive Relation.GoesBy : Relation → String → Prop
  | table (path) (a : TableAlias) : GoesBy (.table path (some a)) a.name
  | derived (query) (a : TableAlias) : GoesBy (.derived query (some a)) a.name
  | unnest (exprs) (a : TableAlias) : GoesBy (.unnest exprs (some a)) a.name
  | last (path name) : GoesBy (.table (path ++ [name]) none) name

theorem Relation.goesBy_iff {r : Relation} {name : String} : r.GoesBy name ↔ r.referenceName? = some name := by
  constructor
  · intro h
    cases h with
    | last path name => exact List.getLast?_concat
    | _ => rfl
  · intro h
    cases hl : r.label? with
    | some a =>
      obtain rfl : a.name = name := by simpa [referenceName?, hl] using h
      cases r <;> cases hl
      · exact .table _ a
      · exact .derived _ a
      · exact .unnest _ a
    | none =>
      cases r with
      | table path label =>
        cases hl
        obtain ⟨path, rfl⟩ := List.getLast?_eq_some_iff.1 h
        exact .last path name
      | _ => cases hl; cases h

/-- The relation is the first of an item of the FROM clause or is joined to it. -/
inductive Relation.StandsIn (sources : List FromItem) : Relation → Prop
  | first {item : FromItem} (listed : item ∈ sources) : StandsIn sources item.relation
  | joined {item : FromItem} {join : Join} (listed : item ∈ sources) (added : join ∈ item.joins) :
      StandsIn sources join.relation

theorem Relation.standsIn_iff {sources : List FromItem} {r : Relation} :
    r.StandsIn sources ↔ r ∈ sources.flatMap (·.relations) := by
  simp only [List.mem_flatMap, FromItem.relations, List.mem_cons, List.mem_map]
  constructor
  · rintro (@⟨item, listed⟩ | @⟨item, join, listed, added⟩)
    · exact ⟨item, listed, .inl rfl⟩
    · exact ⟨item, listed, .inr ⟨join, added, rfl⟩⟩
  · rintro ⟨item, listed, rfl | ⟨join, added, rfl⟩⟩
    · exact .first listed
    · exact .joined listed added

/-- Some relation of the FROM clause goes by the name. -/
def BringsName (sources : List FromItem) (name : String) : Prop :=
  ∃ r : Relation, r.StandsIn sources ∧ r.GoesBy name

theorem mem_relationNames {sources : List FromItem} {name : String} :
    name ∈ relationNames sources ↔ BringsName sources name := by
  simp only [BringsName, Relation.standsIn_iff, Relation.goesBy_iff]
  exact List.mem_filterMap

namespace Passes

theorem qualifier?_eq_some_iff {e : Expr} {qualifier : List String} :
    qualifier? e = some qualifier ↔ (∃ name, e = .column qualifier name) ∨ e = .star qualifier := by
  cases e <;> simp [qualifier?]

theorem isUnbound_iff {names : List String} {e : Expr} : isUnbound names e ↔
    ∃ qualifier, qualifier? e = some qualifier ∧ qualifier ≠ [] ∧ ∀ part ∈ qualifier, part ∉ names := by
  cases found : qualifier? e <;> simp [isUnbound, found]

theorem namesInScope_eq : namesInScope = .collecting relationNames := rfl

/-- The names known at a reference are those of the relations of the SELECTs around it. -/
theorem mem_occurrences_iff {q : Query} {names : List String} {e : Expr} {qualifier : List String}
    (refers : qualifier? e = some qualifier) : (names, e) ∈ q.occurrences namesInScope [] ↔
      ∃ path, (Subtree.query q).at? path = some (.expr e) ∧
        names = ((Subtree.query q).enclosing path).flatMap fun s => relationNames s.sources := by
  rw [namesInScope_eq, Query.occurrences, List.mem_filterMap]
  constructor
  · rintro ⟨x, hx, occurs⟩
    cases x with
    | leaf names' e' =>
      obtain ⟨rfl, rfl⟩ : names' = names ∧ e' = e := by simpa [Node.occurrence?] using occurs
      exact Subtree.position_collecting (x := .query q) hx
    | _ => cases occurs
  · rintro ⟨path, at_path, rfl⟩
    exact ⟨_, Subtree.leaf_at relationNames [] at_path (isLeaf_of_qualifier refers), rfl⟩

/-- A column or a star with the qualifier stands at the position. -/
def RefersAt (q : Query) (path : List ℕ) (qualifier : List String) : Prop :=
  (∃ name, (Subtree.query q).at? path = some (.expr (.column qualifier name))) ∨
    (Subtree.query q).at? path = some (.expr (.star qualifier))

theorem refersAt_iff {q : Query} {path : List ℕ} {qualifier : List String} : RefersAt q path qualifier ↔
    ∃ e, (Subtree.query q).at? path = some (.expr e) ∧ qualifier? e = some qualifier := by
  constructor
  · rintro (⟨name, at_path⟩ | at_path)
    · exact ⟨_, at_path, rfl⟩
    · exact ⟨_, at_path, rfl⟩
  · rintro ⟨e, at_path, refers⟩
    rcases qualifier?_eq_some_iff.1 refers with ⟨name, rfl⟩ | rfl
    · exact .inl ⟨name, at_path⟩
    · exact .inr at_path

/-- A query has an unbound qualifier exactly if a column or a star somewhere in it has a qualifier, no part of
which is what a relation of a SELECT around it goes by. -/
theorem hasUnboundQualifier_iff (q : Query) : hasUnboundQualifier q = true ↔
    ∃ path qualifier, RefersAt q path qualifier ∧ qualifier ≠ [] ∧
      ∀ s ∈ (Subtree.query q).enclosing path, ∀ part ∈ qualifier, ¬ BringsName s.sources part := by
  have unnamed (path : List ℕ) (part : String) :
      part ∉ (((Subtree.query q).enclosing path).flatMap fun s => relationNames s.sources) ↔
        ∀ s ∈ (Subtree.query q).enclosing path, ¬ BringsName s.sources part := by
    simp only [List.mem_flatMap, mem_relationNames, not_exists, not_and]
  rw [hasUnboundQualifier, List.any_eq_true]
  constructor
  · rintro ⟨⟨names, e⟩, occurs, unbound⟩
    obtain ⟨qualifier, refers, qualified, none⟩ := isUnbound_iff.1 unbound
    obtain ⟨path, at_path, rfl⟩ := (mem_occurrences_iff refers).1 occurs
    refine ⟨path, qualifier, refersAt_iff.2 ⟨e, at_path, refers⟩, qualified, ?_⟩
    exact fun s hs part hp => (unnamed path part).1 (none part hp) s hs
  · rintro ⟨path, qualifier, at_path, qualified, none⟩
    obtain ⟨e, at_path, refers⟩ := refersAt_iff.1 at_path
    refine ⟨_, (mem_occurrences_iff refers).2 ⟨path, at_path, rfl⟩, isUnbound_iff.2 ?_⟩
    refine ⟨qualifier, refers, qualified, fun part hp => (unnamed path part).2 ?_⟩
    exact fun s hs => none s hs part hp

end Passes

end QueryBridge
