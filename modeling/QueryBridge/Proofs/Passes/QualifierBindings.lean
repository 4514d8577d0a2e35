import QueryBridge.Proofs.Passes.ShortQualifiers
import QueryBridge.Proofs.Tree.Resolution

set_option autoImplicit false

namespace QueryBridge

def RangeVariable.path? : RangeVariable → Option (List String)
  | .path parts => some parts
  | _ => none

theorem Relation.path?_of_rangeVariable {a : Relation} {parts : List String}
    (h : a.rangeVariable = .path parts) : a.path? = some parts := by
  unfold Relation.rangeVariable at h
  split at h <;> cases h
  rfl

namespace Passes

def pathsOf (clauses : List (List RangeVariable)) : List (List String) :=
  clauses.flatten.filterMap RangeVariable.path?

theorem pathsOf_append (clauses outer : List (List RangeVariable)) :
    pathsOf (clauses ++ outer) = pathsOf clauses ++ pathsOf outer := by
  rw [pathsOf, List.flatten_append, List.filterMap_append]
  rfl

theorem path_mem_pathsOf {clauses : List (List RangeVariable)} {parts : List String} :
    parts ∈ pathsOf clauses ↔ RangeVariable.path parts ∈ clauses.flatten := by
  rw [pathsOf, List.mem_filterMap]
  constructor
  · rintro ⟨x, present, named⟩
    cases x <;> cases named
    exact present
  · intro present
    exact ⟨.path parts, present, rfl⟩

/-- Tables with an alias are among the paths in scope as well, though their paths are no range variables. -/
theorem pathsOf_select_subset (s : Select) : pathsOf [s.rangeVariables] ⊆ tablePaths s.sources := by
  intro parts present
  rw [path_mem_pathsOf, List.flatten_singleton, Select.rangeVariables_eq, List.mem_map] at present
  obtain ⟨a, member, named⟩ := present
  rw [tablePaths_eq, List.mem_filterMap]
  exact ⟨a, member, Relation.path?_of_rangeVariable named⟩

theorem pathsOf_clausesFor_subset (q : Query) (sees : Bool) :
    pathsOf (q.clausesFor sees) ⊆ (q.select?.map fun s => tablePaths s.sources).getD [] := by
  cases sees with
  | false => simp [Query.clausesFor, pathsOf]
  | true =>
    cases h : q.select? with
    | none => simp [Query.clausesFor, h, pathsOf]
    | some s => simpa [Query.clausesFor, h] using pathsOf_select_subset s

/-- The same FROM clauses, and the leaf cut down by all paths that they and the surroundings name. -/
def CutDown (paths : List (List String)) (x y : Sighting) : Prop :=
  y.clauses = x.clauses ∧ ∃ all, paths ⊆ all ∧ pathsOf x.clauses ⊆ all ∧
    y.leaf? = x.leaf?.map (shortenLeaf all)

theorem CutDown.within {paths inner : List (List String)} {own : List (List RangeVariable)}
    {x y : Sighting} (known : paths ⊆ inner) (ownKnown : pathsOf own ⊆ inner) (h : CutDown inner x y) :
    CutDown paths (x.within own) (y.within own) := by
  obtain ⟨clauses, all, sub, named, leaf⟩ := h
  refine ⟨?_, all, List.Subset.trans known sub, ?_, leaf⟩
  · rw [Sighting.within, Sighting.within, clauses]
  · rw [Sighting.within, pathsOf_append, List.append_subset]
    exact ⟨named, List.Subset.trans ownKnown sub⟩

theorem CutDown.all_within {paths inner : List (List String)} {own : List (List RangeVariable)}
    {xs ys : List Sighting} (known : paths ⊆ inner) (ownKnown : pathsOf own ⊆ inner)
    (h : List.Forall₂ (CutDown inner) xs ys) :
    List.Forall₂ (CutDown paths) (xs.map (·.within own)) (ys.map (·.within own)) := by
  rw [List.forall₂_map_left_iff, List.forall₂_map_right_iff]
  exact h.imp fun _ _ cut => cut.within known ownKnown

theorem CutDown.mono {paths inner : List (List String)} {x y : Sighting} (known : paths ⊆ inner)
    (h : CutDown inner x y) : CutDown paths x y := by
  obtain ⟨clauses, all, sub, named, leaf⟩ := h
  exact ⟨clauses, all, List.Subset.trans known sub, named, leaf⟩

theorem rangeVariables_shortened {inner : List (List String)} {a b : Select}
    (h : Yields (a.rewriteParts shortQualifiers inner) () b ()) : b.rangeVariables = a.rangeVariables :=
  Select.rangeVariables_kept (fun _ _ => rfl) h

theorem clausesFor_shortened {inner : List (List String)} {a b : Query}
    (h : Yields (a.rewriteParts shortQualifiers inner) () b ()) (sees : Bool) :
    b.clausesFor sees = a.clausesFor sees := by
  have same := Query.clausesFor_rewriteParts (g := id)
    (fun _ _ _ parts => by rw [List.map_id]; exact rangeVariables_shortened parts) h sees
  simpa using same

theorem shortQualifiers_relates (v : Visibility) : shortQualifiers.Relates v CutDown where
  leaf {paths e} he := by
    change List.Forall₂ _ _ ((shortenLeaf paths e).sightings v)
    rw [Expr.sightings_leaf v he, Expr.sightings_leaf v (isLeaf_shortenLeaf paths he)]
    exact .cons ⟨rfl, paths, List.Subset.refl _, by simp [pathsOf], rfl⟩ .nil
  relation := rfl
  select {paths a a'} := by
    intro inner parts below
    change List.Forall₂ _ _ (a'.sightings v)
    have own : pathsOf [a.rangeVariables] ⊆ inner :=
      List.Subset.trans (pathsOf_select_subset a) (List.subset_append_right _ _)
    have known : paths ⊆ inner := List.subset_append_left _ _
    rw [Select.sightings_eq, Select.sightings_eq, rangeVariables_shortened parts]
    exact .cons ⟨rfl, inner, known, own, rfl⟩ (CutDown.all_within known own below)
  query {paths a a'} := by
    intro inner parts hc hb ho hl
    change List.Forall₂ _ _ (a'.sightings v)
    have own : ∀ sees, pathsOf (a.clausesFor sees) ⊆ inner := fun sees =>
      List.Subset.trans (pathsOf_clausesFor_subset a sees) (List.subset_append_right _ _)
    have known : paths ⊆ inner := List.subset_append_left _ _
    rw [Query.sightings_eq, Query.sightings_eq]
    simp only [clausesFor_shortened parts]
    exact forall₂_append (CutDown.all_within known (own _) hc)
      (forall₂_append (hb.imp fun _ _ cut => cut.mono known)
        (forall₂_append (CutDown.all_within known (own _) ho) (CutDown.all_within known (own _) hl)))

/-- The same FROM clauses, and the qualifier cut down by at least the paths that they name. -/
def ShortOf (x y : Reference) : Prop :=
  y.clauses = x.clauses ∧ y.column? = x.column? ∧
    ∃ all, pathsOf x.clauses ⊆ all ∧ y.qualifier = shorten all x.qualifier

theorem shorten_cons (paths : List (List String)) (part : String) (rest : List String) :
    ∃ first others, shorten paths (part :: rest) = first :: others := by
  have kept := shorten_isEmpty paths (part :: rest)
  cases short : shorten paths (part :: rest) with
  | nil =>
    rw [short] at kept
    cases kept
  | cons first others => exact ⟨first, others, rfl⟩

theorem reference?_cutDown {paths : List (List String)} {x y : Sighting} (h : CutDown paths x y) :
    Option.Rel ShortOf x.reference? y.reference? := by
  obtain ⟨clauses, leaf?⟩ := x
  obtain ⟨_, _⟩ := y
  obtain ⟨sameClauses, all, -, named, leaf⟩ := h
  dsimp only at sameClauses named leaf
  subst sameClauses leaf
  have empty : shorten all [] = [] := rfl
  match leaf? with
  | none => exact .none
  | some (.column (part :: rest) name) | some (.star (part :: rest)) =>
    obtain ⟨first, others, short⟩ := shorten_cons all part rest
    simp only [Sighting.reference?, Option.map_some, shortenLeaf, short]
    exact .some ⟨rfl, rfl, all, named, short.symm⟩
  | some (.column [] name) | some (.star []) =>
    simp only [Sighting.reference?, Option.map_some, shortenLeaf, empty]
    exact .none
  | some (.binary ..) | some (.not _) | some (.neg _) | some (.paren _) | some (.isNull ..)
  | some (.cast ..) | some (.call ..) | some (.case ..) | some (.subquery _) | some (.exists ..)
  | some (.inList ..) | some (.inQuery ..) | some (.between ..) | some (.like ..) | some (.index ..)
  | some (.array _) | some (.literal _) | some (.keyword _) | some (.unsupported _) => exact .none

theorem references_shortened (v : Visibility) (q : Query) :
    List.Forall₂ ShortOf (q.references v) ((removeCatalogPrefix q).references v) :=
  List.rel_filterMap (fun _ _ cut => reference?_cutDown cut)
    ((shortQualifiers_relates v).query_sightings [] q)

theorem ShortOf.qualifier_eq {x y : Reference} (h : ShortOf x y) {p : Spot} (resolved : x.found = [p]) :
    y.qualifier = x.shortName := by
  obtain ⟨-, -, all, named, short⟩ := h
  obtain ⟨⟨variable', there, answers⟩, -⟩ := found_eq_singleton.1 resolved
  rw [short, shorten]
  split
  · rfl
  · rename_i kept
    have single : ¬1 < x.qualifier.length := by
      intro long
      refine kept ?_
      rw [spellsTable, Bool.and_eq_true, decide_eq_true_iff, List.any_eq_true]
      cases variable' with
      | path parts =>
        have known : parts ∈ all := named (path_mem_pathsOf.2 (mem_of_variableAt there))
        exact ⟨long, parts, known, answers⟩
      | label name | element name column =>
        simp only [RangeVariable.answers, beq_iff_eq] at answers
        simp [answers] at long
      | nameless => cases answers
    rw [Reference.shortName, Nat.sub_eq_zero_of_le (Nat.not_lt.1 single), List.drop_zero]

/-- Both references belong to one and the same relation. -/
def SameRelation (x y : Reference) : Prop :=
  y.clauses = x.clauses ∧ y.column? = x.column? ∧ ∃ p, x.found = [p] ∧ y.found = [p]

theorem ShortOf.sameRelation_iff {x y : Reference} (h : ShortOf x y) {p : Spot}
    (resolved : x.found = [p]) : SameRelation x y ↔ answersUpTo x.shortName x.clauses p = 1 := by
  have answers : ∃ z, variableAt? x.clauses p = some z ∧ z.answers x.shortName := by
    obtain ⟨⟨z, there, answers⟩, -⟩ := found_eq_singleton.1 resolved
    exact ⟨z, there, RangeVariable.answers_drop answers⟩
  have after : y.found = found x.shortName x.clauses := by
    rw [Reference.found, h.qualifier_eq resolved, h.1]
  constructor
  · rintro ⟨-, -, p', before, same⟩
    obtain rfl : p = p' := by simpa [resolved] using before
    rw [after] at same
    exact (found_eq_singleton.1 same).2
  · intro one
    exact ⟨h.1, h.2.1, p, resolved, after.trans (found_eq_singleton.2 ⟨answers, one⟩)⟩

/-- References keep their relations if and only if no other relation, further in or beside it, answers to
the last part of the qualifier. -/
theorem references_keep_relations_iff (v : Visibility) (q : Query)
    (resolved : ∀ x ∈ q.references v, ∃ p, x.found = [p]) :
    List.Forall₂ SameRelation (q.references v) ((removeCatalogPrefix q).references v) ↔
      ∀ x ∈ q.references v, ∀ p, x.found = [p] → answersUpTo x.shortName x.clauses p = 1 := by
  refine forall₂_iff (references_shortened v q) ?_
  intro x present y short
  obtain ⟨p, single⟩ := resolved x present
  rw [short.sameRelation_iff single]
  simp [single]

/-- `SELECT a.t.x FROM a.t WHERE a.t.n > (SELECT max(p.n) FROM p WHERE p.k = a.t.k)` for the path `p`. -/
def aboveAll (p : List String) : Query :=
  let highest : Select :=
    { Select.empty with
      projection := [⟨.call "max" [.column p "n"] false, none⟩]
      sources := [⟨.table p none, []⟩]
      selection := some (.binary .eq (.column p "k") (.column ["a", "t"] "k")) }
  .ofSelect
    { Select.empty with
      projection := [⟨.column ["a", "t"] "x", none⟩]
      sources := [⟨.table ["a", "t"] none, []⟩]
      selection := some (.binary .gt (.column ["a", "t"] "n") (.subquery (.ofSelect highest))) }

theorem aboveAll_keeps_relations :
    (∀ x ∈ (aboveAll ["b", "u"]).references .sql, ∃ p, x.found = [p]) ∧
      List.Forall₂ SameRelation ((aboveAll ["b", "u"]).references .sql)
        ((removeCatalogPrefix (aboveAll ["b", "u"])).references .sql) := by
  have resolved : ∀ x ∈ (aboveAll ["b", "u"]).references .sql, ∃ p, x.found = [p] :=
    resolved_of_found (by decide +kernel)
  refine ⟨resolved, (references_keep_relations_iff .sql (aboveAll ["b", "u"]) resolved).2 ?_⟩
  have alone : ∀ x ∈ (aboveAll ["b", "u"]).references .sql,
      ∀ p ∈ x.found, answersUpTo x.shortName x.clauses p = 1 := by decide +kernel
  intro x present p single
  exact alone x present p (by simp [single])

theorem found_eq_of_sameRelation {xs ys : List Reference} (h : List.Forall₂ SameRelation xs ys) :
    xs.map Reference.found = ys.map Reference.found := by
  induction h with
  | nil => rfl
  | cons same _ ih =>
    obtain ⟨-, -, p, before, after⟩ := same
    rw [List.map_cons, List.map_cons, before, after, ih]

/-- In the subquery `a.t.k` belongs to the outer table, and once it is cut down to `t.k` to the inner one. -/
theorem shadowed_loses_relation :
    (∀ x ∈ (aboveAll ["b", "t"]).references .sql, ∃ p, x.found = [p]) ∧
      ¬List.Forall₂ SameRelation ((aboveAll ["b", "t"]).references .sql)
        ((removeCatalogPrefix (aboveAll ["b", "t"])).references .sql) := by
  have before : ((aboveAll ["b", "t"]).references .sql).map Reference.found =
      [[⟨0, 0⟩], [⟨0, 0⟩], [⟨0, 0⟩], [⟨0, 0⟩], [⟨1, 0⟩]] := by decide +kernel
  have after : ((removeCatalogPrefix (aboveAll ["b", "t"])).references .sql).map Reference.found =
      [[⟨0, 0⟩], [⟨0, 0⟩], [⟨0, 0⟩], [⟨0, 0⟩], [⟨0, 0⟩]] := by decide +kernel
  refine ⟨resolved_of_found (by rw [before]; decide), fun same => ?_⟩
  have unchanged := found_eq_of_sameRelation same
  rw [before, after] at unchanged
  exact absurd unchanged (by decide)

end Passes

end QueryBridge
