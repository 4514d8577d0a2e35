import QueryBridge.Proofs.Passes.ElementNames
import QueryBridge.Proofs.Tree.Resolution

set_option autoImplicit false

namespace QueryBridge

def RangeVariable.element? : RangeVariable → Option Passes.ElementName
  | .element name column => some ⟨name, column⟩
  | _ => none

def RangeVariable.renamed : RangeVariable → RangeVariable
  | .element _ column => .label column
  | x => x

/-- What a leaf with a qualifier, or an element named by itself, refers to. -/
def Expr.relationName : Expr → List String
  | .column [] name => [name]
  | .column qualifier _ | .star qualifier => qualifier
  | _ => []

namespace Passes

def elementsOf (clauses : List (List RangeVariable)) : List ElementName :=
  clauses.flatten.filterMap (·.element?)

def renamedClauses (clauses : List (List RangeVariable)) : List (List RangeVariable) :=
  clauses.map (·.map RangeVariable.renamed)

def renameVariable (names : List ElementName) : RangeVariable → RangeVariable
  | .element name column => if names.contains ⟨name, column⟩ then .label column else .element name column
  | x => x

def renameSighting (names : List ElementName) (x : Sighting) : Sighting :=
  ⟨x.clauses.map (·.map (renameVariable names)), x.leaf?.map (renameLeaf names)⟩

/-- What a sighting becomes: elements of all FROM clauses in sight are renamed. -/
def renamedSighting (x : Sighting) : Sighting :=
  ⟨renamedClauses x.clauses, x.leaf?.map (renameLeaf (elementsOf x.clauses))⟩

theorem elementsOf_append (clauses outer : List (List RangeVariable)) :
    elementsOf (clauses ++ outer) = elementsOf clauses ++ elementsOf outer := by
  rw [elementsOf, List.flatten_append, List.filterMap_append]
  rfl

theorem element_mem_elementsOf {clauses : List (List RangeVariable)} {name column : String} :
    ⟨name, column⟩ ∈ elementsOf clauses ↔ RangeVariable.element name column ∈ clauses.flatten := by
  rw [elementsOf, List.mem_filterMap]
  constructor
  · rintro ⟨x, present, named⟩
    cases x <;> cases named
    exact present
  · intro present
    exact ⟨_, present, rfl⟩

theorem element?_rangeVariable (a : Relation) : a.rangeVariable.element? = elementName? a := by
  cases a with
  | table path label | derived q label => cases label <;> rfl
  | unnest es label =>
    rcases es with _ | ⟨e, _ | _⟩ <;> rcases label with _ | ⟨name, _ | ⟨column, _ | _⟩⟩ <;> rfl

theorem elementsOf_select (s : Select) : elementsOf [s.rangeVariables] = elementNames s := by
  rw [elementsOf, List.flatten_singleton, Select.rangeVariables_eq, List.filterMap_map]
  exact congrArg (List.filterMap · s.relations) (funext element?_rangeVariable)

theorem elementsOf_clausesFor (q : Query) :
    elementsOf (q.clausesFor true) = (q.select?.map elementNames).getD [] := by
  unfold Query.clausesFor
  cases q.select? with
  | none => rfl
  | some s => exact elementsOf_select s

/-- The leaf is a column of an array with that name and element. -/
def SpellsElement (names : List ElementName) (e : Expr) : Prop :=
  ∃ name column, e = .column [name] column ∧ ⟨name, column⟩ ∈ names

theorem renameLeaf_spelled {names : List ElementName} {name column : String} (h : ⟨name, column⟩ ∈ names) :
    renameLeaf names (.column [name] column) = .column [] column := by
  rw [renameLeaf, if_pos (List.contains_iff_mem.2 h)]

theorem renameLeaf_other {names : List ElementName} {e : Expr} (h : ¬SpellsElement names e) :
    renameLeaf names e = e := by
  unfold renameLeaf
  split
  · rename_i name column
    split
    · rename_i present
      exact (h ⟨name, column, rfl, List.contains_iff_mem.1 present⟩).elim
    · rfl
  · rfl

theorem spellsElement_append {names others : List ElementName} {e : Expr} :
    SpellsElement (names ++ others) e ↔ SpellsElement names e ∨ SpellsElement others e := by
  constructor
  · rintro ⟨name, column, rfl, present⟩
    exact (List.mem_append.1 present).imp (fun h => ⟨name, column, rfl, h⟩) fun h => ⟨name, column, rfl, h⟩
  · rintro (⟨name, column, rfl, present⟩ | ⟨name, column, rfl, present⟩)
    · exact ⟨name, column, rfl, List.mem_append_left _ present⟩
    · exact ⟨name, column, rfl, List.mem_append_right _ present⟩

theorem renameLeaf_renameLeaf (names others : List ElementName) (e : Expr) :
    renameLeaf others (renameLeaf names e) = renameLeaf (names ++ others) e := by
  by_cases first : SpellsElement names e
  · obtain ⟨name, column, rfl, present⟩ := first
    rw [renameLeaf_spelled present, renameLeaf_spelled (List.mem_append_left _ present)]
    rfl
  · rw [renameLeaf_other first]
    by_cases second : SpellsElement others e
    · obtain ⟨name, column, rfl, present⟩ := second
      rw [renameLeaf_spelled present, renameLeaf_spelled (List.mem_append_right _ present)]
    · rw [renameLeaf_other second, renameLeaf_other]
      rw [spellsElement_append]
      exact not_or.2 ⟨first, second⟩

theorem renameVariable_renamed (names : List ElementName) (x : RangeVariable) :
    renameVariable names x.renamed = x.renamed := by
  cases x <;> rfl

theorem renameVariable_elementsOf {clauses : List (List RangeVariable)} {x : RangeVariable}
    (h : x ∈ clauses.flatten) : renameVariable (elementsOf clauses) x = x.renamed := by
  cases x with
  | element name column =>
    rw [renameVariable, if_pos (List.contains_iff_mem.2 (element_mem_elementsOf.2 h))]
    rfl
  | path _ | label _ | nameless => rfl

theorem renameClauses_renamed (names : List ElementName) (clauses : List (List RangeVariable)) :
    (renamedClauses clauses).map (·.map (renameVariable names)) = renamedClauses clauses := by
  have same : renameVariable names ∘ RangeVariable.renamed = RangeVariable.renamed :=
    funext (renameVariable_renamed names)
  simp only [renamedClauses, List.map_map, Function.comp_def (List.map _), same]

theorem renameClauses_elementsOf (clauses : List (List RangeVariable)) :
    clauses.map (·.map (renameVariable (elementsOf clauses))) = renamedClauses clauses := by
  refine List.map_congr_left fun clause member => List.map_congr_left fun x present => ?_
  exact renameVariable_elementsOf (List.mem_flatten.2 ⟨clause, member, present⟩)

theorem renamedClauses_append (clauses outer : List (List RangeVariable)) :
    renamedClauses (clauses ++ outer) = renamedClauses clauses ++ renamedClauses outer :=
  List.map_append

/-- The elements of the FROM clause around a sighting may be renamed after those further in. -/
theorem renameSighting_within (own : List (List RangeVariable)) (x : Sighting) :
    renameSighting (elementsOf own) ((renamedSighting x).within own) = renamedSighting (x.within own) := by
  simp only [renameSighting, renamedSighting, Sighting.within, List.map_append, renameClauses_renamed,
    renameClauses_elementsOf, renamedClauses_append, elementsOf_append, Option.map_map]
  congr 2
  exact funext fun e => renameLeaf_renameLeaf _ _ e

theorem within_renameSighting (own : List (List RangeVariable)) (x : Sighting) :
    (renameSighting (elementsOf own) (renamedSighting x)).within (renamedClauses own) =
      renamedSighting (x.within own) := by
  simp only [renameSighting, renamedSighting, Sighting.within, renameClauses_renamed,
    renamedClauses_append, elementsOf_append, Option.map_map]
  congr 2
  exact funext fun e => renameLeaf_renameLeaf _ _ e

theorem renameVariable_nil : renameVariable [] = id := by
  funext x
  cases x <;> rfl

theorem renameSighting_nil (x : Sighting) : renameSighting [] x = x := by
  have leaves : renameLeaf [] = id := by
    funext e
    exact renameLeaf_other fun ⟨_, _, _, present⟩ => by cases present
  simp [renameSighting, leaves, renameVariable_nil]

section

variable (names : List ElementName) (v : Visibility)

theorem rangeVariable_renameRelation (a : Relation) :
    (renameRelation names a).rangeVariable = renameVariable names a.rangeVariable := by
  unfold renameRelation
  split
  · rename_i e name column
    change _ = renameVariable names (.element name column)
    rw [renameVariable]
    split <;> rfl
  · rename_i other
    unfold Relation.rangeVariable
    split
    · exact (other _ _ _ rfl).elim
    all_goals rfl

theorem rangeVariables_renamed {a b : Select} (h : Yields (a.rewriteParts (renamed names) ()) () b ()) :
    b.rangeVariables = a.rangeVariables.map (renameVariable names) :=
  Select.rangeVariables_rewriteParts (fun _ => rangeVariable_renameRelation names) h

theorem renamed_relates : (renamed names).Relates v fun _ x y => y = renameSighting names x where
  leaf {env e} he := by
    have still : (renameLeaf names e).isLeaf :=
      renamed_keepsLeaves names (n := ()) (k := ()) he (yields_self ((renamed names).leaf env e))
    change List.Forall₂ _ _ ((renameLeaf names e).sightings v)
    rw [Expr.sightings_leaf v he, Expr.sightings_leaf v still]
    exact .cons rfl .nil
  relation {env a} := by
    change (renameRelation names a).sightings v = a.sightings v
    rcases renameRelation_cases names a with ⟨same, -⟩ | ⟨e, name, column, rfl, same⟩
    · rw [same]
    · rw [same]
      rfl
  select {env a a'} := by
    intro inner parts below
    change List.Forall₂ _ _ (a'.sightings v)
    rw [forall₂_eq_map] at below ⊢
    rw [Select.sightings_eq, Select.sightings_eq, below, rangeVariables_renamed names parts]
    simp [renameSighting, Sighting.within, Function.comp_def]
  query {env a a'} := by
    intro inner parts hc hb ho hl
    change List.Forall₂ _ _ (a'.sightings v)
    have clauses := Query.clausesFor_rewriteParts (fun _ _ _ parts => rangeVariables_renamed names parts) parts
    rw [forall₂_eq_map] at hc hb ho hl ⊢
    rw [Query.sightings_eq, Query.sightings_eq, hc, hb, ho, hl]
    simp [clauses, renameSighting, Sighting.within, Function.comp_def]

theorem sightings_renameSelect (s : Select) :
    (renameSelect names s).sightings v = (s.sightings v).map (renameSighting names) := by
  unfold renameSelect
  split
  · rename_i none
    rw [List.isEmpty_iff.1 none, funext renameSighting_nil, List.map_id']
  · exact forall₂_eq_map.1 ((renamed_relates names v).select_sightings () s)

end

theorem order_renameOrder (names : List ElementName) (v : Visibility) (q : Query) :
    sightingsOfOrder v (renameOrder names q).orderBy =
      (sightingsOfOrder v q.orderBy).map (renameSighting names) := by
  unfold renameOrder
  split
  · rename_i none
    rw [List.isEmpty_iff.1 none, funext renameSighting_nil, List.map_id']
  · exact forall₂_eq_map.1 ((renamed_relates names v).order_sightings () q.orderBy)

theorem sightings_renameOrder (names : List ElementName) (v : Visibility) (q : Query) :
    (renameOrder names q).sightings v =
      (sightingsOfCtes v q.ctes).map (·.within (q.clausesFor v.ctes)) ++ (q.body.sightings v
        ++ (((sightingsOfOrder v q.orderBy).map (renameSighting names)).map (·.within (q.clausesFor v.orderBy))
          ++ (q.boundSightings v).map (·.within (q.clausesFor v.bounds)))) := by
  rw [Query.sightings_eq, order_renameOrder]
  unfold renameOrder
  split <;> rfl

theorem rangeVariables_walked {a b : Select} (h : Yields (a.rewriteParts renamedElements ()) () b ()) :
    b.rangeVariables = a.rangeVariables :=
  Select.rangeVariables_kept (fun _ _ => rfl) h

theorem rangeVariables_renameSelect (s : Select) :
    (renameSelect (elementNames s) s).rangeVariables = s.rangeVariables.map RangeVariable.renamed := by
  have all : s.rangeVariables.map (renameVariable (elementNames s)) =
      s.rangeVariables.map RangeVariable.renamed := by
    refine List.map_congr_left fun x present => ?_
    rw [← elementsOf_select]
    exact renameVariable_elementsOf (by simpa using present)
  rw [← all]
  rcases renameSelect_yields (elementNames s) s with ⟨none, same⟩ | parts
  · rw [same, none, renameVariable_nil, List.map_id]
  · exact rangeVariables_renamed _ parts

theorem clausesFor_walked {a b : Query} (h : Yields (a.rewriteParts renamedElements ()) () b ())
    (sees : Bool) : b.clausesFor sees = renamedClauses (a.clausesFor sees) := by
  refine Query.clausesFor_rewriteParts (fun _ x y parts => ?_) h sees
  rw [← rangeVariables_walked parts]
  exact rangeVariables_renameSelect y

theorem renamedElements_relates : renamedElements.Relates .sql fun _ x y => y = renamedSighting x where
  leaf {env e} he := by
    change List.Forall₂ _ _ (e.sightings .sql)
    have alone : ¬SpellsElement (elementsOf []) e := by simp [SpellsElement, elementsOf]
    have same : renamedSighting ⟨[], some e⟩ = ⟨[], some e⟩ :=
      congrArg (Sighting.mk [] ∘ some) (renameLeaf_other alone)
    rw [Expr.sightings_leaf .sql he, forall₂_eq_map, List.map_singleton, same]
  relation := rfl
  select {env a a'} := by
    intro inner parts below
    -- What is further in is renamed already, so the walk over `a'` adds the elements of its own FROM clause.
    change List.Forall₂ _ _ ((renameSelect (elementNames a') a').sightings .sql)
    rw [forall₂_eq_map] at below ⊢
    rw [sightings_renameSelect, Select.sightings_eq, Select.sightings_eq, below, ← elementsOf_select,
      rangeVariables_walked parts, List.map_cons, List.map_cons, List.map_map, List.map_map, List.map_map]
    congr 1
    · simp only [renameSighting, renamedSighting, renameClauses_elementsOf, Option.map_none]
    · exact List.map_congr_left fun x _ => renameSighting_within _ x
  query {env a a'} := by
    intro inner parts hc hb ho hl
    change List.Forall₂ _ _ ((renameOrder ((a.select?.map elementNames).getD []) a').sightings .sql)
    rw [forall₂_eq_map] at hc hb ho hl ⊢
    -- ORDER BY alone is renamed after the walk, below the FROM clause that the walk has renamed.
    have order : ∀ xs : List Sighting, ((xs.map renamedSighting).map
        (renameSighting (elementsOf (a.clausesFor true)))).map (·.within (renamedClauses (a.clausesFor true))) =
          (xs.map (·.within (a.clausesFor true))).map renamedSighting := by
      intro xs
      simp only [List.map_map]
      exact List.map_congr_left fun x _ => within_renameSighting _ x
    have unseen : ∀ {b : Query} (xs : List Sighting), xs.map (·.within (b.clausesFor false)) = xs :=
      fun xs => by simp [Query.clausesFor, Sighting.within]
    rw [sightings_renameOrder, Query.sightings_eq, hc, hb, ho, hl, ← elementsOf_clausesFor]
    simp only [Visibility.sql, clausesFor_walked parts true, unseen, List.map_append, order]

theorem renameUnnested_sightings (q : Query) :
    (renameUnnested q).sightings .sql = (q.sightings .sql).map renamedSighting :=
  forall₂_eq_map.1 (renamedElements_relates.query_sightings () q)

/-- A reference to an array that is renamed refers to it afterwards, a reference to any other relation is
unchanged, and the new names are unique in their FROM clauses. -/
structure KeepsBindings (x y : Sighting) : Prop where
  array : ∀ ref p name column, x.reference? = some ref → ref.found = [p] →
    variableAt? ref.clauses p = some (.element name column) →
    ∃ e, y.leaf? = some e ∧ found e.relationName y.clauses = [p]
  others : ∀ ref p, x.reference? = some ref → ref.found = [p] →
    (∀ name column, variableAt? ref.clauses p ≠ some (.element name column)) → y.leaf? = some ref.leaf
  unique : x.leaf? = none → ∀ i name column, variableAt? x.clauses ⟨0, i⟩ = some (.element name column) →
    found [column] y.clauses = [⟨0, i⟩]

/-- A reference to an array asks for its element, under a name that no relation up to that array has; a
reference to any other relation does not look like the element of an array further out. -/
structure ElementsApart (x : Sighting) : Prop where
  array : ∀ ref p name column, x.reference? = some ref → ref.found = [p] →
    variableAt? ref.clauses p = some (.element name column) →
    (ref.column? = some column ∨ name = column ∧ ¬SpellsElement (elementsOf ref.clauses) ref.leaf) ∧
      answersUpTo [column] (renamedClauses ref.clauses) p = 1
  others : ∀ ref p, x.reference? = some ref → ref.found = [p] →
    (∀ name column, variableAt? ref.clauses p ≠ some (.element name column)) →
    ¬SpellsElement (elementsOf ref.clauses) ref.leaf
  unique : x.leaf? = none → ∀ i name column, variableAt? x.clauses ⟨0, i⟩ = some (.element name column) →
    answersUpTo [column] (renamedClauses x.clauses) ⟨0, i⟩ = 1

theorem variableAt?_renamedClauses (clauses : List (List RangeVariable)) (p : Spot) :
    variableAt? (renamedClauses clauses) p = (variableAt? clauses p).map RangeVariable.renamed := by
  simp only [variableAt?, renamedClauses, List.getElem?_map]
  cases clauses[p.clause]? with
  | none => rfl
  | some clause => exact List.getElem?_map

section

variable {clauses : List (List RangeVariable)} {p : Spot} {name column : String}
  (there : variableAt? clauses p = some (.element name column))

include there

theorem found_renamed {goesBy : List String} : found goesBy (renamedClauses clauses) = [p] ↔
    goesBy = [column] ∧ answersUpTo [column] (renamedClauses clauses) p = 1 := by
  have label : variableAt? (renamedClauses clauses) p = some (.label column) := by
    rw [variableAt?_renamedClauses, there]
    rfl
  rw [found_eq_singleton, label]
  constructor
  · rintro ⟨⟨x, same, answers⟩, one⟩
    cases same
    obtain rfl : goesBy = [column] := by simpa [RangeVariable.answers] using answers
    exact ⟨rfl, one⟩
  · rintro ⟨rfl, one⟩
    exact ⟨⟨_, rfl, by simp [RangeVariable.answers]⟩, one⟩

end

theorem relationName_renamed {ref : Reference} {p : Spot} {name column : String}
    (single : ref.found = [p]) (there : variableAt? ref.clauses p = some (.element name column)) :
    (renameLeaf (elementsOf ref.clauses) ref.leaf).relationName = [column] ↔
      ref.column? = some column ∨ name = column ∧ ¬SpellsElement (elementsOf ref.clauses) ref.leaf := by
  have qualifier : ref.qualifier = [name] := by
    obtain ⟨⟨x, same, answers⟩, -⟩ := found_eq_singleton.1 single
    rw [there] at same
    cases same
    simpa [RangeVariable.answers] using answers
  -- An element that is spelled as a column of its array goes by its own name, anything else by the array's.
  by_cases spells : SpellsElement (elementsOf ref.clauses) ref.leaf
  · obtain ⟨u, c, leaf, present⟩ := spells
    have column? : ref.column? = some c := by
      unfold Reference.leaf at leaf
      split at leaf
      · rename_i named
        rw [named, (Expr.column.inj leaf).2]
      · cases leaf
    rw [leaf, renameLeaf_spelled present, column?]
    simp only [Expr.relationName, List.cons.injEq, and_true, Option.some.injEq]
    refine ⟨.inl, Or.rec id fun other => ?_⟩
    exact (other.2 ⟨u, c, rfl, present⟩).elim
  · have kept : ref.leaf.relationName = [name] := by
      unfold Reference.leaf
      split <;> rw [qualifier] <;> rfl
    rw [renameLeaf_other spells, kept]
    simp only [List.cons.injEq, and_true]
    constructor
    · exact fun same => .inr ⟨same, spells⟩
    · rintro (column? | ⟨same, -⟩)
      · refine (spells ⟨name, column, ?_, element_mem_elementsOf.2 (mem_of_variableAt there)⟩).elim
        rw [Reference.leaf, column?, qualifier]
      · exact same

theorem keepsBindings_iff (x : Sighting) : KeepsBindings x (renamedSighting x) ↔ ElementsApart x := by
  -- An array is found under the new name; every other reference has to stay as it is.
  have array : ∀ ref p name column, x.reference? = some ref → ref.found = [p] →
      variableAt? ref.clauses p = some (.element name column) →
      ((∃ e, (renamedSighting x).leaf? = some e ∧ found e.relationName (renamedSighting x).clauses = [p]) ↔
        (ref.column? = some column ∨ name = column ∧ ¬SpellsElement (elementsOf ref.clauses) ref.leaf) ∧
          answersUpTo [column] (renamedClauses ref.clauses) p = 1) := by
    intro ref p name column isRef single there
    obtain ⟨clauses, leaf, -⟩ := Sighting.leaf_of_reference isRef
    rw [← relationName_renamed single there, ← found_renamed there]
    simp [renamedSighting, clauses, leaf]
  have others : ∀ ref, x.reference? = some ref → ((renamedSighting x).leaf? = some ref.leaf ↔
      ¬SpellsElement (elementsOf ref.clauses) ref.leaf) := by
    intro ref isRef
    obtain ⟨clauses, leaf, -⟩ := Sighting.leaf_of_reference isRef
    simp only [renamedSighting, clauses, leaf, Option.map_some, Option.some.injEq]
    refine ⟨fun same spells => ?_, renameLeaf_other⟩
    obtain ⟨u, c, spelled, present⟩ := spells
    rw [spelled, renameLeaf_spelled present] at same
    cases same
  constructor
  · intro keeps
    refine ⟨fun ref p name column isRef single there => ?_, fun ref p isRef single other => ?_,
      fun none i name column there => ?_⟩
    · exact (array ref p name column isRef single there).1 (keeps.array ref p name column isRef single there)
    · exact (others ref isRef).1 (keeps.others ref p isRef single other)
    · exact ((found_renamed there).1 (keeps.unique none i name column there)).2
  · intro apart
    refine ⟨fun ref p name column isRef single there => ?_, fun ref p isRef single other => ?_,
      fun none i name column there => ?_⟩
    · exact (array ref p name column isRef single there).2 (apart.array ref p name column isRef single there)
    · exact (others ref isRef).2 (apart.others ref p isRef single other)
    · exact (found_renamed there).2 ⟨rfl, apart.unique none i name column there⟩

/-- The pass keeps bindings if and only if the elements are apart from everything else that is in sight. -/
theorem bindings_kept_iff (q : Query) :
    List.Forall₂ KeepsBindings (q.sightings .sql) ((renameUnnested q).sightings .sql) ↔
      ∀ x ∈ q.sightings .sql, ElementsApart x := by
  refine forall₂_iff (renamedElements_relates.query_sightings () q) ?_
  rintro x - _ rfl
  exact keepsBindings_iff x

/-- `SELECT u.x FROM t CROSS JOIN UNNEST(t.a) AS u (x) WHERE u.x > (SELECT max(u.x) FROM s AS u)` -/
def aboveOther : Query :=
  let highest : Select :=
    { Select.empty with
      projection := [⟨.call "max" [.column ["u"] "x"] false, none⟩]
      sources := [⟨.table ["s"] (some ⟨"u", []⟩), []⟩] }
  .ofSelect
    { Select.empty with
      projection := [⟨.column ["u"] "x", none⟩]
      sources := [⟨.table ["t"] none,
        [⟨.cross, .unnest [.column ["t"] "a"] (some ⟨"u", ["x"]⟩), .none⟩]⟩]
      selection := some (.binary .gt (.column ["u"] "x") (.subquery (.ofSelect highest))) }

/-- In the subquery `u.x` belongs to `s`, and becomes `x`, the element of the array outside. -/
theorem reboundName_captured :
    (∀ x ∈ aboveOther.references .sql, ∃ p, x.found = [p]) ∧
      ¬List.Forall₂ KeepsBindings (aboveOther.sightings .sql)
        ((renameUnnested aboveOther).sightings .sql) := by
  have spots : (aboveOther.references .sql).map Reference.found =
      [[⟨0, 1⟩], [⟨0, 0⟩], [⟨0, 1⟩], [⟨0, 0⟩]] := by decide +kernel
  refine ⟨resolved_of_found (by rw [spots]; decide), fun keeps => ?_⟩
  rw [renameUnnested_sightings, List.forall₂_map_right_iff, List.forall₂_same] at keeps
  let inner : Sighting :=
    ⟨[[.label "u"], [.path ["t"], .element "u" "x"]], some (.column ["u"] "x")⟩
  have present : inner ∈ aboveOther.sightings .sql := List.mem_of_getElem? (i := 5) rfl
  have unchanged := (keeps inner present).others ⟨inner.clauses, ["u"], some "x"⟩ ⟨0, 0⟩ rfl
    (by decide +kernel) (by simp [inner, variableAt?])
  cases unchanged

end Passes

end QueryBridge
