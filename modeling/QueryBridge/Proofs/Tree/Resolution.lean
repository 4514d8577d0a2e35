import QueryBridge.Proofs.Tree.Sightings

set_option autoImplicit false

namespace QueryBridge

/-- A table without an alias answers to every end of its path, any other relation to its alias. -/
def RangeVariable.answers (qualifier : List String) : RangeVariable → Bool
  | .path parts => qualifier.isSuffixOf parts
  | .label name | .element name _ => qualifier == [name]
  | .nameless => false

theorem RangeVariable.answers_drop {qualifier : List String} {x : RangeVariable}
    (h : x.answers qualifier) : x.answers (qualifier.drop (qualifier.length - 1)) := by
  cases x with
  | path parts =>
    simp only [RangeVariable.answers, List.isSuffixOf_iff_suffix] at h ⊢
    exact (List.drop_suffix _ _).trans h
  | label name | element name column =>
    simp only [RangeVariable.answers, beq_iff_eq] at h ⊢
    rw [h]
    rfl
  | nameless => cases h

/-- A relation in sight: how many FROM clauses further out, and where in its FROM clause. -/
structure Spot where
  clause : Nat
  position : Nat
  deriving DecidableEq

def Spot.outwards (p : Spot) : Spot := ⟨p.clause + 1, p.position⟩

theorem Spot.outwards_injective : Function.Injective Spot.outwards := by
  rintro ⟨k, i⟩ ⟨l, j⟩ same
  simpa [outwards] using same

def variableAt? (clauses : List (List RangeVariable)) (p : Spot) : Option RangeVariable :=
  clauses[p.clause]?.bind (·[p.position]?)

theorem mem_of_variableAt {clauses : List (List RangeVariable)} {p : Spot} {x : RangeVariable}
    (there : variableAt? clauses p = some x) : x ∈ clauses.flatten := by
  obtain ⟨clause, outer, inner⟩ := Option.bind_eq_some_iff.1 there
  exact List.mem_flatten.2 ⟨clause, List.mem_of_getElem? outer, List.mem_of_getElem? inner⟩

/-- The relations that a qualifier belongs to, given the FROM clauses from the innermost outwards. -/
def found (qualifier : List String) : List (List RangeVariable) → List Spot
  | [] => []
  | clause :: outer =>
    match clause.findIdxs (·.answers qualifier) with
    | [] => (found qualifier outer).map Spot.outwards
    | position :: others => (position :: others).map (Spot.mk 0)

def answersUpTo (qualifier : List String) (clauses : List (List RangeVariable)) (p : Spot) : Nat :=
  (clauses.take (p.clause + 1)).flatten.countP (·.answers qualifier)

theorem findIdxs_eq_singleton {α : Type} {p : α → Bool} {l : List α} {i : Nat} :
    l.findIdxs p = [i] ↔ (∃ x, l[i]? = some x ∧ p x) ∧ l.countP p = 1 := by
  have mem : i ∈ l.findIdxs p ↔ ∃ x, l[i]? = some x ∧ p x := by
    rw [List.mem_findIdxs_iff_exists_getElem_pos]
    constructor
    · rintro ⟨bound, holds⟩
      exact ⟨l[i], List.getElem?_eq_getElem bound, holds⟩
    · rintro ⟨x, present, holds⟩
      obtain ⟨bound, rfl⟩ := List.getElem?_eq_some_iff.1 present
      exact ⟨bound, holds⟩
  rw [← mem, ← List.length_findIdxs (s := 0)]
  constructor
  · intro same
    simp [same]
  · rintro ⟨isIn, one⟩
    obtain ⟨j, only⟩ := List.length_eq_one_iff.1 one
    rw [only, List.mem_singleton] at isIn
    rw [only, isIn]

theorem findIdxs_eq_nil {α : Type} {p : α → Bool} {l : List α} : l.findIdxs p = [] ↔ l.countP p = 0 := by
  rw [← List.length_findIdxs (s := 0), List.length_eq_zero_iff]

theorem answersUpTo_pos {qualifier : List String} {clauses : List (List RangeVariable)} {p : Spot}
    {x : RangeVariable} (there : variableAt? clauses p = some x) (answers : x.answers qualifier) :
    0 < answersUpTo qualifier clauses p := by
  obtain ⟨clause, outer, inner⟩ := Option.bind_eq_some_iff.1 there
  refine List.countP_pos_iff.2 ⟨x, List.mem_flatten.2 ⟨clause, ?_, List.mem_of_getElem? inner⟩, answers⟩
  obtain ⟨bound, rfl⟩ := List.getElem?_eq_some_iff.1 outer
  exact List.mem_take_iff_getElem.2 ⟨p.clause, by omega, rfl⟩

theorem found_eq_singleton {qualifier : List String} {clauses : List (List RangeVariable)} {p : Spot} :
    found qualifier clauses = [p] ↔
      (∃ x, variableAt? clauses p = some x ∧ x.answers qualifier) ∧ answersUpTo qualifier clauses p = 1 := by
  induction clauses generalizing p with
  | nil => simp [found, variableAt?]
  | cons clause outer ih =>
    obtain ⟨_ | k, position⟩ := p
    · have head : answersUpTo qualifier (clause :: outer) ⟨0, position⟩
          = clause.countP (·.answers qualifier) := by simp [answersUpTo]
      rw [head, show variableAt? (clause :: outer) ⟨0, position⟩ = clause[position]? from rfl,
        ← findIdxs_eq_singleton, found]
      split
      · rename_i none
        simp [none, Spot.outwards]
      · rename_i i others some
        have injective : Function.Injective (Spot.mk 0) := fun _ _ same => (Spot.mk.inj same).2
        rw [some]
        exact (List.map_injective_iff.2 injective).eq_iff (b := [position])
    · have tail : answersUpTo qualifier (clause :: outer) ⟨k + 1, position⟩
          = clause.countP (·.answers qualifier) + answersUpTo qualifier outer ⟨k, position⟩ := by
        simp [answersUpTo, List.countP_append]
      have deeper : variableAt? (clause :: outer) ⟨k + 1, position⟩ = variableAt? outer ⟨k, position⟩ := rfl
      rw [tail, deeper, found]
      split
      · rename_i none
        rw [findIdxs_eq_nil.1 none, Nat.zero_add, ← ih]
        exact (List.map_injective_iff.2 Spot.outwards_injective).eq_iff (b := [⟨k, position⟩])
      · rename_i i others some
        -- An answer in the innermost clause hides the ones further out.
        refine iff_of_false (by simp) ?_
        rintro ⟨⟨x, there, answers⟩, one⟩
        have beyond := answersUpTo_pos there answers
        have here : clause.countP (·.answers qualifier) ≠ 0 := fun none => by
          rw [findIdxs_eq_nil.2 none] at some
          cases some
        omega

/-- A column, or without one a star, with its qualifier and the FROM clauses around it. -/
structure Reference where
  clauses : List (List RangeVariable)
  qualifier : List String
  column? : Option String

def Reference.found (x : Reference) : List Spot := QueryBridge.found x.qualifier x.clauses

def Reference.shortName (x : Reference) : List String := x.qualifier.drop (x.qualifier.length - 1)

def Sighting.reference? (x : Sighting) : Option Reference :=
  match x.leaf? with
  | some (.column (part :: rest) name) => some ⟨x.clauses, part :: rest, some name⟩
  | some (.star (part :: rest)) => some ⟨x.clauses, part :: rest, none⟩
  | _ => none

def Reference.leaf (x : Reference) : Expr :=
  match x.column? with
  | some name => .column x.qualifier name
  | none => .star x.qualifier

theorem Sighting.leaf_of_reference {x : Sighting} {ref : Reference} (h : x.reference? = some ref) :
    x.clauses = ref.clauses ∧ x.leaf? = some ref.leaf ∧ ref.qualifier ≠ [] := by
  unfold reference? at h
  split at h
  · rename_i part rest name leaf
    cases h
    exact ⟨rfl, leaf, List.cons_ne_nil part rest⟩
  · rename_i part rest leaf
    cases h
    exact ⟨rfl, leaf, List.cons_ne_nil part rest⟩
  · cases h

def Query.references (v : Visibility) (q : Query) : List Reference :=
  (q.sightings v).filterMap Sighting.reference?

theorem resolved_of_found {xs : List Reference} (h : ∀ spots ∈ xs.map Reference.found, spots.length = 1) :
    ∀ x ∈ xs, ∃ p, x.found = [p] :=
  fun _ present => List.length_eq_one_iff.1 (h _ (List.mem_map_of_mem present))

end QueryBridge
