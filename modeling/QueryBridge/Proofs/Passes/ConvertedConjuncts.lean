import QueryBridge.Proofs.Passes.GeneratedNames

set_option autoImplicit false

namespace QueryBridge.Passes

/-- A list made of two others, each in its order. -/
inductive Interleaved {α : Type} : List α → List α → List α → Prop
  | nil : Interleaved [] [] []
  | left {a whole as bs} : Interleaved whole as bs → Interleaved (a :: whole) (a :: as) bs
  | right {b whole as bs} : Interleaved whole as bs → Interleaved (b :: whole) as (b :: bs)

/-- The qualifier ends in the name of a relation outside that the subquery does not name anew. -/
def Sides.Outward (s : Sides) (qualifier : List String) : Prop :=
  ∃ name, qualifier.getLast? = some name ∧ name ∈ s.outer ∧ name ∉ s.inner

theorem Sides.isOuter_iff {s : Sides} {qualifier : List String} :
    s.isOuter qualifier ↔ s.Outward qualifier := by
  simp [Sides.isOuter, Sides.Outward, Option.any_eq_true]

/-- The equality of the two sides, either of which can stand on the left. -/
inductive Key.Equates (key : Key) : Expr → Prop
  | inner : key.Equates (.binary .eq key.inner key.outer)
  | outer : key.Equates (.binary .eq key.outer key.inner)

/-- One side is made of columns from outside, the other has none of them. -/
structure Sides.Links (s : Sides) (key : Key) : Prop where
  column : key.outer.columnQualifiers ≠ []
  outer : ∀ qualifier ∈ key.outer.columnQualifiers, s.Outward qualifier
  inner : ∀ qualifier ∈ key.inner.columnQualifiers, ¬ s.Outward qualifier

/-- Conditions as keys and others that are no keys. -/
structure Sides.Divides (s : Sides) (conditions : List Expr) (keys : List Key) (others : List Expr) :
    Prop where
  merged : ∃ equalities, Interleaved conditions equalities others ∧
    List.Forall₂ Key.Equates keys equalities
  linked : ∀ key ∈ keys, s.Links key
  unlinked : ∀ e ∈ others, ∀ key : Key, key.Equates e → ¬ s.Links key

section

variable {sides : Sides}

theorem Sides.links_iff {key : Key} :
    sides.Links key ↔ sides.onlyOuter key.outer ∧ sides.noOuter key.inner := by
  simp only [Sides.onlyOuter, Sides.noOuter, Bool.and_eq_true, Bool.not_eq_true', List.isEmpty_eq_false_iff,
    List.all_eq_true, List.any_eq_false, Sides.isOuter_iff]
  constructor
  · rintro ⟨column, outer, inner⟩
    exact ⟨⟨column, outer⟩, inner⟩
  · rintro ⟨⟨column, outer⟩, inner⟩
    exact ⟨column, outer, inner⟩

theorem Sides.Links.one_way {key : Key} (h : sides.Links key) : ¬ sides.Links ⟨key.outer, key.inner⟩ := by
  intro back
  obtain ⟨qualifier, hq⟩ := List.exists_mem_of_ne_nil _ h.column
  exact back.inner qualifier hq (h.outer qualifier hq)

theorem Sides.key?_eq_some_iff {e : Expr} {key : Key} :
    sides.key? e = some key ↔ key.Equates e ∧ sides.Links key := by
  constructor
  · intro h
    obtain ⟨form, links⟩ := key?_eq_some h
    refine ⟨?_, links_iff.2 links⟩
    rcases form with rfl | rfl
    · exact .inner
    · exact .outer
  · rintro ⟨equates, links⟩
    obtain ⟨outer, inner⟩ := links_iff.1 links
    cases equates with
    | inner =>
      have other : ¬ (sides.onlyOuter key.inner ∧ sides.noOuter key.outer) :=
        fun back => links.one_way (links_iff.2 back)
      simp [Sides.key?, other, outer, inner]
    | outer => simp [Sides.key?, outer, inner]

theorem Sides.key?_eq_none_iff {e : Expr} :
    sides.key? e = none ↔ ∀ key : Key, key.Equates e → ¬ sides.Links key := by
  simp only [Option.eq_none_iff_forall_ne_some, ne_eq, key?_eq_some_iff, not_and]

theorem Sides.divides_iff {conditions : List Expr} {keys : List Key} {others : List Expr} :
    sides.Divides conditions keys others ↔
      keys = sides.keys conditions ∧ others = sides.others conditions := by
  constructor
  · rintro ⟨⟨equalities, merged, equate⟩, linked, unlinked⟩
    -- A condition that is the equality of a key cannot be among the others, and the other way round.
    induction merged generalizing keys with
    | nil =>
      cases equate
      exact ⟨rfl, rfl⟩
    | left _ ih =>
      cases equate with
      | cons equates equate =>
        rw [List.forall_mem_cons] at linked
        have found := key?_eq_some_iff.2 ⟨equates, linked.1⟩
        obtain ⟨rfl, rfl⟩ := ih linked.2 unlinked equate
        exact ⟨(keys_cons_some found _).symm, (others_cons_some found _).symm⟩
    | right _ ih =>
      rw [List.forall_mem_cons] at unlinked
      have found := key?_eq_none_iff.2 unlinked.1
      obtain ⟨rfl, rfl⟩ := ih linked unlinked.2 equate
      exact ⟨(keys_cons_none found _).symm, (others_cons_none found _).symm⟩
  · rintro ⟨rfl, rfl⟩
    induction conditions with
    | nil => exact ⟨⟨[], .nil, .nil⟩, by simp [Sides.keys], by simp [Sides.others]⟩
    | cons e es ih =>
      obtain ⟨⟨equalities, merged, equate⟩, linked, unlinked⟩ := ih
      cases found : sides.key? e with
      | some key =>
        obtain ⟨equates, links⟩ := key?_eq_some_iff.1 found
        rw [keys_cons_some found, others_cons_some found]
        exact ⟨⟨e :: equalities, .left merged, .cons equates equate⟩,
          List.forall_mem_cons.2 ⟨links, linked⟩, unlinked⟩
      | none =>
        rw [keys_cons_none found, others_cons_none found]
        exact ⟨⟨equalities, .right merged, equate⟩, linked,
          List.forall_mem_cons.2 ⟨key?_eq_none_iff.1 found, unlinked⟩⟩

end

/-- The keys of a subquery, each once, where its other conditions hold. -/
def distinctKeys (select : Select) (keys : List Key) (others : List Expr) : Query where
  ctes := []
  recursive := false
  body := .select {
    distinct := true
    projection := keys.mapIdx fun i key => ⟨key.inner, some s!"__corr_{i}"⟩
    sources := select.sources
    selection := Expr.conjunction? others
    groupBy := []
    having := none }
  orderBy := []
  limit := none
  offset := none

/-- A subquery of an EXISTS that a join can replace in a SELECT over the relations `outer`: a SELECT with
nothing around it and with keys, which refers to the outside in its keys only. -/
structure Replacement (outer : List String) where
  recursive : Bool
  select : Select
  sources : select.sources ≠ []
  ungrouped : select.groupBy = []
  unfiltered : select.having = none
  keys : List Key
  others : List Expr
  divides : (Sides.mk outer (relationNames select.sources)).Divides (whereConjuncts select) keys others
  keyed : keys ≠ []
  bound : hasUnboundQualifier (distinctKeys select keys others) = false

namespace Replacement

variable {outer : List String} (r : Replacement outer)

def query : Query := ⟨[], r.recursive, .select r.select, [], none, none⟩

def condition : Expr := .exists r.query false

def table : Query := distinctKeys r.select r.keys r.others

/-- The outer side of each key equals its column of the table. -/
def equations (label : String) : List Expr :=
  r.keys.mapIdx fun i key => .binary .eq key.outer (.column [label] s!"__corr_{i}")

theorem equations_conjoin (label : String) : (Expr.conjunction? (r.equations label)).isSome := by
  rw [conjunction?_isSome, equations]
  simpa using r.keyed

def join (label : String) : Join where
  type := .inner
  relation := .derived r.table (some ⟨label, []⟩)
  constraint := .on ((Expr.conjunction? (r.equations label)).get (r.equations_conjoin label))

end Replacement

section

variable {outer : List String} {n k : Nat}

theorem plainSelect?_query (r : Replacement outer) : plainSelect? r.query = some r.select := by
  have nonempty : r.select.sources.isEmpty = false := by simpa using r.sources
  simp [plainSelect?, Replacement.query, Query.select?, nonempty, r.ungrouped, r.unfiltered]

theorem Replacement.keys_eq (r : Replacement outer) :
    r.keys = keysOf outer r.select ∧ r.others = othersOf outer r.select :=
  Sides.divides_iff.1 r.divides

theorem Replacement.table_eq (r : Replacement outer) : r.table = keyTable outer r.select := by
  rw [keyTable, ← r.keys_eq.1, ← r.keys_eq.2]
  rfl

theorem Replacement.equations_eq (r : Replacement outer) (label : String) :
    r.equations label = keyConditions label (keysOf outer r.select) := by
  rw [← r.keys_eq.1]
  rfl

theorem Replacement.conjuncts_condition (r : Replacement outer) (label : String)
    {condition : Expr} (h : Expr.conjunction? (r.equations label) = some condition) :
    condition.conjuncts = r.equations label := by
  have single : ∀ e ∈ r.equations label, e.conjuncts = [e] := by
    intro e he
    obtain ⟨i, hi, rfl⟩ := List.mem_mapIdx.1 he
    rfl
  have all := Expr.conjuncts_conjunction? single
  rwa [h] at all

theorem semiJoin?_eq_some_iff {label : String} {q : Query} {join : Join} :
    semiJoin? label outer q = some join ↔ ∃ r : Replacement outer, r.query = q ∧ r.join label = join := by
  rw [semiJoin?_eq_some]
  constructor
  · rintro ⟨s, condition, hs, bound, hc, rfl⟩
    obtain ⟨⟨recursive, rfl⟩, sources, ungrouped, unfiltered⟩ := plainSelect?_eq_some hs
    have keyed : keysOf outer s ≠ [] := by
      intro none
      simp [none, keyConditions, Expr.conjunction?] at hc
    refine ⟨⟨recursive, s, sources, ungrouped, unfiltered, keysOf outer s, othersOf outer s,
      Sides.divides_iff.2 ⟨rfl, rfl⟩, keyed, bound⟩, rfl, ?_⟩
    have conjoined := Option.get_of_eq_some (Option.isSome_of_eq_some hc) hc
    exact congrArg (fun c => Join.mk .inner (.derived (keyTable outer s) (some ⟨label, []⟩)) (.on c))
      conjoined
  · rintro ⟨r, rfl, rfl⟩
    have conjoined : Expr.conjunction? (keyConditions label (keysOf outer r.select)) =
        some ((Expr.conjunction? (r.equations label)).get (r.equations_conjoin label)) := by
      rw [← r.equations_eq, Option.some_get]
    refine ⟨r.select, _, plainSelect?_query r, ?_, conjoined, ?_⟩
    · rw [keyTable, ← r.keys_eq.1, ← r.keys_eq.2]
      exact r.bound
    · rw [Replacement.join, r.table_eq]

theorem isSemiJoin_iff {e : Expr} : isSemiJoin outer e ↔ ∃ r : Replacement outer, r.condition = e := by
  constructor
  · intro h
    unfold isSemiJoin at h
    split at h
    · obtain ⟨join, hj⟩ := Option.isSome_iff_exists.1 h
      obtain ⟨r, rfl, -⟩ := semiJoin?_eq_some_iff.1 hj
      exact ⟨r, rfl⟩
    · cases h
  · rintro ⟨r, rfl⟩
    exact isSemiJoin_of_some (semiJoin?_eq_some_iff.2 ⟨r, rfl, rfl⟩ : semiJoin? (existsName 0) _ _ = _)

theorem isSemiJoin_eq_false_iff {e : Expr} :
    isSemiJoin outer e = false ↔ ∀ r : Replacement outer, r.condition ≠ e := by
  rw [← Bool.not_eq_true, isSemiJoin_iff, not_exists]

theorem Converted.interleaved {es kept : List Expr} {joins : List Join}
    (h : Converted outer n es joins kept k) : ∃ replaced : List (Replacement outer),
      Interleaved es kept (replaced.map (·.condition)) ∧
      joins = (replaced.mapIdx fun i r => r.join (existsName (n + i))) ∧ k = n + replaced.length := by
  induction h with
  | nil => exact ⟨[], .nil, rfl, rfl⟩
  | @join n k q join es joins kept hj _ ih =>
    obtain ⟨r, rfl, rfl⟩ := semiJoin?_eq_some_iff.1 hj
    obtain ⟨replaced, whole, rfl, rfl⟩ := ih
    refine ⟨r :: replaced, .right whole, ?_, ?_⟩
    · rw [List.mapIdx_cons]
      simp only [Nat.add_zero, Nat.add_assoc, Nat.add_comm 1]
    · rw [List.length_cons]
      omega
  | keep _ _ ih =>
    obtain ⟨replaced, whole, rest⟩ := ih
    exact ⟨replaced, .left whole, rest⟩

end

/-- The SELECT has conditions and one FROM item to take joins, and no star that would take in their columns. -/
structure TakesJoins (s : Select) (item : FromItem) (condition : Expr) : Prop where
  source : s.sources = [item]
  selection : s.selection = some condition
  starless : ∀ selected ∈ s.projection, selected.expr ≠ .star []

theorem hasBareStar_eq_false_iff {s : Select} :
    hasBareStar s = false ↔ ∀ selected ∈ s.projection, selected.expr ≠ .star [] := by
  rw [hasBareStar, List.any_eq_false]
  refine forall₂_congr fun selected _ => ?_
  split
  · rename_i star
    simp [star]
  · rename_i other
    simpa using other

/-- No condition of the SELECT can give way to a join. -/
def NothingToReplace (s : Select) : Prop :=
  ∀ item condition, TakesJoins s item condition →
    ∀ r : Replacement (relationNames s.sources), r.condition ∉ condition.conjuncts

theorem TakesJoins.whereConjuncts_eq {s : Select} {item : FromItem} {condition : Expr}
    (opens : TakesJoins s item condition) : whereConjuncts s = condition.conjuncts := by
  rw [whereConjuncts, opens.selection]
  rfl

theorem hasSemiJoin_iff {s : Select} : hasSemiJoin s ↔ ∃ item condition, TakesJoins s item condition ∧
    ∃ r : Replacement (relationNames s.sources), r.condition ∈ condition.conjuncts := by
  simp only [hasSemiJoin, Bool.and_eq_true, beq_iff_eq, Bool.not_eq_true', List.any_eq_true, isSemiJoin_iff]
  constructor
  · rintro ⟨⟨one, starless⟩, e, he, r, rfl⟩
    obtain ⟨item, source⟩ := List.length_eq_one_iff.1 one
    cases selection : s.selection with
    | none => simp [whereConjuncts, selection] at he
    | some condition =>
      have opens : TakesJoins s item condition := ⟨source, selection, hasBareStar_eq_false_iff.1 starless⟩
      exact ⟨item, condition, opens, r, opens.whereConjuncts_eq ▸ he⟩
  · rintro ⟨item, condition, opens, r, present⟩
    rw [opens.whereConjuncts_eq]
    have one : s.sources.length = 1 := by rw [opens.source]; rfl
    exact ⟨⟨one, hasBareStar_eq_false_iff.2 opens.starless⟩, _, present, r, rfl⟩

theorem hasSemiJoin_eq_false_iff {s : Select} : hasSemiJoin s = false ↔ NothingToReplace s := by
  rw [← Bool.not_eq_true, hasSemiJoin_iff]
  simp only [not_exists, not_and, NothingToReplace]

/-- A SELECT whose parts are rewritten stays as it is if nothing in it can be replaced. Else its conditions
are those that stay and those that give way to joins, which number on from those made before. -/
theorem conditions_dealt_out (a : Select) (n : Nat) :
    let (s, j) := (a.rewriteParts decorrelated ()).run n
    let outer := relationNames s.sources
    (a.rewrite decorrelated ()).run n = (s, j) ∧
        (∀ item condition, TakesJoins s item condition →
          ∀ r : Replacement outer, r.condition ∉ condition.conjuncts) ∨
      ∃ item condition kept, ∃ replaced : List (Replacement outer),
        TakesJoins s item condition ∧ replaced ≠ [] ∧
        Interleaved condition.conjuncts kept (replaced.map (·.condition)) ∧
        (∀ r : Replacement outer, r.condition ∉ kept) ∧
        (a.rewrite decorrelated ()).run n =
          ({ s with
              sources := [{ item with
                joins := item.joins ++ replaced.mapIdx fun i r => r.join s!"__exists_{j + i}" }]
              selection := Expr.conjunction? kept },
            j + replaced.length) := by
  have outcome : Yields (a.rewrite decorrelated ()) n ((a.rewrite decorrelated ()).run n).1
      ((a.rewrite decorrelated ()).run n).2 := yields_state.2 rfl
  obtain ⟨s, j, parts, leave⟩ := Select.yields_rewrite.1 outcome
  have parts : (a.rewriteParts decorrelated ()).run n = (s, j) := yields_state.1 parts
  rw [parts]
  generalize (a.rewrite decorrelated ()).run n = result at leave ⊢
  obtain ⟨b, k⟩ := result
  cases decorrelateSelect_left leave with
  | same none => exact .inl ⟨rfl, hasSemiJoin_eq_false_iff.1 none⟩
  | joined source selection star busy conv =>
    rename_i item condition joins kept
    obtain ⟨replaced, whole, rfl, rfl⟩ := conv.interleaved
    have opens : TakesJoins s item condition := ⟨source, selection, hasBareStar_eq_false_iff.1 star⟩
    refine .inr ⟨item, condition, kept, replaced, opens, ?_, whole, ?_, rfl⟩
    · rintro rfl
      exact busy rfl
    · intro r stays
      exact isSemiJoin_eq_false_iff.1 (conv.kept _ stays).2 r rfl

end QueryBridge.Passes
