import Mathlib.Algebra.GroupWithZero.Nat
import QueryBridge.Proofs.Passes.Projections
import QueryBridge.Proofs.Tree.NodeLists

set_option autoImplicit false

namespace QueryBridge.Passes

section

variable {τ : Type}

theorem flatMap_mapIdx {α β γ : Type} {f : Nat → α → β} {g : β → List γ} {h : α → List γ}
    (same : ∀ i a, g (f i a) = h a) (as : List α) : (as.mapIdx f).flatMap g = as.flatMap h := by
  induction as generalizing f with
  | nil => rfl
  | cons a as ih =>
    rw [List.mapIdx_cons, List.flatMap_cons, List.flatMap_cons, same 0 a, ih fun i a => same (i + 1) a]

def keySelect (outer : List String) (s : Select) : Select :=
  { Select.empty with
    distinct := true, projection := keyItems (keysOf outer s), sources := s.sources
    selection := Expr.conjunction? (othersOf outer s) }

theorem keyTable_eq (outer : List String) (s : Select) :
    keyTable outer s = ⟨[], false, .select (keySelect outer s), [], none, none⟩ := rfl

theorem whereConjuncts_keySelect (outer : List String) (s : Select) :
    whereConjuncts (keySelect outer s) = othersOf outer s := by
  refine Expr.conjuncts_conjunction? fun e he => ?_
  have inWhere : e ∈ whereConjuncts s := List.mem_of_mem_filter he
  unfold whereConjuncts at inWhere
  cases hw : s.selection with
  | none => simp [hw] at inWhere
  | some condition => exact Expr.conjuncts_of_mem (by simpa [hw] using inWhere)

variable (v : Scoping τ) (t : τ)

theorem nodesOfSources_single (item : FromItem) (joins : List Join) :
    nodesOfSources v t [{ item with joins := item.joins ++ joins }] =
      nodesOfSources v t [item] ++ joins.flatMap (·.nodes v t) := by
  obtain ⟨relation, present⟩ := item
  simp [nodesOfSources, FromItem.nodes, nodesOfJoins_eq]

theorem nodesOfItems_keyItems (keys : List Key) :
    nodesOfItems v t (keyItems keys) = keys.flatMap (·.inner.nodes v t) := by
  rw [nodesOfItems_eq, keyItems]
  refine flatMap_mapIdx ?_ keys
  intro i key
  rfl

theorem mem_key_nodes {outer : List String} {s : Select} {key : Key} (hk : key ∈ keysOf outer s)
    {x : Node τ} (hx : x ∈ key.inner.nodes v t ∨ x ∈ key.outer.nodes v t) : x ∈ s.parts v t := by
  obtain ⟨e, he, hkey⟩ := List.mem_filterMap.1 hk
  refine mem_parts_of_whereConjunct he ?_
  rcases (key?_eq_some hkey).1 with rfl | rfl
  · rw [Expr.nodes, List.mem_append]
    exact hx
  · rw [Expr.nodes, List.mem_append]
    exact hx.symm

theorem mem_others_nodes {outer : List String} {s : Select} {e : Expr} (he : e ∈ othersOf outer s)
    {x : Node τ} (hx : x ∈ e.nodes v t) : x ∈ s.parts v t :=
  mem_parts_of_whereConjunct (List.mem_of_mem_filter he) hx

theorem keySelect_parts (outer : List String) (s : Select) :
    (keySelect outer s).parts v t = (keysOf outer s).flatMap (·.inner.nodes v t)
      ++ (nodesOfSources v t s.sources ++ (othersOf outer s).flatMap (·.nodes v t)) := by
  simp [keySelect, Select.parts, Select.empty, nodesOfItems_keyItems, nodesOfOption_conjunction?,
    nodesOfExprs, nodesOfOption]

/-- The nodes of a join for the subquery `q` of the SELECT `s`. -/
inductive Brought (label : String) (outer : List String) (q : Query) (s : Select) : Node τ → Prop
  | relation : Brought label outer q s (.relation t (.derived (keyTable outer s) (some ⟨label, []⟩)))
  | query : Brought label outer q s (.query (v.enterQuery t q) (keyTable outer s))
  | select : Brought label outer q s
      (.select (v.enterSelect (v.enterQuery t q) s) (keySelect outer s))
  | part {x} : x ∈ s.parts v (v.enterSelect (v.enterQuery t q) s) → Brought label outer q s x
  | outerKey {key x} : key ∈ keysOf outer s → x ∈ key.outer.nodes v t → Brought label outer q s x
  | innerKey (i : Nat) : i < (keysOf outer s).length →
      Brought label outer q s (.leaf t (.qualified label (corrName i)))

variable {v t}

theorem mem_condition_nodes {label : String} {keys : List Key} {condition : Expr}
    (h : Expr.conjunction? (keyConditions label keys) = some condition) {x : Node τ}
    (hx : x ∈ condition.nodes v t) : (∃ key ∈ keys, x ∈ key.outer.nodes v t) ∨
      ∃ i < keys.length, x = .leaf t (.qualified label (corrName i)) := by
  have all := nodesOfOption_conjunction? v t (keyConditions label keys)
  rw [h, nodesOfOption] at all
  rw [all] at hx
  obtain ⟨e, he, hx⟩ := List.mem_flatMap.1 hx
  obtain ⟨i, hi, rfl⟩ := List.mem_mapIdx.1 he
  rw [Expr.equals, Expr.nodes, List.mem_append] at hx
  rcases hx with hx | hx
  · exact .inl ⟨_, List.getElem_mem hi, hx⟩
  · rw [Expr.qualified, Expr.nodes, List.mem_singleton] at hx
    exact .inr ⟨i, hi, hx⟩

theorem mem_join_nodes (hv : v.SeesSources) {label : String} {outer : List String} {q : Query}
    {join : Join} (h : semiJoin? label outer q = some join) {x : Node τ} (hx : x ∈ join.nodes v t) :
    ∃ s, plainSelect? q = some s ∧ Brought v t label outer q s x := by
  obtain ⟨s, condition, hs, -, hc, rfl⟩ := semiJoin?_eq_some.1 h
  refine ⟨s, hs, ?_⟩
  obtain ⟨⟨recursive, rfl⟩, -⟩ := plainSelect?_eq_some hs
  have enterQuery := hv.query t (keyTable outer s) ⟨[], recursive, .select s, [], none, none⟩ rfl
  have enterSelect := hv.select (v.enterQuery t ⟨[], recursive, .select s, [], none, none⟩)
    (keySelect outer s) s rfl
  rw [Join.nodes, List.mem_append, Relation.nodes, List.mem_cons, keyTable_eq, nodes_plainQuery,
    ← keyTable_eq, enterQuery, enterSelect, List.mem_cons, List.mem_cons, keySelect_parts,
    JoinConstraint.nodes] at hx
  rcases hx with (rfl | rfl | rfl | inner) | condition'
  · exact .relation
  · exact .query
  · exact .select
  · refine .part ?_
    simp only [List.mem_append, List.mem_flatMap] at inner
    rcases inner with ⟨key, hk, hx⟩ | hx | ⟨e, he, hx⟩
    · exact mem_key_nodes v _ hk (.inl hx)
    · simp [Select.parts, hx]
    · exact mem_others_nodes v _ he hx
  · rcases mem_condition_nodes hc condition' with ⟨key, hk, hx⟩ | ⟨i, hi, rfl⟩
    · exact .outerKey hk hx
    · exact .innerKey i hi

theorem Left.part_or_join {n k : Nat} {a b : Select} (h : Left n a b k) {x : Node τ} (hx : x ∈ b.parts v t) :
    x ∈ a.parts v t ∨ ∃ item ∈ b.sources, ∃ join ∈ item.joins, ∃ i q, n ≤ i ∧ i < k ∧
      .exists q false ∈ whereConjuncts a ∧
      semiJoin? (existsName i) (relationNames a.sources) q = some join ∧ x ∈ join.nodes v t := by
  cases h with
  | same => exact .inl hx
  | joined hs hw star busy conv =>
    simp only [Select.parts, nodesOfSources_single, nodesOfOption_conjunction?, List.mem_append,
      List.mem_flatMap] at hx
    rcases hx with hp | (hf | ⟨join, hj, hx⟩) | ⟨e, he, hx⟩ | hg | hh
    · exact .inl (by simp [Select.parts, hp])
    · exact .inl (by simp [Select.parts, hs, hf])
    · obtain ⟨q, i, hq, low, high, hi⟩ := conv.joins join hj
      exact .inr ⟨_, List.mem_singleton_self _, join, List.mem_append_right _ hj, i, q, low, high,
        by simpa [whereConjuncts, hw] using hq, hi, hx⟩
    · refine .inl (mem_parts_of_whereConjunct ?_ hx)
      simpa [whereConjuncts, hw] using (conv.kept e he).1
    · exact .inl (by simp [Select.parts, hg])
    · exact .inl (by simp [Select.parts, hh])

theorem Left.mem_parts (hv : v.SeesSources) {n k : Nat} {a b : Select} (h : Left n a b k) {x : Node τ}
    (hx : x ∈ b.parts v t) : x ∈ a.parts v t ∨ ∃ i q s, n ≤ i ∧ i < k ∧
      .exists q false ∈ whereConjuncts a ∧ plainSelect? q = some s ∧
      Brought v t (existsName i) (relationNames a.sources) q s x := by
  rcases h.part_or_join hx with old | ⟨item, -, join, -, i, q, low, high, hq, hi, hx⟩
  · exact .inl old
  · obtain ⟨s, hs, brought⟩ := mem_join_nodes hv hi hx
    exact .inr ⟨i, q, s, low, high, hq, hs, brought⟩

end

def total (w : Node Unit → Nat) (nodes : List (Node Unit)) : Nat := (nodes.map w).sum

section

variable (w : Node Unit → Nat)

@[simp] theorem total_nil : total w [] = 0 := rfl

@[simp] theorem total_cons (x : Node Unit) (L : List (Node Unit)) : total w (x :: L) = w x + total w L := rfl

@[simp] theorem total_append (L M : List (Node Unit)) : total w (L ++ M) = total w L + total w M := by
  simp [total]

theorem total_split (sides : Sides) (es : List Expr) :
    total w ((sides.keys es).flatMap (·.inner.nodes .unscoped ()))
      + total w ((sides.keys es).flatMap (·.outer.nodes .unscoped ()))
      + total w ((sides.others es).flatMap (·.nodes .unscoped ()))
      = total w (es.flatMap (·.nodes .unscoped ())) := by
  induction es with
  | nil => rfl
  | cons e es ih =>
    cases found : sides.key? e with
    | none =>
      rw [Sides.keys_cons_none found, Sides.others_cons_none found, List.flatMap_cons, List.flatMap_cons,
        total_append, total_append]
      omega
    | some key =>
      have parts : total w (e.nodes .unscoped ()) =
          total w (key.inner.nodes .unscoped ()) + total w (key.outer.nodes .unscoped ()) := by
        rcases (key?_eq_some found).1 with rfl | rfl
        · rw [Expr.nodes, total_append]
        · rw [Expr.nodes, total_append, Nat.add_comm]
      rw [Sides.keys_cons_some found, Sides.others_cons_some found, List.flatMap_cons, List.flatMap_cons,
        List.flatMap_cons, total_append, total_append, total_append, parts]
      omega

variable {w} (leafless : ∀ e, w (.leaf () e) = 0)

include leafless

theorem total_keyConditions (label : String) (keys : List Key) :
    total w ((keyConditions label keys).flatMap (·.nodes .unscoped ())) =
      total w (keys.flatMap (·.outer.nodes .unscoped ())) := by
  unfold keyConditions
  generalize corrName = name
  induction keys generalizing name with
  | nil => rfl
  | cons key keys ih =>
    rw [List.mapIdx_cons, List.flatMap_cons, List.flatMap_cons, total_append, total_append,
      ih fun i => name (i + 1)]
    simp [Expr.equals, Expr.qualified, Expr.nodes, leafless]

theorem total_join {label : String} {outer : List String} {q : Query} {join : Join}
    (h : semiJoin? label outer q = some join) : ∃ s, plainSelect? q = some s ∧
      total w (join.nodes .unscoped ()) ≤ w (.relation () (.derived (keyTable outer s) (some ⟨label, []⟩)))
        + w (.query () (keyTable outer s)) + w (.select () (keySelect outer s))
        + total w (s.parts .unscoped ()) := by
  obtain ⟨s, condition, hs, -, hc, rfl⟩ := semiJoin?_eq_some.1 h
  refine ⟨s, hs, ?_⟩
  have conditions : total w (condition.nodes .unscoped ()) =
      total w ((keysOf outer s).flatMap (·.outer.nodes .unscoped ())) := by
    have all := nodesOfOption_conjunction? Scoping.unscoped () (keyConditions label (keysOf outer s))
    rw [hc, nodesOfOption] at all
    rw [all, total_keyConditions leafless]
  have split := total_split w ⟨outer, relationNames s.sources⟩ (whereConjuncts s)
  rw [whereConjuncts_nodes] at split
  rw [Join.nodes, Relation.nodes, keyTable_eq, nodes_plainQuery, JoinConstraint.nodes, keySelect_parts,
    Select.parts]
  simp only [List.cons_append, total_cons, total_append, conditions, unscoped_enterQuery,
    unscoped_enterSelect]
  simp only [keysOf, othersOf] at split ⊢
  omega

omit leafless in
theorem total_plainQuery {q : Query} {s : Select} (h : plainSelect? q = some s) :
    total w (q.nodes .unscoped ()) = w (.query () q) + w (.select () s) + total w (s.parts .unscoped ()) := by
  obtain ⟨⟨recursive, rfl⟩, -⟩ := plainSelect?_eq_some h
  rw [nodes_plainQuery, total_cons, total_cons, Nat.add_assoc]

end

section

variable {w : Node Unit → Nat} {f : Nat → Nat} {outer : List String} {n k : Nat}

/-- The `i`-th join brings at most what `f` grows by. -/
def JoinsCost (w : Node Unit → Nat) (f : Nat → Nat) : Prop :=
  ∀ {outer i q join}, semiJoin? (existsName i) outer q = some join →
    total w (join.nodes .unscoped ()) + f i ≤ total w (q.nodes .unscoped ()) + f (i + 1)

theorem Converted.total_le (cost : JoinsCost w f) {es kept : List Expr} {joins : List Join}
    (h : Converted outer n es joins kept k) :
    total w (joins.flatMap (·.nodes .unscoped ())) + total w (kept.flatMap (·.nodes .unscoped ())) + f n ≤
      total w (es.flatMap (·.nodes .unscoped ())) + f k := by
  induction h with
  | nil => exact Nat.le_refl _
  | join hj _ ih =>
    have one := cost hj
    simp only [List.flatMap_cons, total_append, Expr.nodes]
    omega
  | keep _ _ ih =>
    simp only [List.flatMap_cons, total_append]
    omega

theorem Left.total_le (cost : JoinsCost w f) {a b : Select} (h : Left n a b k) :
    total w (b.parts .unscoped ()) + f n ≤ total w (a.parts .unscoped ()) + f k := by
  cases h with
  | same => exact Nat.le_refl _
  | joined hs hw star busy conv =>
    have conjuncts := conv.total_le cost
    have where_ := whereConjuncts_nodes Scoping.unscoped () a
    simp only [whereConjuncts, hw, Option.map_some, Option.getD_some] at where_
    simp only [Select.parts, total_append, nodesOfSources_single, nodesOfOption_conjunction?, ← hs, hw,
      ← where_]
    omega

end

theorem decorrelated_keepsLeaves : decorrelated.KeepsLeaves := by
  intro env n k e e' he hy
  obtain ⟨rfl, rfl⟩ := Outcomes.yields_pure.1 hy
  exact he

theorem Left.starColumns {n k : Nat} {a b : Select} (h : Left n a b k) : starColumns b = starColumns a := by
  cases h <;> rfl

theorem decorrelated_keepsProjections : KeepsProjections decorrelated where
  leaves := decorrelated_keepsLeaves
  star hy := by rw [(Outcomes.yields_pure.1 hy).1]
  select hy := (decorrelateSelect_left hy).starColumns
  query hy := by rw [(Outcomes.yields_pure.1 hy).1]

end QueryBridge.Passes
