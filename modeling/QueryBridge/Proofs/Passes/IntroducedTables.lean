import QueryBridge.Proofs.Passes.ConvertedConjuncts
import QueryBridge.Proofs.Passes.Decorrelation
import QueryBridge.Proofs.Passes.UnboundQualifiers

set_option autoImplicit false

/-! The table of a join stands in a FROM clause, where it cannot see the relations next to it. Nor does
it have to: what referred to them went into the condition of the join. Later joins take FROM clauses
over as they are, so this stays true for the tables of earlier ones. -/

namespace QueryBridge.Passes

/-- Every qualified reference inside the query has a part that names a relation of a FROM clause around it,
which is inside the query too. -/
def Uncorrelated (q : Query) : Prop :=
  ∀ path qualifier, RefersAt q path qualifier → qualifier ≠ [] →
    ∃ s ∈ (Subtree.query q).enclosing path, ∃ part ∈ qualifier, BringsName s.sources part

theorem uncorrelated_of_bound {q : Query} (h : hasUnboundQualifier q = false) : Uncorrelated q := by
  intro path qualifier refers qualified
  obtain ⟨e, at_path, refers⟩ := refersAt_iff.1 refers
  rw [hasUnboundQualifier, List.any_eq_false] at h
  have bound := h _ ((mem_occurrences_iff refers).2 ⟨path, at_path, rfl⟩)
  simp only [isUnbound_iff, not_exists, not_and, not_forall, not_not] at bound
  obtain ⟨part, mem, named⟩ := bound qualifier refers qualified
  obtain ⟨s, hs, inside⟩ := List.mem_flatMap.1 named
  exact ⟨s, hs, part, mem, mem_relationNames.1 inside⟩

/-- A join that the FROM clause `sources` can have without its table seeing the clause: what the conditions
say of the clause, they say of relations that the table does not name anew. -/
inductive Detached (sources : List FromItem) : Join → Prop
  | intro {label : String} {table : Query} {s : Select} {condition : Expr} :
      table.select? = some s → Uncorrelated table →
      (∀ e ∈ condition.conjuncts, ∃ outer column, e = .binary .eq outer (.column [label] column) ∧
        ∀ path qualifier name, (Subtree.expr outer).at? path = some (.expr (.column qualifier name)) →
          ∃ last, qualifier.getLast? = some last ∧
            BringsName sources last ∧ ¬ BringsName s.sources last) →
      Detached sources ⟨.inner, .derived table (some ⟨label, []⟩), .on condition⟩

theorem Sides.Links.columns_outward {sides : Sides} {key : Key} (h : sides.Links key) {path : List Nat}
    {qualifier : List String} {name : String}
    (at_path : (Subtree.expr key.outer).at? path = some (.expr (.column qualifier name))) :
    sides.Outward qualifier := by
  refine h.outer qualifier (mem_columnQualifiers.2 ⟨name, ?_⟩)
  exact Subtree.nodes_at .unscoped () at_path _ List.mem_cons_self

theorem Replacement.join_detached {sources : List FromItem} (r : Replacement (relationNames sources))
    (label : String) : Detached sources (r.join label) := by
  refine .intro (s := ⟨true, _, r.select.sources, _, [], none⟩) rfl (uncorrelated_of_bound r.bound) ?_
  rw [r.conjuncts_condition label (Option.some_get _).symm]
  intro e he
  obtain ⟨i, hi, rfl⟩ := List.mem_mapIdx.1 he
  refine ⟨_, _, rfl, fun path qualifier name at_path => ?_⟩
  obtain ⟨last, ends, outside, inside⟩ := (r.divides.linked _ (List.getElem_mem hi)).columns_outward at_path
  exact ⟨last, ends, mem_relationNames.1 outside, fun named => inside (mem_relationNames.2 named)⟩

/-- The last FROM item has more joins than before. -/
inductive JoinedTo : List Join → List FromItem → List FromItem → Prop
  | none (sources) : JoinedTo [] sources sources
  | item (item : FromItem) (joins) : JoinedTo joins [item] [{ item with joins := item.joins ++ joins }]

theorem Left.joinedTo {n k : Nat} {a b : Select} (h : Left n a b k) :
    ∃ joins, JoinedTo joins a.sources b.sources ∧ ∀ join ∈ joins, Detached a.sources join := by
  cases h with
  | same => exact ⟨[], .none _, by simp⟩
  | joined hs hw star busy conv =>
    rename_i item condition joins kept
    refine ⟨joins, by rw [hs]; exact .item item joins, fun join hj => ?_⟩
    obtain ⟨q, i, -, -, -, hi⟩ := conv.joins join hj
    obtain ⟨r, -, rfl⟩ := semiJoin?_eq_some_iff.1 hi
    exact r.join_detached _

def FromLeft (L L' : List (Node Unit)) : Prop := ∀ b, .select () b ∈ L' →
  ∃ a n, .select () a ∈ L ∧ b.sources = ((a.rewrite decorrelated ()).run n).1.sources

theorem fromLeft_select {n j k : Nat} {a a' b : Select} (ha : Yields (a.rewriteParts decorrelated ()) n a' j)
    (h : FromLeft (a.parts .unscoped ()) (a'.parts .unscoped ()))
    (hy : Yields (decorrelated.leaveSelect () a') j b k) :
    FromLeft (a.nodes .unscoped ()) (b.nodes .unscoped ()) := by
  have below : ∀ c, .select () c ∈ a'.parts .unscoped () → ∃ d i,
      .select () d ∈ a.nodes .unscoped () ∧ c.sources = ((d.rewrite decorrelated ()).run i).1.sources := by
    intro c hc
    obtain ⟨d, i, mem, same⟩ := h c hc
    rw [Select.nodes_eq]
    exact ⟨d, i, List.mem_cons_of_mem _ mem, same⟩
  intro c hc
  rw [Select.nodes_eq, List.mem_cons] at hc
  rcases hc with here | hc
  · obtain rfl : c = b := by cases here; rfl
    have outcome : Yields (a.rewrite decorrelated ()) n c k := Select.yields_rewrite.2 ⟨a', j, ha, hy⟩
    rw [Select.nodes_eq]
    exact ⟨a, n, List.mem_cons_self, by rw [yields_state.1 outcome]⟩
  · have left := yields_leaveSelect hy
    rcases left.mem_parts unscoped_seesSources hc with old | ⟨i, q, s, -, -, hq, hs, brought⟩
    · exact below c old
    · cases brought with
      | select =>
        refine below s (subquery_nodes hq hs _ ?_)
        rw [Select.nodes_eq]
        exact List.mem_cons_self
      | part hx => exact below c (subquery_parts hq hs _ hx)
      | outerKey hk hx => exact below c (subquery_parts hq hs _ (mem_key_nodes _ _ hk (.inr hx)))

theorem decorrelated_fromLeft : decorrelated.Keeps .unscoped fun _ _ _ L L' => FromLeft (L ()) (L' ()) where
  nil := fun b hb => by cases hb
  append := by
    rintro env n j k L L' M M' h h' b hb
    rcases List.mem_append.1 hb with hb | hb
    · obtain ⟨a, i, ha, same⟩ := h b hb
      exact ⟨a, i, List.mem_append_left _ ha, same⟩
    · obtain ⟨a, i, ha, same⟩ := h' b hb
      exact ⟨a, i, List.mem_append_right _ ha, same⟩
  leaf := by
    rintro env n k e e' he hy b hb
    obtain ⟨rfl, rfl⟩ := Outcomes.yields_pure.1 hy
    simp [Expr.nodes_leaf _ he] at hb
  relation := by
    rintro env n j k a a' b ha h hy c hc
    obtain ⟨rfl, rfl⟩ := Outcomes.yields_pure.1 hy
    simp only [Relation.nodes_eq, List.mem_cons, reduceCtorEq, false_or] at hc ⊢
    exact h c hc
  select := by
    rintro env n j k a a' b inner ha h hy
    exact fromLeft_select ha h hy
  query := by
    rintro env n j k a a' b inner ha h hy c hc
    obtain ⟨rfl, rfl⟩ := Outcomes.yields_pure.1 hy
    simp only [Query.nodes_eq, List.mem_cons, reduceCtorEq, false_or] at hc ⊢
    exact h c hc

/-- A SELECT is left with joins whose tables refer to nothing around them, and there is no FROM clause in
the result but those that SELECTs were left with. -/
theorem introduced_tables_uncorrelated (q : Query) :
    (∀ (a : Select) (n : Nat),
      let s := ((a.rewriteParts decorrelated ()).run n).1
      let b := ((a.rewrite decorrelated ()).run n).1
      ∃ joins, JoinedTo joins s.sources b.sources ∧ ∀ join ∈ joins, Detached s.sources join) ∧
    ∀ b, .select () b ∈ (decorrelate q).nodes .unscoped () → ∃ a n, .select () a ∈ q.nodes .unscoped () ∧
      b.sources = ((a.rewrite decorrelated ()).run n).1.sources := by
  constructor
  · intro a n
    have outcome : Yields (a.rewrite decorrelated ()) n ((a.rewrite decorrelated ()).run n).1
        ((a.rewrite decorrelated ()).run n).2 := yields_state.2 rfl
    obtain ⟨s, j, parts, leave⟩ := Select.yields_rewrite.1 outcome
    have parts : (a.rewriteParts decorrelated ()).run n = (s, j) := yields_state.1 parts
    rw [parts]
    exact (yields_leaveSelect leave).joinedTo
  · exact decorrelated_fromLeft.ascends.pieces.query_holds q (yields_state.2 rfl)

end QueryBridge.Passes
