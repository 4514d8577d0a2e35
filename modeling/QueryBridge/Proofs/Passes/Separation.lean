import QueryBridge.Proofs.Meaning.Aggregates
import QueryBridge.Proofs.Passes.GrownRows
import QueryBridge.Proofs.Passes.Origins
import QueryBridge.Proofs.Tree.NodeLists

set_option autoImplicit false

namespace QueryBridge.Passes

open Meaning

/-- A reference names one relation in scope and no join. A bare star names nothing. -/
def IsQualified (env : List String) : Expr → Prop
  | .star [] => True
  | .column qualifier _ | .star qualifier =>
    (qualifier.filter (env.contains ·)).length = 1 ∧ ∀ part ∈ qualifier, ¬ isGenerated part
  | _ => True

instance (env : List String) : DecidablePred (IsQualified env)
  | .column _ _ | .star (_ :: _) => instDecidableAnd
  | .star [] | .literal _ | .keyword _ | .unsupported _ | .binary _ _ _ | .not _ | .neg _ | .call _ _ _
  | .case _ _ _ | .subquery _ | .exists _ _ | .inList _ _ _ | .inQuery _ _ _ | .between _ _ _ _
  | .isNull _ _ | .like _ _ _ | .cast _ _ | .index _ _ | .array _ | .paren _ => .isTrue trivial

namespace IsQualified

variable {env : List String} {e : Expr} (h : IsQualified env e) {qualifier : List String} {part part' : String}
  (hq : qualifier? e = some qualifier) (hp : part ∈ qualifier)

include h hq hp

theorem parts : (qualifier.filter (env.contains ·)).length = 1 ∧ ∀ part ∈ qualifier, ¬ isGenerated part := by
  cases e with
  | column q name =>
    cases hq
    exact h
  | star q =>
    cases hq
    cases qualifier with
    | nil => cases hp
    | cons first rest => exact h
  | _ => cases hq

theorem own : ¬ isGenerated part := (h.parts hq hp).2 part hp

theorem unique (hp' : part' ∈ qualifier) (seen : part ∈ env) (seen' : part' ∈ env) : part = part' := by
  obtain ⟨name, single⟩ := List.length_eq_one_iff.1 (h.parts hq hp).1
  have named {p : String} (hp : p ∈ qualifier) (seen : p ∈ env) : p = name := by
    have kept : p ∈ qualifier.filter (env.contains ·) := List.mem_filter.2 ⟨hp, by simpa using seen⟩
    rwa [single, List.mem_singleton] at kept
  rw [named hp seen, named hp' seen']

end IsQualified

def starQualifiers (e : Expr) : List (List String) :=
  e.leaves.filterMap fun
    | .star qualifier => some qualifier
    | _ => none

def existsSelects (s : Select) : List Select :=
  (whereConjuncts s).filterMap fun
    | .exists q false => q.select?
    | _ => none

/-- No predicate takes a whole row of the relations of its SELECT. No subquery of an EXISTS has aggregate calls
in its projection, nor in its WHERE clause, where they have no meaning. -/
structure PlainPredicates (isAggregate : String → Bool) (s : Select) : Prop where
  stars : ∀ e ∈ whereConjuncts s, ∀ qualifier ∈ starQualifiers e, ∀ part ∈ qualifier,
    part ∉ relationNames s.sources
  projections : ∀ inner ∈ existsSelects s, itemsHaveAggregate isAggregate inner.projection = false
  conditions : ∀ inner ∈ existsSelects s, ∀ e ∈ whereConjuncts inner, hasAggregate isAggregate e = false

/-- Every reference says which relation it means, all relations have different names, and the predicates are
plain. -/
structure Separate (isAggregate : String → Bool) (L : List (Node (List String))) : Prop where
  qualified : ∀ x ∈ L, Node.onLeaves IsQualified x
  distinct : (namesAmong L).Nodup
  own : ∀ name ∈ namesAmong L, ¬ isGenerated name
  predicates : ∀ x ∈ L, Node.onSelects (PlainPredicates isAggregate) x

instance {isAggregate : String → Bool} : DecidablePred (PlainPredicates isAggregate) := fun s =>
  decidable_of_iff ((∀ e ∈ whereConjuncts s, ∀ qualifier ∈ starQualifiers e, ∀ part ∈ qualifier,
      part ∉ relationNames s.sources) ∧
    (∀ inner ∈ existsSelects s, itemsHaveAggregate isAggregate inner.projection = false) ∧
      ∀ inner ∈ existsSelects s, ∀ e ∈ whereConjuncts inner, hasAggregate isAggregate e = false)
    ⟨fun ⟨stars, projections, conditions⟩ => ⟨stars, projections, conditions⟩,
      fun h => ⟨h.stars, h.projections, h.conditions⟩⟩

instance {isAggregate : String → Bool} (L : List (Node (List String))) :
    Decidable (Separate isAggregate L) :=
  decidable_of_iff ((∀ x ∈ L, Node.onLeaves IsQualified x) ∧ (namesAmong L).Nodup ∧
    (∀ name ∈ namesAmong L, ¬ isGenerated name) ∧ ∀ x ∈ L, Node.onSelects (PlainPredicates isAggregate) x)
    ⟨fun ⟨qualified, distinct, own, predicates⟩ => ⟨qualified, distinct, own, predicates⟩,
      fun h => ⟨h.qualified, h.distinct, h.own, h.predicates⟩⟩

section

variable {isAggregate : String → Bool} {L M : List (Node (List String))}

theorem Separate.sublist (h : Separate isAggregate M) (sub : L.Sublist M) : Separate isAggregate L where
  qualified x hx := h.qualified x (sub.subset hx)
  distinct := h.distinct.sublist (sub.filterMap _)
  own name hn := h.own name ((sub.filterMap _).subset hn)
  predicates x hx := h.predicates x (sub.subset hx)

theorem Separate.append (h : Separate isAggregate (L ++ M)) : Separate isAggregate L ∧ Separate isAggregate M :=
  ⟨h.sublist (List.sublist_append_left L M), h.sublist (List.sublist_append_right L M)⟩

theorem Separate.tail {x : Node (List String)} (h : Separate isAggregate (x :: L)) : Separate isAggregate L :=
  h.sublist (List.sublist_cons_self x L)

theorem Separate.refer (h : Separate isAggregate L) : AllRefer (¬ isGenerated ·) L := by
  intro x hx
  cases x with
  | leaf env e =>
    exact fun qualifier hq part hp => (h.qualified _ hx : IsQualified env e).own hq hp
  | _ => trivial

end

theorem namesAmong_subset {τ : Type} {L M : List (Node τ)} (h : L ⊆ M) : namesAmong L ⊆ namesAmong M :=
  List.filterMap_subset _ h

theorem namesAmong_append {τ : Type} (L M : List (Node τ)) :
    namesAmong (L ++ M) = namesAmong L ++ namesAmong M := List.filterMap_append ..

theorem select?_sublist {τ : Type} {v : Scoping τ} {q : Query} {s : Select} (h : q.select? = some s) (t : τ) :
    (s.nodes v t).Sublist (q.parts v t) := by
  unfold Query.select? at h
  split at h
  · rename_i body
    cases h
    rw [Query.parts, body, Body.nodes]
    exact (List.sublist_append_left _ _).trans (List.sublist_append_right _ _)
  · cases h

theorem sourceNames_among {τ : Type} {v : Scoping τ} {s : Select} {name : String}
    (h : name ∈ relationNames s.sources) (t : τ) : name ∈ namesAmong (s.parts v t) := by
  have sources : nodesOfSources v t s.sources ⊆ s.parts v t := fun x hx => by simp [Select.parts, hx]
  exact namesAmong_subset sources (relationNames_among h t)

/-- References see the names around the tree, and besides these only names of its relations. -/
def Sees (L : List String → List (Node (List String))) : Prop :=
  ∀ t t' env e, .leaf env e ∈ L t → t ⊆ env ∧ ∀ name ∈ env, name ∈ t ∨ name ∈ namesAmong (L t')

theorem sees_gathers : namesInScope.Gathers Sees where
  nil t t' env e he := by cases he
  append {L M} hL hM t t' env e he := by
    rw [namesAmong_append]
    rcases List.mem_append.1 he with he | he
    · obtain ⟨around, names⟩ := hL t t' env e he
      exact ⟨around, fun name hn => (names name hn).imp_right (List.mem_append_left _)⟩
    · obtain ⟨around, names⟩ := hM t t' env e he
      exact ⟨around, fun name hn => (names name hn).imp_right (List.mem_append_right _)⟩
  leaf e _ t t' env e' he := by
    cases List.mem_singleton.1 he
    exact ⟨List.Subset.refl _, fun name hn => .inl hn⟩
  relation r parts t t' env e he := by
    obtain ⟨around, names⟩ := parts t t' env e (by simpa using he)
    exact ⟨around, fun name hn => (names name hn).imp_right fun h =>
      namesAmong_subset (List.subset_cons_self _ _) h⟩
  select s parts t t' env e he := by
    obtain ⟨around, names⟩ := parts (namesInScope.enterSelect t s) (namesInScope.enterSelect t' s) env e
      (by simpa using he)
    refine ⟨List.Subset.trans (List.subset_append_left _ _) around, fun name hn => ?_⟩
    rcases names name hn with h | h
    · exact (List.mem_append.1 h).imp_right fun h => sourceNames_among h _
    · exact .inr (namesAmong_subset (List.subset_cons_self _ _) h)
  query q parts t t' env e he := by
    obtain ⟨around, names⟩ := parts (namesInScope.enterQuery t q) (namesInScope.enterQuery t' q) env e
      (by simpa using he)
    refine ⟨List.Subset.trans (List.subset_append_left _ _) around, fun name hn => ?_⟩
    rcases names name hn with h | h
    · -- A query adds the FROM clause of its own SELECT, whose relations are among the nodes.
      refine (List.mem_append.1 h).imp_right fun h => ?_
      cases present : q.select? with
      | none => simp [present] at h
      | some s =>
        rw [present] at h
        refine namesAmong_subset (List.subset_cons_of_subset _ (select?_sublist present _).subset) ?_
        rw [Select.nodes_eq]
        exact namesAmong_subset (List.subset_cons_self _ _) (sourceNames_among h _)
    · exact .inr (namesAmong_subset (List.subset_cons_self _ _) h)

section

variable {n j k : Nat} {a a' b : Select}

theorem Left.projection_eq (h : Left n a b k) : b.projection = a.projection := by
  cases h <;> rfl

theorem Left.whereConjuncts_subset (h : Left n a b k) : whereConjuncts b ⊆ whereConjuncts a := by
  cases h with
  | same => exact List.Subset.refl _
  | joined hs hw star busy conv =>
    rename_i item condition joins kept
    intro e he
    have singles : ∀ x ∈ kept, x.conjuncts = [x] := fun x hx => Expr.conjuncts_of_mem (conv.kept x hx).1
    rw [whereConjuncts, Expr.conjuncts_conjunction? singles] at he
    simpa [whereConjuncts, hw] using (conv.kept e he).1

theorem whereConjuncts_rewrite (h : Yields (a.rewrite decorrelated ()) n b k) {e : Expr}
    (he : e ∈ whereConjuncts b) :
    ∃ e₀ ∈ whereConjuncts a, ∃ i j, Yields (e₀.rewrite decorrelated ()) i e j := by
  obtain ⟨a', j, parts, leave⟩ := Select.yields_rewrite.1 h
  exact forall₂_mem_right (whereConjuncts_rewriteParts decorrelated_keepsLeaves parts)
    ((yields_leaveSelect leave).whereConjuncts_subset he)

theorem exists_rewriteParts (h : Yields (a.rewriteParts decorrelated ()) n a' j) {q : Query} {s : Select}
    (hq : .exists q false ∈ whereConjuncts a') (hs : q.select? = some s) :
    ∃ q₀ s₀ i j, .exists q₀ false ∈ whereConjuncts a ∧ q₀.select? = some s₀ ∧
      Yields (q₀.rewrite decorrelated ()) i q j ∧ ∃ i j, Yields (s₀.rewrite decorrelated ()) i s j := by
  obtain ⟨e, he, i, j, hx⟩ :=
    forall₂_mem_right (whereConjuncts_rewriteParts decorrelated_keepsLeaves h) hq
  obtain ⟨q₀, rfl, hq₀⟩ := Expr.exists_of_rewrite decorrelated_keepsLeaves hx
  obtain ⟨s₀, i', j', hs₀, hy⟩ :=
    Query.select_correspond (fun hy => by rw [(Outcomes.yields_pure.1 hy).1]) hq₀ hs
  exact ⟨q₀, s₀, i, j, he, hs₀, hq₀, i', j', hy⟩

end

theorem conditions_rewriteParts {isAggregate : String → Bool} {n j : Nat} {a a' s : Select} {recursive : Bool}
    (conditions : ∀ inner ∈ existsSelects a, ∀ e ∈ whereConjuncts inner, hasAggregate isAggregate e = false)
    (parts : Yields (a.rewriteParts decorrelated ()) n a' j)
    (hq : .exists (alone recursive s) false ∈ whereConjuncts a') :
    ∀ e ∈ whereConjuncts s, hasAggregate isAggregate e = false := by
  intro e he
  obtain ⟨q₀, s₀, -, -, hq₀, hs₀, -, i, k, hy⟩ := exists_rewriteParts parts hq rfl
  have inner : s₀ ∈ existsSelects a := List.mem_filterMap.2 ⟨_, hq₀, hs₀⟩
  obtain ⟨e₀, he₀, i, j, hx⟩ := whereConjuncts_rewrite hy he
  rw [hasAggregate_rewrite isAggregate decorrelated_keepsLeaves hx]
  exact conditions s₀ inner e₀ he₀

theorem keys_unaggregated {isAggregate : String → Bool} {outer : List String} {s : Select}
    (conditions : ∀ e ∈ whereConjuncts s, hasAggregate isAggregate e = false) :
    ∀ key ∈ keysOf outer s, hasAggregate isAggregate key.inner = false := by
  intro key hk
  obtain ⟨e, he, hkey⟩ := List.mem_filterMap.1 hk
  have unaggregated := conditions e he
  rcases (key?_eq_some hkey).1 with rfl | rfl
  · exact (Bool.or_eq_false_iff.1 unaggregated).1
  · exact (Bool.or_eq_false_iff.1 unaggregated).2

section

variable {outer : List String} {s : Select}

theorem keySelect_parts_subset {τ : Type} (v : Scoping τ) (t : τ) :
    (keySelect outer s).parts v t ⊆ s.parts v t := by
  intro x hx
  rw [keySelect_parts, List.mem_append, List.mem_append, List.mem_flatMap, List.mem_flatMap] at hx
  rcases hx with ⟨key, hk, hx⟩ | hx | ⟨e, he, hx⟩
  · exact mem_key_nodes v t hk (.inl hx)
  · simp [Select.parts, hx]
  · exact mem_others_nodes v t he hx

abbrev insideOf (s : Select) : List String := relationNames s.sources ++ relationNames s.sources

theorem mem_nodes_alone {recursive : Bool} {x : Node (List String)} :
    x ∈ s.parts namesInScope (insideOf s) → x ∈ (alone recursive s).nodes namesInScope [] := by
  intro hx
  rw [nodes_plainQuery]
  exact List.mem_cons_of_mem _ (List.mem_cons_of_mem _ hx)

theorem keyTable_bound (bound : hasUnboundQualifier (keyTable outer s) = false) {env : List String} {e : Expr}
    (he : .leaf env e ∈ (keySelect outer s).parts namesInScope (insideOf s)) {qualifier : List String}
    (hq : qualifier? e = some qualifier) (qualified : qualifier ≠ []) : ∃ part ∈ qualifier, part ∈ env := by
  have inTable : .leaf env e ∈ (keyTable outer s).nodes namesInScope [] := mem_nodes_alone he
  have seen := (List.any_eq_false.1 bound) (env, e) (List.mem_filterMap.2 ⟨_, inTable, rfl⟩)
  simpa [isUnbound, hq, qualified] using seen

end

theorem mem_starQualifiers {τ : Type} {v : Scoping τ} {t env : τ} {e : Expr} {qualifier : List String}
    (h : .leaf env (.star qualifier) ∈ e.nodes v t) : qualifier ∈ starQualifiers e := by
  refine List.mem_filterMap.2 ⟨.star qualifier, List.mem_map.2 ⟨((), _), ?_, rfl⟩, rfl⟩
  exact List.mem_filterMap.2 ⟨_, leaf_unscoped h, rfl⟩

/-- Columns of an expression that refers to the surrounding SELECT only have the name of one of its
relations at the end of their qualifier. -/
theorem onlyOuter_last {τ : Type} {v : Scoping τ} {t env : τ} {sides : Sides} {e : Expr}
    (h : sides.onlyOuter e) {qualifier : List String} {name : String}
    (hc : .leaf env (.column qualifier name) ∈ e.nodes v t) :
    ∃ part ∈ qualifier.getLast?, part ∈ sides.outer ∧ part ∉ sides.inner := by
  have all := List.all_eq_true.1 (Bool.and_eq_true_iff.1 h).2
  have outer := all qualifier (mem_columnQualifiers.2 ⟨name, leaf_unscoped hc⟩)
  rw [Sides.isOuter, Option.any_eq_true] at outer
  obtain ⟨part, last, named⟩ := outer
  exact ⟨part, last, by simpa using named⟩

theorem onlyOuter_column {τ : Type} {v : Scoping τ} {t env : τ} {sides : Sides} {e : Expr}
    (h : sides.onlyOuter e) {qualifier : List String} {name : String}
    (hc : .leaf env (.column qualifier name) ∈ e.nodes v t) :
    ∃ part ∈ qualifier, part ∈ sides.outer ∧ part ∉ sides.inner := by
  obtain ⟨part, last, named⟩ := onlyOuter_last h hc
  exact ⟨part, List.mem_of_getLast? last, named⟩

section

variable {isAggregate : String → Bool} {n j : Nat} {a a' : Select} {t : List String}
  (h : Separate isAggregate (a.nodes namesInScope t))

include h

theorem Separate.parts : Separate isAggregate (a.parts namesInScope (namesInScope.enterSelect t a)) := by
  rw [Select.nodes_eq] at h
  exact h.tail

theorem Separate.sources_own : ∀ name ∈ relationNames a.sources, ¬ isGenerated name :=
  fun name hn => h.parts.own name (sourceNames_among hn _)

theorem Separate.apart {e : Expr} (he : e ∈ whereConjuncts a) {name : String}
    (hn : name ∈ namesAmong (e.nodes namesInScope (namesInScope.enterSelect t a))) :
    name ∉ relationNames a.sources := by
  intro source
  have distinct := h.parts.distinct
  rw [Select.parts, namesAmong_append, List.nodup_append, namesAmong_append, List.nodup_append] at distinct
  obtain ⟨-, ⟨-, -, different⟩, -⟩ := distinct
  refine different name (relationNames_among source _) name ?_ rfl
  rw [namesAmong_append, ← whereConjuncts_nodes, List.mem_append]
  exact .inl (namesAmong_subset (fun x hx => List.mem_flatMap.2 ⟨e, he, hx⟩) hn)

theorem Separate.reference {e x : Expr} (he : e ∈ whereConjuncts a) {env : List String}
    (hx : .leaf env x ∈ e.nodes namesInScope (namesInScope.enterSelect t a)) : IsQualified env x :=
  h.parts.qualified (.leaf env x) (mem_parts_of_whereConjunct he hx)

theorem Separate.subquery_predicates {q : Query} {s : Select} (hq : .exists q false ∈ whereConjuncts a)
    (hs : q.select? = some s) : PlainPredicates isAggregate s := by
  have below (t : List String) :
      .select (namesInScope.enterSelect (namesInScope.enterQuery t q) s) s ∈ q.nodes namesInScope t := by
    rw [Query.nodes_eq]
    refine List.mem_cons_of_mem _ ((select?_sublist hs _).subset ?_)
    rw [Select.nodes_eq]
    exact List.mem_cons_self
  exact h.parts.predicates _ (mem_parts_of_whereConjunct hq (below _))

variable (parts : Yields (a.rewriteParts decorrelated ()) n a' j)

include parts

theorem Separate.refer_rewriteParts :
    AllRefer (NamedBelow j) (a'.parts namesInScope (namesInScope.enterSelect t a)) := by
  intro x hx
  have origin := (decorrelated_originating.selectParts parts).2 _ _ (.refl _) x hx
  cases x with
  | leaf env e =>
    intro qualifier hq part hp generated
    rcases origin with ⟨env', he, -⟩ | ⟨i, hi, column, rfl⟩
    · exact absurd generated (h.parts.refer _ he qualifier hq part hp)
    · cases hq
      exact ⟨i, hi, List.mem_singleton.1 hp⟩
  | _ => trivial

omit parts in
/-- A reference of a rewritten subquery, seen without what is around the subquery: it was there before, and
what it sees is in scope there and does not belong to the surrounding SELECT; or it is to a join. -/
theorem Separate.subquery_leaf {q₀ q : Query} {i k : Nat} (hq₀ : .exists q₀ false ∈ whereConjuncts a)
    (hy : Yields (q₀.rewrite decorrelated ()) i q k) {env : List String} {e : Expr}
    (he : .leaf env e ∈ q.nodes namesInScope []) :
    (∃ env', .leaf env' e ∈ q₀.nodes namesInScope (namesInScope.enterSelect t a) ∧
      namesInScope.enterSelect t a ⊆ env' ∧
        ∀ name ∈ env, ¬ isGenerated name → name ∈ env' ∧ name ∉ relationNames a.sources) ∨
      ∃ i column, e = .qualified (existsName i) column := by
  rcases (decorrelated_originating.ascends.pieces.query_holds q₀ hy).2 [] [] (.refl _) _ he with
    ⟨env₁, he₁, narrow₁⟩ | ⟨i, -, column, rfl⟩
  · have wide : Narrower [] (namesInScope.enterSelect t a) := fun name hn => by cases hn
    rcases widens_gathers.query_holds q₀ _ _ wide _ he₁ with ⟨env₂, he₂, narrow₂⟩ | ⟨i, hi, -⟩
    · refine .inl ⟨env₂, he₂, (sees_gathers.query_holds q₀ _ [] env₂ e he₂).1, fun name hn own => ?_⟩
      have seen := narrow₁ name hn own
      refine ⟨narrow₂ name seen own, ?_⟩
      rcases (sees_gathers.query_holds q₀ [] (namesInScope.enterSelect t a) env₁ e he₁).2 name seen with
        around | below
      · cases around
      · exact h.apart (e := .exists q₀ false) hq₀ below
    · omega
  · exact .inr ⟨i, column, rfl⟩

variable {recursive : Bool} {s : Select} (hq : .exists (alone recursive s) false ∈ whereConjuncts a')

include hq

theorem Separate.unaggregated : itemsHaveAggregate isAggregate s.projection = false ∧
    ∀ e ∈ whereConjuncts s, hasAggregate isAggregate e = false := by
  obtain ⟨q₀, s₀, -, -, hq₀, hs₀, -, i, k, hy⟩ := exists_rewriteParts parts hq rfl
  have inner : s₀ ∈ existsSelects a := List.mem_filterMap.2 ⟨_, hq₀, hs₀⟩
  have plain : PlainPredicates isAggregate a := by
    rw [Select.nodes_eq] at h
    exact h.predicates _ List.mem_cons_self
  obtain ⟨s₁, i', inside, leave⟩ := Select.yields_rewrite.1 hy
  constructor
  · have items := itemsHaveAggregate_rewriteParts isAggregate decorrelated_keepsLeaves inside
    rw [(yields_leaveSelect leave).projection_eq, items]
    exact plain.projections s₀ inner
  · exact conditions_rewriteParts plain.conditions parts hq

theorem Separate.keyTable_closed
    (bound : hasUnboundQualifier (keyTable (relationNames a.sources) s) = false) :
    AllRefer (· ∉ relationNames a.sources)
      ((keySelect (relationNames a.sources) s).parts namesInScope (insideOf s)) := by
  intro x hx
  cases x with
  | leaf env e =>
    intro qualifier qualifies part hp outer
    obtain ⟨q₀, s₀, i, k, hq₀, hs₀, hy, -⟩ := exists_rewriteParts parts hq rfl
    obtain ⟨name, hn, seen⟩ := keyTable_bound bound hx qualifies (List.ne_nil_of_mem hp)
    rcases h.subquery_leaf hq₀ hy (mem_nodes_alone (keySelect_parts_subset _ _ hx)) with
      ⟨env', he, around, apart⟩ | ⟨i, column, rfl⟩
    · have qualified := h.reference hq₀ he
      obtain ⟨seen', inner⟩ := apart name seen (qualified.own qualifies hn)
      -- One relation alone owns the qualifier: the one of the subquery that binds it here.
      have same := qualified.unique qualifies hn hp seen' (around (List.mem_append_right _ outer))
      exact inner (same ▸ outer)
    · cases qualifies
      rw [List.mem_singleton.1 hp] at outer
      exact h.sources_own _ outer (isGenerated_existsName i)
  | _ => trivial

theorem Separate.outerKey_refer {key : Key} (hk : key ∈ keysOf (relationNames a.sources) s) :
    AllRefer (fun name => NamedBelow j name ∧ name ∉ relationNames s.sources)
      (key.outer.nodes namesInScope (insideOf s)) := by
  intro x hx
  cases x with
  | leaf env e =>
    intro qualifier qualifies part hp
    obtain ⟨q₀, s₀, i, k, hq₀, hs₀, hy, i', k', hy'⟩ := exists_rewriteParts parts hq rfl
    obtain ⟨conjunct, hc, hkey⟩ := List.mem_filterMap.1 hk
    obtain ⟨sides, outer, -⟩ := key?_eq_some hkey
    rcases h.subquery_leaf hq₀ hy (mem_nodes_alone (mem_key_nodes _ _ hk (.inr hx))) with
      ⟨env', he, around, apart⟩ | ⟨i, column, rfl⟩
    · have qualified := h.reference hq₀ he
      have own := qualified.own qualifies hp
      refine ⟨fun generated => absurd generated own, fun inner => ?_⟩
      have seen : part ∈ env :=
        (sees_gathers.expr_holds key.outer _ [] env e hx).1 (List.mem_append_left _ inner)
      obtain ⟨seen', apart⟩ := apart part seen own
      cases e with
      | column q name =>
        cases qualifies
        -- The pass takes the side for an outer one by the last part of the qualifier.
        obtain ⟨last, hl, named, -⟩ := onlyOuter_column outer hx
        have same := qualified.unique rfl hp hl seen' (around (List.mem_append_right _ named))
        exact apart (same ▸ named)
      | star q =>
        cases qualifies
        -- The pass does not look at stars; those in the conditions of a subquery are not of its own relations.
        obtain ⟨e₀, he₀, i₀, j₀, hx₀⟩ := whereConjuncts_rewrite hy' hc
        have inConjunct : .leaf env (.star qualifier) ∈ conjunct.nodes namesInScope (insideOf s) := by
          rcases sides with rfl | rfl
          · exact List.mem_append_right _ hx
          · exact List.mem_append_left _ hx
        have origin := (decorrelated_originating.ascends.pieces.expr_holds e₀ hx₀).2 _ _ (.refl _) _ inConjunct
        obtain ⟨env₀, star, -⟩ := origin.resolve_right (by rintro ⟨i, -, column, same⟩; cases same)
        exact (h.subquery_predicates hq₀ hs₀).stars e₀ he₀ qualifier (mem_starQualifiers star) part hp
          (narrower_rewrite hy' part inner own)
      | _ => cases qualifies
    · cases qualifies
      obtain ⟨last, hl, named, -⟩ := onlyOuter_column outer hx
      rw [List.mem_singleton.1 hl] at named
      exact absurd (isGenerated_existsName i) (h.sources_own _ named)
  | _ => trivial

/-- The EXISTS can be taken out of the WHERE clause once its subquery has been rewritten. -/
theorem Separate.separable (plain : plainSelect? (alone recursive s) = some s)
    (bound : hasUnboundQualifier (keyTable (relationNames a.sources) s) = false) :
    Separable isAggregate (relationNames a.sources) j s where
  ungrouped := by
    obtain ⟨-, -, groupBy, having'⟩ := plainSelect?_eq_some plain
    have items := (h.unaggregated parts hq).1
    unfold itemsHaveAggregate at items
    simp [isGrouped, groupBy, having', items]
  keys := keys_unaggregated (h.unaggregated parts hq).2
  closed := ⟨insideOf s, h.keyTable_closed parts hq bound⟩
  outerKeys key hk := ⟨insideOf s, h.outerKey_refer parts hq hk⟩

end

end QueryBridge.Passes
