import QueryBridge.Proofs.Passes.ConvertedConjuncts
import QueryBridge.Proofs.Passes.MeaningKept
import QueryBridge.Proofs.Passes.Repetition

set_option autoImplicit false

/-! A subquery with aggregate calls and without GROUP BY has one row whatever it aggregates, so that its
EXISTS is TRUE. The join that it becomes is with the keys of the rows under the aggregate, and drops
every row of the surrounding SELECT for which there are none. -/

namespace QueryBridge.Passes

open Meaning

/-- The SELECT without its projection. Neither a semi-join nor the rows that WHERE keeps depend on it. -/
def bare (s : Select) : Select := { s with projection := [] }

theorem plainSelect?_bare (recursive : Bool) (s : Select) :
    plainSelect? (alone recursive (bare s)) = (plainSelect? (alone recursive s)).map bare := by
  simp only [plainSelect?, Query.select?, bare, Option.filter_some, List.isEmpty_nil, Option.isNone_none,
    Bool.and_self, if_true]
  split <;> rfl

theorem semiJoin?_bare (label : String) (outer : List String) (recursive : Bool) (s : Select) :
    semiJoin? label outer (alone recursive (bare s)) = semiJoin? label outer (alone recursive s) := by
  unfold semiJoin?
  rw [plainSelect?_bare]
  cases plainSelect? (alone recursive s) <;> rfl

def unprojected (outer : List String) : Expr → Expr
  | .exists q false =>
    if isSemiJoin outer (.exists q false) then .exists (q.mapLeftmost bare) false else .exists q false
  | e => e

section

variable {outer : List String} {n k : Nat}

theorem unprojected_other {e : Expr} (h : isSemiJoin outer e = false) : unprojected outer e = e := by
  unfold unprojected
  split
  · rw [h]
    rfl
  · rfl

theorem isSemiJoin_eq_true {e : Expr} (h : isSemiJoin outer e) : ∃ recursive s,
    e = .exists (alone recursive s) false ∧ plainSelect? (alone recursive s) = some s := by
  unfold isSemiJoin at h
  split at h
  · obtain ⟨join, hj⟩ := Option.isSome_iff_exists.1 h
    obtain ⟨s, condition, hs, -⟩ := semiJoin?_eq_some.1 hj
    obtain ⟨⟨recursive, rfl⟩, -⟩ := plainSelect?_eq_some hs
    exact ⟨recursive, s, rfl, hs⟩
  · cases h

theorem unprojected_joined {recursive : Bool} {s : Select}
    (h : isSemiJoin outer (.exists (alone recursive s) false)) :
    unprojected outer (.exists (alone recursive s) false) = .exists (alone recursive (bare s)) false :=
  if_pos h

theorem unprojected_isSemiJoin (e : Expr) : isSemiJoin outer (unprojected outer e) = isSemiJoin outer e := by
  cases h : isSemiJoin outer e with
  | false => rw [unprojected_other h, h]
  | true =>
    obtain ⟨recursive, s, rfl, -⟩ := isSemiJoin_eq_true h
    rw [unprojected_joined h, isSemiJoin, semiJoin?_bare]
    exact h

theorem conjuncts_unprojected {e : Expr} (single : e.conjuncts = [e]) :
    (unprojected outer e).conjuncts = [unprojected outer e] := by
  cases h : isSemiJoin outer e with
  | false => rw [unprojected_other h, single]
  | true =>
    obtain ⟨recursive, s, rfl, -⟩ := isSemiJoin_eq_true h
    rw [unprojected_joined h]
    rfl

theorem Converted.unprojected {es kept : List Expr} {joins : List Join}
    (h : Converted outer n es joins kept k) :
    Converted outer n (es.map (unprojected outer)) joins kept k := by
  induction h with
  | nil => exact .nil
  | @join n k q join es joins kept hj _ ih =>
    have joined := isSemiJoin_of_some hj
    obtain ⟨s, condition, hs, -⟩ := semiJoin?_eq_some.1 hj
    obtain ⟨⟨recursive, rfl⟩, -⟩ := plainSelect?_eq_some hs
    rw [List.map_cons, unprojected_joined joined]
    refine .join ?_ ih
    rw [semiJoin?_bare, hj]
  | keep hold _ ih =>
    rw [List.map_cons, unprojected_other hold]
    exact .keep hold ih

/-- What the pass takes a SELECT for. -/
def asked (a : Select) : Select :=
  if hasSemiJoin a then
    { a with selection :=
        Expr.conjunction? ((whereConjuncts a).map (unprojected (relationNames a.sources))) }
  else a

variable {a b : Select}

theorem asked_other (h : hasSemiJoin a = false) : asked a = a := by
  rw [asked, h]
  rfl

theorem asked_sources (a : Select) : (asked a).sources = a.sources := by
  unfold asked
  split <;> rfl

theorem single_whereConjunct {e : Expr} (h : e ∈ whereConjuncts a) : e.conjuncts = [e] := by
  unfold whereConjuncts at h
  cases hw : a.selection with
  | none => simp [hw] at h
  | some condition =>
    rw [hw] at h
    exact Expr.conjuncts_of_mem h

theorem whereConjuncts_asked (h : hasSemiJoin a) :
    whereConjuncts (asked a) = (whereConjuncts a).map (unprojected (relationNames a.sources)) := by
  rw [asked, if_pos h]
  refine Expr.conjuncts_conjunction? ?_
  rw [List.forall_mem_map]
  exact fun e he => conjuncts_unprojected (single_whereConjunct he)

theorem left_asked (left : Left n a b k) : Left n (asked a) b k := by
  cases semi : hasSemiJoin a with
  | false => rwa [asked_other semi]
  | true =>
    cases left with
    | same none =>
      rw [asked_other none]
      exact .same none
    | joined hs hw star busy conv =>
      rename_i item condition joins kept
      have wheres : whereConjuncts a = condition.conjuncts := by simp [whereConjuncts, hw]
      have conv' := conv.unprojected
      rw [← wheres, ← whereConjuncts_asked semi] at conv'
      -- Joins come from conjuncts, so there is still a WHERE clause to take apart.
      obtain ⟨condition', hw'⟩ : ∃ condition', (asked a).selection = some condition' := by
        rw [← Option.ne_none_iff_exists']
        intro none
        rw [whereConjuncts, none] at conv'
        cases conv'
        exact busy rfl
      have wheres' : whereConjuncts (asked a) = condition'.conjuncts := by rw [whereConjuncts, hw']; rfl
      rw [wheres', ← asked_sources a] at conv'
      have joined :=
        Left.joined (by rw [asked_sources, hs]) hw' (by rw [asked, if_pos semi]; exact star) busy conv'
      rw [asked, if_pos semi] at joined ⊢
      exact joined

variable {α : Type} [DecidableEq α] {I : Interpretation α} {c : Context α} {s : Select} {recursive : Bool}

theorem card_aggregated (groupBy : s.groupBy = []) (having' : s.having = none)
    (aggregated : itemsHaveAggregate I.isAggregate s.projection) :
    Multiset.card (evalQuery I (alone recursive s) c).rows = 1 := by
  obtain ⟨distinct, projection, sources, selection, keys, condition⟩ := s
  obtain rfl : keys = [] := groupBy
  obtain rfl : condition = none := having'
  have grouped : isGrouped I.isAggregate ⟨distinct, projection, sources, selection, [], none⟩ := by
    simpa [isGrouped, itemsHaveAggregate] using aggregated
  simp only [evalQuery, evalCtes, evalBody, evalSelect, Interpretation.select, grouped, Clauses.groups]
  cases distinct <;> simp [evalOption, Interpretation.holds]

theorem isTrue_exists_aggregated (groupBy : s.groupBy = []) (having' : s.having = none)
    (aggregated : itemsHaveAggregate I.isAggregate s.projection) :
    IsTrue I (.exists (alone recursive s) false) c := by
  have one : Multiset.card (evalQuery I (alone recursive s) c).rows = 1 :=
    card_aggregated groupBy having' aggregated
  obtain ⟨x, single⟩ := Multiset.card_eq_one.1 one
  rw [isTrue_exists, single]
  exact ⟨x, Multiset.mem_singleton_self x⟩

theorem isTrue_exists_kept (ungrouped : isGrouped I.isAggregate s = false) :
    IsTrue I (.exists (alone recursive s) false) c ↔
      0 < Multiset.card (keptRows I s (c.within [])) := by
  rw [isTrue_exists, Multiset.card_pos_iff_exists_mem]
  simp only [mem_evalQuery_alone ungrouped]
  constructor
  · rintro ⟨x, r, hr, -⟩
    exact ⟨r, hr⟩
  · rintro ⟨r, hr⟩
    exact ⟨_, r, hr, rfl⟩

theorem isTrue_bare (groupBy : s.groupBy = []) (having' : s.having = none) :
    IsTrue I (.exists (alone recursive (bare s)) false) c ↔ IsTrue I (.exists (alone recursive s) false) c ∧
      (itemsHaveAggregate I.isAggregate s.projection →
        0 < Multiset.card (keptRows I s (c.within []))) := by
  have bareRows : IsTrue I (.exists (alone recursive (bare s)) false) c ↔
      0 < Multiset.card (keptRows I s (c.within [])) :=
    isTrue_exists_kept (by simp [isGrouped, bare, groupBy, having'])
  rw [bareRows]
  cases aggregated : itemsHaveAggregate I.isAggregate s.projection with
  | true => simp [isTrue_exists_aggregated groupBy having' aggregated]
  | false =>
    have ungrouped : isGrouped I.isAggregate s = false := by
      unfold itemsHaveAggregate at aggregated
      simp [isGrouped, groupBy, having', aggregated]
    simp [isTrue_exists_kept ungrouped]

def aggregatedJoins (isAggregate : String → Bool) (a : Select) : List Select :=
  if hasSemiJoin a then
    (whereConjuncts a).filterMap fun
      | .exists q false =>
        if isSemiJoin (relationNames a.sources) (.exists q false) then
          q.select?.filter fun s => itemsHaveAggregate isAggregate s.projection
        else none
      | _ => none
  else []

theorem mem_aggregatedJoins {isAggregate : String → Bool} : s ∈ aggregatedJoins isAggregate a ↔
    hasSemiJoin a ∧ itemsHaveAggregate isAggregate s.projection ∧
      ∃ recursive, .exists (alone recursive s) false ∈ whereConjuncts a ∧
        isSemiJoin (relationNames a.sources) (.exists (alone recursive s) false) := by
  unfold aggregatedJoins
  split
  · rename_i semi
    rw [List.mem_filterMap]
    constructor
    · rintro ⟨e, he, found⟩
      split at found
      · split at found
        · rename_i joined
          obtain ⟨recursive, s', same, -⟩ := isSemiJoin_eq_true joined
          cases same
          obtain ⟨same, aggregated⟩ := Option.filter_eq_some_iff.1 found
          cases same
          exact ⟨semi, aggregated, recursive, he, joined⟩
        · cases found
      · cases found
    · rintro ⟨-, aggregated, recursive, he, joined⟩
      refine ⟨_, he, ?_⟩
      simp only [joined, if_true]
      exact Option.filter_eq_some_iff.2 ⟨rfl, aggregated⟩
  · rename_i idle
    exact iff_of_false List.not_mem_nil fun h => idle h.1

/-- The row finds rows under the aggregate of each aggregated EXISTS that gives way to a join. -/
def Matched (I : Interpretation α) (a : Select) (c : Context α) (l : FromRow α) : Prop :=
  ∀ item condition, TakesJoins a item condition →
    ∀ r : Replacement (relationNames a.sources), r.condition ∈ condition.conjuncts →
      itemsHaveAggregate I.isAggregate r.select.projection →
        0 < Multiset.card (keptRows I r.select (c.within l.bindings))

theorem matched_iff {l : FromRow α} : Matched I a c l ↔
    ∀ s ∈ aggregatedJoins I.isAggregate a, 0 < Multiset.card (keptRows I s (c.within l.bindings)) := by
  constructor
  · intro matched s hs
    obtain ⟨semi, aggregated, recursive, he, joined⟩ := mem_aggregatedJoins.1 hs
    obtain ⟨item, condition, opens, -⟩ := hasSemiJoin_iff.1 semi
    obtain ⟨r, same⟩ := isSemiJoin_iff.1 joined
    obtain rfl : r.select = s := Option.some.inj (congrArg Query.select? (Expr.exists.inj same).1)
    refine matched item condition opens r ?_ aggregated
    rwa [same, ← opens.whereConjuncts_eq]
  · intro matched item condition opens r present aggregated
    have joined : isSemiJoin (relationNames a.sources) r.condition := isSemiJoin_iff.2 ⟨r, rfl⟩
    have semi : hasSemiJoin a := hasSemiJoin_iff.2 ⟨item, condition, opens, r, present⟩
    rw [← opens.whereConjuncts_eq] at present
    exact matched r.select (mem_aggregatedJoins.2 ⟨semi, aggregated, r.recursive, present, joined⟩)

instance (a : Select) (l : FromRow α) : Decidable (Matched I a c l) := decidable_of_iff' _ matched_iff

theorem isTrue_unprojected {e : Expr} :
    IsTrue I (unprojected outer e) c ↔ IsTrue I e c ∧
      ∀ recursive s, e = .exists (alone recursive s) false → isSemiJoin outer e →
        itemsHaveAggregate I.isAggregate s.projection → 0 < Multiset.card (keptRows I s (c.within [])) := by
  cases joined : isSemiJoin outer e with
  | false => simp [unprojected_other joined]
  | true =>
    obtain ⟨recursive, s, rfl, plain⟩ := isSemiJoin_eq_true joined
    -- The shape that the pass asks for leaves no GROUP BY and no HAVING.
    obtain ⟨-, -, groupBy, having'⟩ := plainSelect?_eq_some plain
    rw [unprojected_joined joined, isTrue_bare groupBy having']
    refine and_congr_right fun _ => ⟨?_, fun h => h recursive s rfl rfl⟩
    intro h recursive' s' same
    cases same
    exact fun _ => h

theorem keptRows_asked (a : Select) (c : Context α) :
    keptRows I (asked a) c = (keptRows I a c).filter (Matched I a c) := by
  cases semi : hasSemiJoin a with
  | false =>
    rw [asked_other semi, Multiset.filter_eq_self.2]
    intro l _ item condition opens r present
    exact absurd present (hasSemiJoin_eq_false_iff.1 semi item condition opens r)
  | true =>
    rw [keptRows, keptRows, asked_sources, Multiset.filter_filter]
    refine Multiset.filter_congr fun l _ => ?_
    rw [holds_where, holds_where, whereConjuncts_asked semi, List.forall_mem_map]
    constructor
    · intro h
      refine ⟨matched_iff.2 fun s hs => ?_, fun e he => (isTrue_unprojected.1 (h e he)).1⟩
      obtain ⟨-, aggregated, recursive, he, joined⟩ := mem_aggregatedJoins.1 hs
      exact (isTrue_unprojected.1 (h _ he)).2 recursive s rfl joined aggregated
    · rintro ⟨matched, h⟩ e he
      refine isTrue_unprojected.2 ⟨h e he, ?_⟩
      rintro recursive s rfl joined aggregated
      exact matched_iff.1 matched s (mem_aggregatedJoins.2 ⟨semi, aggregated, recursive, he, joined⟩)

/-- What the SELECT returns if these are the rows that its WHERE clause keeps. -/
def rowsOver (I : Interpretation α) (s : Select) (c : Context α) (rows : Multiset (FromRow α)) :
    Multiset (Record α) :=
  let clauses : Clauses α :=
    { distinct := s.distinct
      grouped := isGrouped I.isAggregate s
      whole := s.groupBy.isEmpty
      items := fun c wild => evalItems I s.projection c wild
      keeps := fun _ => true
      key := fun c => evalExprs I s.groupBy c
      having := fun c => I.holds (evalOption I s.having c)
      order := fun _ => [] }
  (I.select clauses c ⟨(evalSources I s.sources c .unit).blank, rows⟩).rows.map (·.1)

theorem selectRows_eq (s : Select) (c : Context α) : selectRows I s c = rowsOver I s c (keptRows I s c) := by
  obtain ⟨distinct, projection, sources, selection, groupBy, having'⟩ := s
  simp only [selectRows, rowsOver, evalSelect, Interpretation.select, keptRows, Multiset.filter_true]
  rfl

theorem rowsOver_asked (a : Select) (c : Context α) (rows : Multiset (FromRow α)) :
    rowsOver I (asked a) c rows = rowsOver I a c rows := by
  unfold asked
  split <;> rfl

theorem rowsOver_filter_iff {p : FromRow α → Prop} [DecidablePred p] (distinct : s.distinct = false)
    (ungrouped : isGrouped I.isAggregate s = false) (rows : Multiset (FromRow α)) :
    rowsOver I s c (rows.filter p) = rowsOver I s c rows ↔ ∀ l ∈ rows, p l := by
  refine ⟨fun same => ?_, fun all => by rw [Multiset.filter_eq_self.2 all]⟩
  have count (rows : Multiset (FromRow α)) : Multiset.card (rowsOver I s c rows) = Multiset.card rows := by
    simp [rowsOver, Interpretation.select, distinct, ungrouped]
  have cards := congrArg Multiset.card same
  rw [count, count] at cards
  exact Multiset.filter_eq_self.1 (Multiset.eq_of_le_of_card_le (Multiset.filter_le _ _) cards.ge)

end

/-- The names are separate and the predicates plain, but for aggregate calls in what the EXISTS of the SELECT
itself project. -/
structure SeparateInside (isAggregate : String → Bool) (t : List String) (s : Select) : Prop where
  parts : Separate isAggregate (s.parts namesInScope (namesInScope.enterSelect t s))
  stars : ∀ e ∈ whereConjuncts s, ∀ qualifier ∈ starQualifiers e, ∀ part ∈ qualifier,
    part ∉ relationNames s.sources
  conditions : ∀ inner ∈ existsSelects s, ∀ e ∈ whereConjuncts inner, hasAggregate isAggregate e = false

instance (isAggregate : String → Bool) (t : List String) (s : Select) :
    Decidable (SeparateInside isAggregate t s) :=
  decidable_of_iff (Separate isAggregate (s.parts namesInScope (namesInScope.enterSelect t s)) ∧
    (∀ e ∈ whereConjuncts s, ∀ qualifier ∈ starQualifiers e, ∀ part ∈ qualifier,
      part ∉ relationNames s.sources) ∧
    ∀ inner ∈ existsSelects s, ∀ e ∈ whereConjuncts inner, hasAggregate isAggregate e = false)
    ⟨fun ⟨parts, stars, conditions⟩ => ⟨parts, stars, conditions⟩,
      fun h => ⟨h.parts, h.stars, h.conditions⟩⟩

section

variable {τ : Type} {v : Scoping τ} {t : τ} {p : String → Prop} {a : Select}

theorem refer_unprojected (hv : v.SeesSources) {outer : List String} {e : Expr} (h : AllRefer p (e.nodes v t)) :
    AllRefer p ((unprojected outer e).nodes v t) := by
  cases joined : isSemiJoin outer e with
  | false => rwa [unprojected_other joined]
  | true =>
    obtain ⟨recursive, s, rfl, -⟩ := isSemiJoin_eq_true joined
    have around := hv.query t (alone recursive (bare s)) (alone recursive s) rfl
    have inside := hv.select (v.enterQuery t (alone recursive s)) (bare s) s rfl
    rw [unprojected_joined joined, Expr.nodes, nodes_plainQuery, around, inside]
    rw [Expr.nodes, nodes_plainQuery, allRefer_cons, allRefer_cons, Select.parts, allRefer_append] at h
    exact allRefer_cons.2 ⟨trivial, allRefer_cons.2 ⟨trivial, h.2.2.2⟩⟩

theorem refer_asked (hv : v.SeesSources) (h : AllRefer p (a.parts v t)) : AllRefer p ((asked a).parts v t) := by
  cases semi : hasSemiJoin a with
  | false => rwa [asked_other semi]
  | true =>
    rw [asked, if_pos semi]
    rw [Select.parts, allRefer_append, allRefer_append, allRefer_append] at h ⊢
    refine ⟨h.1, h.2.1, ?_, h.2.2.2⟩
    intro x hx
    rw [nodesOfOption_conjunction?, List.mem_flatMap] at hx
    obtain ⟨e', he', hx⟩ := hx
    obtain ⟨e, he, rfl⟩ := List.mem_map.1 he'
    refine refer_unprojected hv (fun y hy => h.2.2.1 y ?_) x hx
    rw [← whereConjuncts_nodes]
    exact List.mem_flatMap.2 ⟨e, he, hy⟩

end

section

variable {α : Type} [DecidableEq α] {I : Interpretation α} {t : List String} {n j k : Nat} {a a' b : Select}
  (h : SeparateInside I.isAggregate t a) (parts : Yields (a.rewriteParts decorrelated ()) n a' j)

include h

omit [DecidableEq α] in
theorem SeparateInside.names : Separate (fun _ => false) (a.nodes namesInScope t) := by
  have plain {s : Select} (stars : ∀ e ∈ whereConjuncts s, ∀ qualifier ∈ starQualifiers e,
      ∀ part ∈ qualifier, part ∉ relationNames s.sources) : PlainPredicates (fun _ => false) s :=
    ⟨stars, fun _ _ => List.any_eq_false.2 fun item _ => by simp [hasAggregate_never.1],
      fun _ _ e _ => hasAggregate_never.1 e⟩
  rw [Select.nodes_eq]
  refine ⟨?_, h.parts.distinct, h.parts.own, ?_⟩
  · exact List.forall_mem_cons.2 ⟨trivial, h.parts.qualified⟩
  · refine List.forall_mem_cons.2 ⟨plain h.stars, fun x hx => ?_⟩
    have predicates := h.parts.predicates x hx
    cases x with
    | select env s => exact plain predicates.stars
    | _ => trivial

include parts

omit [DecidableEq α] in
theorem SeparateInside.separable {recursive : Bool} {s : Select}
    (hq : .exists (alone recursive s) false ∈ whereConjuncts a')
    (plain : plainSelect? (alone recursive s) = some s)
    (bound : hasUnboundQualifier (keyTable (relationNames a.sources) s) = false) :
    Separable I.isAggregate (relationNames a.sources) j (bare s) where
  ungrouped := by
    obtain ⟨-, -, groupBy, having'⟩ := plainSelect?_eq_some plain
    simp [isGrouped, bare, groupBy, having']
  keys := by
    have conditions := conditions_rewriteParts h.conditions parts hq
    exact keys_unaggregated (s := s) conditions
  closed := ⟨insideOf s, h.names.keyTable_closed parts hq bound⟩
  outerKeys _ hk := ⟨insideOf s, h.names.outerKey_refer parts hq hk⟩

theorem SeparateInside.evalSelect_eq (left : Left j a' b k) {order : Context α → List (Value α)}
    (ordered : Respects (NamedBelow j) order) (c : Context α) :
    evalSelect I b c order = evalSelect I (asked a') c order := by
  cases semi : hasSemiJoin a' with
  | false =>
    -- A conjunct may still look like a semi-join, under a bare star or over several FROM items.
    rw [asked_other semi, left.eq_of_stay (left.idle.2 semi)]
  | true =>
    have names := relationNames_rewriteParts parts
    have sources : relationNames (asked a').sources = relationNames a.sources := by rw [asked_sources, names]
    have refer := refer_asked namesInScope_seesSources (h.names.refer_rewriteParts parts)
    refine (left_asked left).evalSelect_eq ?_ refer ?_ ordered c
    · rw [sources]
      exact h.names.sources_own
    · intro q s hq joined plain bound
      rw [whereConjuncts_asked semi, names] at hq
      rw [sources] at joined bound ⊢
      obtain ⟨e, he, same⟩ := List.mem_map.1 hq
      rw [← same, unprojected_isSemiJoin] at joined
      obtain ⟨recursive, s', rfl, plain'⟩ := isSemiJoin_eq_true joined
      rw [unprojected_joined joined] at same
      obtain rfl : alone recursive (bare s') = q := (Expr.exists.inj same).1
      rw [plainSelect?_bare, plain'] at plain
      obtain rfl : bare s' = s := Option.some.inj plain
      exact h.separable parts he plain' bound

omit h in
theorem rows_rewriteParts
    (separate : Separate I.isAggregate (a.parts namesInScope (namesInScope.enterSelect t a))) :
    keptRows I a' = keptRows I a ∧ rowsOver I a' = rowsOver I a := by
  have distinct := Select.distinct_rewriteParts parts
  have grouped := isGrouped_rewriteParts I.isAggregate decorrelated_keepsLeaves parts
  have whole := Select.groupBy_isEmpty_rewriteParts parts
  obtain ⟨items', rest⟩ := separate.append
  obtain ⟨sources', rest⟩ := rest.append
  obtain ⟨selection', rest⟩ := rest.append
  have pieces := (meaningKept_ascends (I := I)).pieces
  have walk := parts
  simp only [Select.rewriteParts, Outcomes.yields_bind, Outcomes.yields_pure] at walk
  obtain ⟨p, _, yp, f, _, yf, w, _, yw, g, _, yg, x, _, yx, rfl, -⟩ := walk
  have items := pieces.items_hold _ yp _ items'
  have sources := pieces.sources_hold _ yf _ sources'
  have selection := pieces.option_holds _ yw _ selection'
  have groupBy := pieces.exprs_hold _ yg _ rest.append.1
  have having' := pieces.option_holds _ yx _ rest.append.2
  constructor
  · funext c
    simp only [keptRows, sources, selection]
  · funext c rows
    simp only [rowsOver, grouped, whole, items, sources, groupBy, having']

end

section

variable {α : Type} [DecidableEq α]

/-- After the pass a SELECT returns what it returned over those of its rows that find rows under the aggregate
of every aggregated EXISTS that became a join. -/
theorem aggregatedExists_rows (I : Interpretation α) {s : Select} {t : List String}
    (h : SeparateInside I.isAggregate t s) (n : Nat) (c : Context α) :
    let inside := ((s.rewriteParts decorrelated ()).run n).1
    let result := ((s.rewrite decorrelated ()).run n).1
    selectRows I result c = rowsOver I s c ((keptRows I s c).filter (Matched I inside c)) ∧
      (s.distinct = false → isGrouped I.isAggregate s = false →
        (selectRows I result c = selectRows I s c ↔ ∀ l ∈ keptRows I s c, Matched I inside c l)) := by
  intro inside result
  have walk : Yields (s.rewrite decorrelated ()) n result ((s.rewrite decorrelated ()).run n).2 :=
    yields_state.2 rfl
  obtain ⟨a, j, parts, leave⟩ := Select.yields_rewrite.1 walk
  obtain rfl : inside = a := congrArg Prod.fst (yields_state.1 parts)
  have kept : evalSelect I result c (fun _ => []) = evalSelect I (asked inside) c fun _ => [] :=
    h.evalSelect_eq parts (yields_leaveSelect leave) (respects_const []) c
  obtain ⟨sameKept, sameOver⟩ := rows_rewriteParts parts h.parts
  have rows : selectRows I result c = rowsOver I s c ((keptRows I s c).filter (Matched I inside c)) := by
    rw [selectRows, kept]
    change selectRows I (asked inside) c = _
    rw [selectRows_eq, rowsOver_asked, keptRows_asked, sameKept, sameOver]
  refine ⟨rows, fun distinct ungrouped => ?_⟩
  rw [rows, selectRows_eq]
  exact rowsOver_filter_iff distinct ungrouped _

end

/-- `SELECT COUNT(*) FROM items AS i WHERE i.k = o.k AND i.n > 1` -/
def countOfItems : Select :=
  { itemsOfOrder with projection := [⟨.call "COUNT" [.star []] false, none⟩] }

/-- `SELECT o.x FROM orders AS o WHERE EXISTS (..)` -/
def ordersWithCounts : Select :=
  { ordersWithItems with selection := some (.exists (alone false countOfItems) false) }

/-- Only the orders with items that are counted are left. -/
theorem ordersWithCounts_matched : SeparateInside integers.isAggregate [] ordersWithCounts ∧
    ordersWithCounts.distinct = false ∧ isGrouped integers.isAggregate ordersWithCounts = false ∧
      selectRows integers ((ordersWithCounts.rewrite decorrelated ()).run 0).1 shop =
        {[("x", .datum 7)], [("x", .datum 7)]} := by
  have separate : SeparateInside integers.isAggregate [] ordersWithCounts := by decide
  refine ⟨separate, rfl, by decide, (aggregatedExists_rows integers separate 0 shop).1.trans ?_⟩
  decide +kernel

/-- The count has one row for every order, so that its EXISTS keeps all of them. -/
theorem ordersWithCounts_lose_rows :
    .exists (alone false countOfItems) false ∈ whereConjuncts ordersWithCounts ∧
      itemsHaveAggregate integers.isAggregate countOfItems.projection ∧ countOfItems.groupBy = [] ∧
      countOfItems.having = none ∧
      selectRows integers ordersWithCounts shop =
        {[("x", .datum 7)], [("x", .datum 7)], [("x", .datum 8)], [("x", .datum 9)]} ∧
      selectRows integers ((ordersWithCounts.rewrite decorrelated ()).run 0).1 shop ≠
        selectRows integers ordersWithCounts shop := by
  refine ⟨List.mem_singleton_self _, by decide, rfl, rfl, by decide +kernel, by decide +kernel⟩

end QueryBridge.Passes
