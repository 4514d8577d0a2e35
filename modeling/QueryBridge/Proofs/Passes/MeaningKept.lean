import QueryBridge.Proofs.Passes.Separation

set_option autoImplicit false

namespace QueryBridge.Passes

open Meaning

variable {α : Type} [DecidableEq α]

section

variable {p p' : String → Prop} (fewer : ∀ name, p' name → p name)

include fewer

omit [DecidableEq α] in
theorem agreeOn_mono {c c' : Context α} (h : c.AgreeOn p c') : c.AgreeOn p' c' where
  tables := h.tables
  scope qualifier hq := h.scope qualifier fun part hp => fewer part (hq part hp)
  group := by
    have scopes (s s' : Scope α) (agree : s.AgreeOn p s') : s.AgreeOn p' s' :=
      fun qualifier hq => agree qualifier fun part hp => fewer part (hq part hp)
    obtain ⟨_, _, group⟩ := c
    obtain ⟨_, _, group'⟩ := c'
    cases h.group with
    | none => exact .none
    | some rows => exact .some (rows.mono fun s _ s' _ agree => scopes s s' agree)

omit [DecidableEq α] in
theorem respects_mono {β : Type} {f : Context α → β} (h : Respects p' f) : Respects p f :=
  fun c c' agree => h c c' (agreeOn_mono fewer agree)

end

omit [DecidableEq α] in
theorem respects_namedBelow {β : Type} {f : Context α → β} (h : Respects (¬ isGenerated ·) f) (n : Nat) :
    Respects (NamedBelow n) f :=
  respects_mono (fun _ own generated => absurd generated own) h

/-- The expression means the same if its names are separate, and a leaf stays as it is. -/
structure ExprKept (I : Interpretation α) (e e' : Expr) : Prop where
  kind : e'.isLeaf = e.isLeaf
  leaf : e.isLeaf → e' = e
  meaning : ∀ t, Separate I.isAggregate (e.nodes namesInScope t) → evalExpr I e' = evalExpr I e

/-- A piece means the same after the walk if its names are separate. What a SELECT orders its rows by depends
on no join. -/
def meaningKept (I : Interpretation α) : WalkProperty Unit Nat where
  expr _ _ _ e e' := ExprKept I e e'
  exprs _ _ _ es es' := ∀ t, Separate I.isAggregate (nodesOfExprs namesInScope t es) →
    evalExprs I es' = evalExprs I es
  option _ _ _ o o' := ∀ t, Separate I.isAggregate (nodesOfOption namesInScope t o) →
    evalOption I o' = evalOption I o
  branches _ _ _ bs bs' := ∀ t, Separate I.isAggregate (nodesOfBranches namesInScope t bs) →
    evalBranches I bs' = evalBranches I bs
  item _ _ _ i i' := ∀ t, Separate I.isAggregate (i.nodes namesInScope t) → evalItem I i' = evalItem I i
  items _ _ _ is is' := ∀ t, Separate I.isAggregate (nodesOfItems namesInScope t is) →
    evalItems I is' = evalItems I is
  relation _ _ _ r r' := ∀ t, Separate I.isAggregate (r.nodes namesInScope t) →
    evalRelation I r' = evalRelation I r
  constraint _ _ _ k k' := mergeOf (α := α) k' = mergeOf k ∧
    ∀ t, Separate I.isAggregate (k.nodes namesInScope t) → evalConstraint I k' = evalConstraint I k
  join _ _ _ j j' := ∀ t, Separate I.isAggregate (j.nodes namesInScope t) → evalJoin I j' = evalJoin I j
  joins _ _ _ js js' := ∀ t, Separate I.isAggregate (nodesOfJoins namesInScope t js) →
    evalJoins I js' = evalJoins I js
  source _ _ _ f f' := ∀ t, Separate I.isAggregate (f.nodes namesInScope t) →
    evalFromItem I f' = evalFromItem I f
  sources _ _ _ fs fs' := ∀ t, Separate I.isAggregate (nodesOfSources namesInScope t fs) →
    evalSources I fs' = evalSources I fs
  select _ _ _ s s' := ∀ t, Separate I.isAggregate (s.nodes namesInScope t) →
    ∀ order, Respects (¬ isGenerated ·) order → ∀ c, evalSelect I s' c order = evalSelect I s c order
  body _ _ _ b b' := ∀ t, Separate I.isAggregate (b.nodes namesInScope t) →
    ∀ order, Respects (¬ isGenerated ·) order → ∀ c, evalBody I b' c order = evalBody I b c order
  order _ _ _ o o' := (o'.dir, o'.nulls) = (o.dir, o.nulls) ∧
    ∀ t, Separate I.isAggregate (o.nodes namesInScope t) → evalOrderItem I o' = evalOrderItem I o
  orders _ _ _ os os' := os'.map (fun o => (o.dir, o.nulls)) = os.map (fun o => (o.dir, o.nulls)) ∧
    ∀ t, Separate I.isAggregate (nodesOfOrder namesInScope t os) → evalOrder I os' = evalOrder I os
  cte _ _ _ k k' := ∀ t, Separate I.isAggregate (k.nodes namesInScope t) → evalCte I k' = evalCte I k
  ctes _ _ _ ks ks' := ∀ t, Separate I.isAggregate (nodesOfCtes namesInScope t ks) →
    evalCtes I ks' = evalCtes I ks
  query _ _ _ q q' := ∀ t, Separate I.isAggregate (q.nodes namesInScope t) → evalQuery I q' = evalQuery I q

variable {I : Interpretation α}

section

variable {e e' : Expr}

theorem ExprKept.compound (other : e.isLeaf = false) (other' : e'.isLeaf = false)
    (meaning : ∀ t, Separate I.isAggregate (e.nodes namesInScope t) → evalExpr I e' = evalExpr I e) :
    ExprKept I e e' :=
  ⟨other'.trans other.symm, fun he => by simp [other] at he, meaning⟩

omit [DecidableEq α] in
theorem starRecord_other (other : e.isLeaf = false) (scope : Scope α) (wild : Record α) :
    starRecord scope wild e = none := by
  cases e <;> first | rfl | cases other

theorem itemName_other (other : e.isLeaf = false) : itemName e = "" := by
  cases e <;> first | rfl | cases other

theorem ExprKept.item (h : ExprKept I e e') {t : List String}
    (separate : Separate I.isAggregate (e.nodes namesInScope t)) (label : Option String) :
    evalItem I ⟨e', label⟩ = evalItem I ⟨e, label⟩ := by
  have same := h.meaning t separate
  cases hl : e.isLeaf with
  | true => rw [h.leaf hl]
  | false =>
    have other := h.kind.trans hl
    funext c wild
    cases label with
    | some name => simp only [evalItem, same]
    | none => simp only [evalItem, same, starRecord_other hl, starRecord_other other, itemName_other hl,
        itemName_other other]

end

theorem evalSelect_congr {a a' : Select} (distinct : a'.distinct = a.distinct)
    (grouped : isGrouped I.isAggregate a' = isGrouped I.isAggregate a)
    (whole : a'.groupBy.isEmpty = a.groupBy.isEmpty)
    (items : evalItems I a'.projection = evalItems I a.projection)
    (sources : evalSources I a'.sources = evalSources I a.sources)
    (selection : evalOption I a'.selection = evalOption I a.selection)
    (groupBy : evalExprs I a'.groupBy = evalExprs I a.groupBy)
    (having' : evalOption I a'.having = evalOption I a.having) : evalSelect I a' = evalSelect I a := by
  obtain ⟨d, is, fs, w, g, k⟩ := a
  obtain ⟨d', is', fs', w', g', k'⟩ := a'
  obtain rfl : d' = d := distinct
  simp only at whole items sources selection groupBy having'
  funext c order
  simp only [evalSelect, grouped, whole, items, sources, selection, groupBy, having']

theorem isNone_of_evalOption {o o' : Option Expr} (h : evalOption I o' = evalOption I o) (c : Context α) :
    o'.isNone = o.isNone := by
  have same := congrArg Option.isNone (congrFun h c)
  cases o <;> cases o' <;> first | rfl | cases same

theorem evalQuery_congr {q q' : Query} (recursive : q'.recursive = q.recursive)
    (ctes : evalCtes I q'.ctes = evalCtes I q.ctes)
    (body : ∀ c, evalBody I q'.body c (evalOrder I q.orderBy) = evalBody I q.body c (evalOrder I q.orderBy))
    (keys : evalOrder I q'.orderBy = evalOrder I q.orderBy)
    (directions : q'.orderBy.map (fun o => (o.dir, o.nulls)) = q.orderBy.map fun o => (o.dir, o.nulls))
    (limit : evalOption I q'.limit = evalOption I q.limit)
    (offset : evalOption I q'.offset = evalOption I q.offset) : evalQuery I q' = evalQuery I q := by
  funext c
  have noLimit := isNone_of_evalOption limit c
  have noOffset := isNone_of_evalOption offset c
  have noOrder : q'.orderBy.isEmpty = q.orderBy.isEmpty := by
    simpa only [List.isEmpty_map] using congrArg List.isEmpty directions
  obtain ⟨ks, r, b, os, l, f⟩ := q
  obtain ⟨ks', r', b', os', l', f'⟩ := q'
  obtain rfl : r' = r := recursive
  simp only at ctes body keys directions limit offset noLimit noOffset noOrder
  simp only [evalQuery, ctes, body, keys, directions, limit, offset, noLimit, noOffset, noOrder]

theorem meaningKept_ascends : (meaningKept I).Ascends decorrelated where
  leaf he hy := by
    rw [(Outcomes.yields_pure.1 hy).1]
    exact ⟨rfl, fun _ => rfl, fun _ _ => rfl⟩
  binary hl hr := .compound rfl rfl fun t h => by
    funext c
    simp only [evalExpr, hl.meaning t h.append.1, hr.meaning t h.append.2]
  not he := .compound rfl rfl fun t h => by
    funext c
    simp only [evalExpr, he.meaning t h]
  neg he := .compound rfl rfl fun t h => by
    funext c
    simp only [evalExpr, he.meaning t h]
  call hes := .compound rfl rfl fun t h => by
    funext c
    simp only [evalExpr, hes t h]
  case ho hbs he := .compound rfl rfl fun t h => by
    funext c
    simp only [evalExpr, ho t h.append.1, hbs t h.append.2.append.1, he t h.append.2.append.2]
  subquery hq := .compound rfl rfl fun t h => by
    funext c
    simp only [evalExpr, hq t h]
  existential hq := .compound rfl rfl fun t h => by
    funext c
    simp only [evalExpr, hq t h]
  inList he hes := .compound rfl rfl fun t h => by
    funext c
    simp only [evalExpr, he.meaning t h.append.1, hes t h.append.2]
  inQuery he hq := .compound rfl rfl fun t h => by
    funext c
    simp only [evalExpr, he.meaning t h.append.1, hq t h.append.2]
  between he hl hu := .compound rfl rfl fun t h => by
    funext c
    simp only [evalExpr, he.meaning t h.append.1, hl.meaning t h.append.2.append.1, hu.meaning t h.append.2.append.2]
  isNull he := .compound rfl rfl fun t h => by
    funext c
    simp only [evalExpr, he.meaning t h]
  like he hp := .compound rfl rfl fun t h => by
    funext c
    simp only [evalExpr, he.meaning t h.append.1, hp.meaning t h.append.2]
  cast he := .compound rfl rfl fun t h => by
    funext c
    simp only [evalExpr, he.meaning t h]
  index ha hi := .compound rfl rfl fun t h => by
    funext c
    simp only [evalExpr, ha.meaning t h.append.1, hi.meaning t h.append.2]
  array hes := .compound rfl rfl fun t h => by
    funext c
    simp only [evalExpr, hes t h]
  paren he := .compound rfl rfl fun t h => by
    funext c
    simp only [evalExpr, he.meaning t h]
  exprsNil _ _ := rfl
  exprsCons he hes t h := by
    funext c
    simp only [evalExprs, he.meaning t h.append.1, hes t h.append.2]
  optionNone _ _ := rfl
  optionSome he t h := by
    funext c
    simp only [evalOption, he.meaning t h]
  branchesNil _ _ := rfl
  branchesCons hc he hbs t h := by
    funext c
    simp only [evalBranches, hc.meaning t h.append.1, he.meaning t h.append.2.append.1, hbs t h.append.2.append.2]
  item he t h := he.item h _
  itemsNil _ _ := rfl
  itemsCons hi his t h := by
    funext c wild
    simp only [evalItems, hi t h.append.1, his t h.append.2]
  table hy _ _ := by rw [(Outcomes.yields_pure.1 hy).1]
  derived _ hq hy t h := by
    rw [(Outcomes.yields_pure.1 hy).1]
    funext c left
    simp only [evalRelation, hq t h.tail]
  unnest _ hes hy t h := by
    rw [(Outcomes.yields_pure.1 hy).1]
    funext c left
    simp only [evalRelation, hes t h.tail]
  on he := ⟨rfl, fun t h => by
    funext c l r
    simp only [evalConstraint, he.meaning t h]⟩
  usingColumns := ⟨rfl, fun _ _ => rfl⟩
  unconstrained := ⟨rfl, fun _ _ => rfl⟩
  join hr hk t h := by
    funext c left source
    simp only [evalJoin, hr t h.append.1, hk.1, hk.2 t h.append.2]
  joinsNil _ _ := rfl
  joinsCons hj hjs t h := by
    funext c left source
    simp only [evalJoins, hj t h.append.1, hjs t h.append.2]
  source hr hjs t h := by
    funext c left
    simp only [evalFromItem, hr t h.append.1, hjs t h.append.2]
  sourcesNil _ _ := rfl
  sourcesCons hf hfs t h := by
    funext c source
    simp only [evalSources, hf t h.append.1, hfs t h.append.2]
  select {env n i₁ i₂ i₃ i₄ j k a a' b} parts items sources selection groupBy having' leave t h order
      ordered c := by
    obtain ⟨items', rest⟩ := h.parts.append
    obtain ⟨sources', rest⟩ := rest.append
    obtain ⟨selection', rest⟩ := rest.append
    -- The walk changes the parts first, each of which keeps its meaning, and then the SELECT gets its joins.
    have same : evalSelect I a' = evalSelect I a :=
      evalSelect_congr (Select.distinct_rewriteParts parts)
        (isGrouped_rewriteParts _ decorrelated_keepsLeaves parts) (Select.groupBy_isEmpty_rewriteParts parts)
        (items _ items') (sources _ sources') (selection _ selection') (groupBy _ rest.append.1)
        (having' _ rest.append.2)
    rw [← same]
    have names := relationNames_rewriteParts parts
    refine (yields_leaveSelect leave).evalSelect_eq ?_ (h.refer_rewriteParts parts) ?_
      (respects_namedBelow ordered j) c
    · rw [names]
      exact h.sources_own
    · rw [names]
      intro q s hq _ plain bound
      obtain ⟨⟨recursive, rfl⟩, -⟩ := plainSelect?_eq_some plain
      exact h.separable parts hq plain bound
  bodySelect hs t h order ordered c := by simp only [evalBody, hs t h order ordered c]
  setOp hl hr t h order ordered c := by
    simp only [evalBody, hl t h.append.1 _ (respects_const []) c, hr t h.append.2 _ (respects_const []) c]
  bodyQuery hq t h order ordered c := by simp only [evalBody, hq t h]
  order he := ⟨rfl, fun t h => by
    funext c
    simp only [evalOrderItem, he.meaning t h]⟩
  ordersNil := ⟨rfl, fun _ _ => rfl⟩
  ordersCons ho hos := ⟨by rw [List.map_cons, List.map_cons, ho.1, hos.1], fun t h => by
    funext c
    simp only [evalOrder, ho.2 t h.append.1, hos.2 t h.append.2]⟩
  cte hq t h := by
    funext recursive c
    simp only [evalCte, hq t h]
  ctesNil _ _ := rfl
  ctesCons hk hks t h := by
    funext recursive c
    simp only [evalCtes, hk t h.append.1, hks t h.append.2]
  query {env n i₁ i₂ i₃ i₄ j k a a' b} parts ctes body orders limit offset leave t h := by
    rw [(Outcomes.yields_pure.1 leave).1]
    rw [Query.nodes_eq] at h
    obtain ⟨ctes', rest⟩ := h.tail.append
    obtain ⟨body', rest⟩ := rest.append
    obtain ⟨orders', rest⟩ := rest.append
    -- The body is evaluated for the order of the query, which no join may enter.
    have ordered : Respects (¬ isGenerated ·) (evalOrder I a.orderBy) :=
      respecting_ascends.orders_hold a.orderBy _ orders'.refer
    exact evalQuery_congr (Query.recursive_rewriteParts parts) (ctes _ ctes') (body _ body' _ ordered)
      (orders.2 _ orders') orders.1 (limit _ rest.append.1) (offset _ rest.append.2)

def selectRows (I : Interpretation α) (s : Select) (c : Context α) : Multiset (Record α) :=
  (evalSelect I s c fun _ => []).rows.map (·.1)

/-- A SELECT whose names are separate returns the same rows after the pass, as often as before, whatever the
tables hold and whatever surrounds it. -/
theorem selectRows_decorrelated (I : Interpretation α) {s : Select} {t : List String}
    (h : Separate I.isAggregate (s.nodes namesInScope t)) (n : Nat) (c : Context α) :
    selectRows I ((s.rewrite decorrelated ()).run n).1 c = selectRows I s c := by
  have walk : Yields (s.rewrite decorrelated ()) n ((s.rewrite decorrelated ()).run n).1
      ((s.rewrite decorrelated ()).run n).2 := yields_state.2 rfl
  have kept := (meaningKept_ascends (I := I)).pieces.select_holds s walk t h _ (respects_const []) c
  rw [selectRows, kept, selectRows]

/-- Integers and their order. Nothing else of the language has a value here. -/
def integers : Interpretation Int where
  literal
    | .int value => .datum value.toInt
    | _ => .null
  keyword _ := .null
  unsupported _ := .null
  truth _ := none
  operator
    | .gt, .datum a, .datum b => .bool (decide (b < a))
    | _, _, _ => .null
  negative
    | .datum a => .datum (-a)
    | v => v
  call _ _ _ := .null
  isAggregate f := f == "COUNT"
  aggregate _ _ rows := .datum (Multiset.card rows)
  like _ _ := none
  cast _ v := v
  element _ _ := .null
  array _ := .null
  field _ _ := .null
  whole _ := .null
  star := .bool true
  unnest _ := 0
  scalar _ := .null
  pick _ := .null
  slice _ _ _ rows := rows.map (·.1)
  recurse f := f ⟨[], 0⟩

/-- `SELECT 1 FROM items AS i WHERE i.k = o.k AND i.n > 1` -/
def itemsOfOrder : Select :=
  { Select.empty with
    projection := [⟨.literal (.int 1), none⟩]
    sources := [⟨.table ["items"] (some ⟨"i", []⟩), []⟩]
    selection := some (.and (.binary .eq (.column ["i"] "k") (.column ["o"] "k"))
      (.binary .gt (.column ["i"] "n") (.literal (.int 1)))) }

/-- `SELECT o.x FROM orders AS o WHERE EXISTS (..)` -/
def ordersWithItems : Select :=
  { Select.empty with
    projection := [⟨.column ["o"] "x", none⟩]
    sources := [⟨.table ["orders"] (some ⟨"o", []⟩), []⟩]
    selection := some (.exists (alone false itemsOfOrder) false) }

/-- Two equal orders with two items each, one without an item that counts, and one without a key. -/
def shop : Context Int where
  tables
    | ["orders"] => ⟨[("x", .null), ("k", .null)],
        {[("x", .datum 7), ("k", .datum 1)], [("x", .datum 7), ("k", .datum 1)],
          [("x", .datum 8), ("k", .datum 2)], [("x", .datum 9), ("k", .null)]}⟩
    | ["items"] => ⟨[("k", .null), ("n", .null)],
        {[("k", .datum 1), ("n", .datum 2)], [("k", .datum 1), ("n", .datum 3)],
          [("k", .datum 2), ("n", .datum 1)], [("k", .null), ("n", .datum 5)]}⟩
    | _ => ⟨[], 0⟩
  scope := []
  group := none

theorem ordersWithItems_rows : Separate integers.isAggregate (ordersWithItems.nodes namesInScope []) ∧
    ((ordersWithItems.rewrite decorrelated ()).run 0).2 = 1 ∧
      selectRows integers ((ordersWithItems.rewrite decorrelated ()).run 0).1 shop =
        {[("x", .datum 7)], [("x", .datum 7)]} := by
  have separate : Separate integers.isAggregate (ordersWithItems.nodes namesInScope []) := by decide
  refine ⟨separate, by rfl, (selectRows_decorrelated integers separate 0 shop).trans ?_⟩
  decide +kernel

end QueryBridge.Passes
