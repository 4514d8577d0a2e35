import QueryBridge.Proofs.Tree.Keeping

set_option autoImplicit false

namespace QueryBridge

variable {τ : Type}

structure Scoping.Gathers (v : Scoping τ) (Ψ : (τ → List (Node τ)) → Prop) : Prop where
  nil : Ψ fun _ => []
  append : ∀ {L M}, Ψ L → Ψ M → Ψ fun t => L t ++ M t
  leaf : ∀ e : Expr, e.isLeaf → Ψ fun t => [.leaf t e]
  relation : ∀ r : Relation, Ψ (fun t => r.parts v t) → Ψ fun t => .relation t r :: r.parts v t
  select : ∀ s : Select, Ψ (fun t => s.parts v t) →
    Ψ fun t => .select (v.enterSelect t s) s :: s.parts v (v.enterSelect t s)
  query : ∀ q : Query, Ψ (fun t => q.parts v t) →
    Ψ fun t => .query (v.enterQuery t q) q :: q.parts v (v.enterQuery t q)

namespace Scoping.Gathers

variable {v : Scoping τ} {Ψ : (τ → List (Node τ)) → Prop} (h : v.Gathers Ψ)

include h

theorem keeps : (Rewrite.identity Id .unscoped).Keeps v fun _ _ _ L _ => Ψ L where
  nil := h.nil
  append := h.append
  leaf he _ := h.leaf _ he
  relation {env n j k a a' b} _ parts _ := by
    simp only [Relation.nodes_eq]
    exact h.relation a parts
  select {env n j k a a' b} _ parts _ := by
    simp only [Select.nodes_eq]
    exact h.select a parts
  query {env n j k a a' b} _ parts _ := by
    simp only [Query.nodes_eq]
    exact h.query a parts

theorem expr_holds (e : Expr) : Ψ fun t => e.nodes v t :=
  h.keeps.ascends.pieces.expr_holds e (yields_self (e.rewrite (.identity Id .unscoped) ()))

theorem sources_hold (fs : List FromItem) : Ψ fun t => nodesOfSources v t fs :=
  h.keeps.ascends.pieces.sources_hold fs (yields_self (rewriteSources (.identity Id .unscoped) () fs))

theorem select_holds (s : Select) : Ψ fun t => s.nodes v t :=
  h.keeps.ascends.pieces.select_holds s (yields_self (s.rewrite (.identity Id .unscoped) ()))

theorem query_holds (q : Query) : Ψ fun t => q.nodes v t :=
  h.keeps.ascends.pieces.query_holds q (yields_self (q.rewrite (.identity Id .unscoped) ()))

end Scoping.Gathers

section

variable (v : Scoping τ) (t : τ)

theorem nodesOfExprs_eq (es : List Expr) : nodesOfExprs v t es = es.flatMap (·.nodes v t) := by
  induction es with
  | nil => rfl
  | cons e es ih => rw [nodesOfExprs, ih, List.flatMap_cons]

theorem nodesOfOption_eq (o : Option Expr) : nodesOfOption v t o = o.toList.flatMap (·.nodes v t) := by
  cases o <;> simp [nodesOfOption]

theorem nodesOfBranches_eq (bs : List (Expr × Expr)) :
    nodesOfBranches v t bs = bs.flatMap fun b => b.1.nodes v t ++ b.2.nodes v t := by
  induction bs with
  | nil => rfl
  | cons b bs ih => rw [nodesOfBranches, ih, List.flatMap_cons, List.append_assoc]

theorem nodesOfItems_eq (is : List SelectItem) : nodesOfItems v t is = is.flatMap (·.nodes v t) := by
  induction is with
  | nil => rfl
  | cons i is ih => rw [nodesOfItems, ih, List.flatMap_cons]

theorem nodesOfJoins_eq (js : List Join) : nodesOfJoins v t js = js.flatMap (·.nodes v t) := by
  induction js with
  | nil => rfl
  | cons j js ih => rw [nodesOfJoins, ih, List.flatMap_cons]

theorem nodesOfSources_eq (fs : List FromItem) : nodesOfSources v t fs = fs.flatMap (·.nodes v t) := by
  induction fs with
  | nil => rfl
  | cons f fs ih => rw [nodesOfSources, ih, List.flatMap_cons]

theorem nodesOfOrder_eq (os : List OrderItem) : nodesOfOrder v t os = os.flatMap (·.nodes v t) := by
  induction os with
  | nil => rfl
  | cons o os ih => rw [nodesOfOrder, ih, List.flatMap_cons]

theorem nodesOfCtes_eq (cs : List Cte) : nodesOfCtes v t cs = cs.flatMap (·.nodes v t) := by
  induction cs with
  | nil => rfl
  | cons c cs ih => rw [nodesOfCtes, ih, List.flatMap_cons]

end

variable {v : Scoping τ}

theorem parts_gathered :
    v.Gathers fun L => ∀ t env a, .select env a ∈ L t → (a.parts v env).Sublist (L t) := by
  constructor
  · intro t env a h
    cases h
  · intro L M hL hM t env a h
    rcases List.mem_append.1 h with h | h
    · exact (hL t env a h).trans (List.sublist_append_left _ _)
    · exact (hM t env a h).trans (List.sublist_append_right _ _)
  · intro e he t env a h
    simp at h
  · intro r parts t env a h
    exact (parts t env a (by simpa using h)).cons _
  · intro s parts t env a h
    rcases List.mem_cons.1 h with here | below
    · cases here
      exact List.sublist_cons_self _ _
    · exact (parts _ env a below).cons _
  · intro q parts t env a h
    exact (parts _ env a (by simpa using h)).cons _

theorem parts_sublist {s a : Select} {t env : τ} (h : .select env a ∈ s.nodes v t) :
    (a.parts v env).Sublist (s.nodes v t) :=
  parts_gathered.select_holds s t env a h

theorem Query.parts_sublist {q : Query} {a : Select} {t env : τ} (h : .select env a ∈ q.nodes v t) :
    (a.parts v env).Sublist (q.nodes v t) :=
  parts_gathered.query_holds q t env a h

def namesAmong (L : List (Node τ)) : List String := L.filterMap fun
  | .relation _ r => r.referenceName?
  | _ => none

theorem mem_namesAmong {L : List (Node τ)} {name : String} :
    name ∈ namesAmong L ↔ ∃ t r, .relation t r ∈ L ∧ r.referenceName? = some name := by
  rw [namesAmong, List.mem_filterMap]
  constructor
  · rintro ⟨x, hx, named⟩
    cases x with
    | relation t r => exact ⟨t, r, hx, named⟩
    | _ => cases named
  · rintro ⟨t, r, hr, named⟩
    exact ⟨_, hr, named⟩

theorem relation_mem_nodes {f : FromItem} {r : Relation} (h : r ∈ f.relations) (t : τ) :
    .relation t r ∈ f.nodes v t := by
  obtain ⟨relation, joins⟩ := f
  rw [FromItem.nodes, List.mem_append]
  rcases List.mem_cons.1 h with rfl | joined
  · left
    rw [Relation.nodes_eq]
    exact List.mem_cons_self
  · right
    obtain ⟨j, hj, rfl⟩ := List.mem_map.1 joined
    clear h joined
    induction joins with
    | nil => cases hj
    | cons j' js ih =>
      rw [nodesOfJoins, List.mem_append]
      rcases List.mem_cons.1 hj with rfl | hj
      · obtain ⟨type, relation, constraint⟩ := j
        left
        rw [Join.nodes, Relation.nodes_eq]
        exact List.mem_cons_self
      · exact .inr (ih hj)

theorem relationNames_among {fs : List FromItem} {name : String} (h : name ∈ relationNames fs) (t : τ) :
    name ∈ namesAmong (nodesOfSources v t fs) := by
  obtain ⟨r, hr, named⟩ := List.mem_filterMap.1 h
  refine mem_namesAmong.2 ⟨t, r, ?_, named⟩
  obtain ⟨f, hf, mem⟩ := List.mem_flatMap.1 hr
  clear h hr
  induction fs with
  | nil => cases hf
  | cons f' fs ih =>
    rw [nodesOfSources, List.mem_append]
    rcases List.mem_cons.1 hf with rfl | hf
    · exact .inl (relation_mem_nodes mem t)
    · exact .inr (ih hf)

def Node.bare : Node τ → Node Unit
  | .leaf _ e => .leaf () e
  | .relation _ r => .relation () r
  | .select _ s => .select () s
  | .query _ q => .query () q

def viewing (v : Scoping τ) : PieceProperty where
  expr e := ∀ t, e.nodes .unscoped () = (e.nodes v t).map Node.bare
  exprs es := ∀ t, nodesOfExprs .unscoped () es = (nodesOfExprs v t es).map Node.bare
  option o := ∀ t, nodesOfOption .unscoped () o = (nodesOfOption v t o).map Node.bare
  branches bs := ∀ t, nodesOfBranches .unscoped () bs = (nodesOfBranches v t bs).map Node.bare
  item i := ∀ t, i.nodes .unscoped () = (i.nodes v t).map Node.bare
  items is := ∀ t, nodesOfItems .unscoped () is = (nodesOfItems v t is).map Node.bare
  relation r := ∀ t, r.nodes .unscoped () = (r.nodes v t).map Node.bare
  constraint k := ∀ t, k.nodes .unscoped () = (k.nodes v t).map Node.bare
  join j := ∀ t, j.nodes .unscoped () = (j.nodes v t).map Node.bare
  joins js := ∀ t, nodesOfJoins .unscoped () js = (nodesOfJoins v t js).map Node.bare
  source x := ∀ t, x.nodes .unscoped () = (x.nodes v t).map Node.bare
  sources xs := ∀ t, nodesOfSources .unscoped () xs = (nodesOfSources v t xs).map Node.bare
  select s := ∀ t, s.nodes .unscoped () = (s.nodes v t).map Node.bare
  body b := ∀ t, b.nodes .unscoped () = (b.nodes v t).map Node.bare
  order o := ∀ t, o.nodes .unscoped () = (o.nodes v t).map Node.bare
  orders os := ∀ t, nodesOfOrder .unscoped () os = (nodesOfOrder v t os).map Node.bare
  cte k := ∀ t, k.nodes .unscoped () = (k.nodes v t).map Node.bare
  ctes ks := ∀ t, nodesOfCtes .unscoped () ks = (nodesOfCtes v t ks).map Node.bare
  query q := ∀ t, q.nodes .unscoped () = (q.nodes v t).map Node.bare

theorem viewing_ascends : (viewing v).Ascends where
  leaf e leaf t := by rw [Expr.nodes_leaf .unscoped leaf, Expr.nodes_leaf v leaf]; rfl
  binary op l r hl hr t := by rw [Expr.nodes, Expr.nodes, hl, hr, List.map_append]
  not e he := he
  neg e he := he
  call g es d hes := hes
  case o bs e ho hbs he t := by
    rw [Expr.nodes, Expr.nodes, ho, hbs, he, List.map_append, List.map_append]
  subquery q hq := hq
  existential q negated hq := hq
  inList e es negated he hes t := by rw [Expr.nodes, Expr.nodes, he, hes, List.map_append]
  inQuery e q negated he hq t := by rw [Expr.nodes, Expr.nodes, he, hq, List.map_append]
  between e l u negated he hl hu t := by
    rw [Expr.nodes, Expr.nodes, he, hl, hu, List.map_append, List.map_append]
  isNull e negated he := he
  like e p negated he hp t := by rw [Expr.nodes, Expr.nodes, he, hp, List.map_append]
  cast e type he := he
  index a i ha hi t := by rw [Expr.nodes, Expr.nodes, ha, hi, List.map_append]
  array es hes := hes
  paren e he := he
  exprsNil t := rfl
  exprsCons e es he hes t := by rw [nodesOfExprs, nodesOfExprs, he, hes, List.map_append]
  optionNone t := rfl
  optionSome e he := he
  branchesNil t := rfl
  branchesCons k e bs hk he hbs t := by
    rw [nodesOfBranches, nodesOfBranches, hk, he, hbs, List.map_append, List.map_append]
  item e label he := he
  itemsNil t := rfl
  itemsCons i is hi his t := by rw [nodesOfItems, nodesOfItems, hi, his, List.map_append]
  table path label t := rfl
  derived q label hq t := by rw [Relation.nodes, Relation.nodes, hq]; rfl
  unnest es label hes t := by rw [Relation.nodes, Relation.nodes, hes]; rfl
  on e he := he
  usingColumns columns t := rfl
  unconstrained t := rfl
  join type r k hr hk t := by rw [Join.nodes, Join.nodes, hr, hk, List.map_append]
  joinsNil t := rfl
  joinsCons j js hj hjs t := by rw [nodesOfJoins, nodesOfJoins, hj, hjs, List.map_append]
  source r js hr hjs t := by rw [FromItem.nodes, FromItem.nodes, hr, hjs, List.map_append]
  sourcesNil t := rfl
  sourcesCons x xs hx hxs t := by rw [nodesOfSources, nodesOfSources, hx, hxs, List.map_append]
  select d is fs w g k his hfs hw hg hk t := by
    rw [Select.nodes_eq, Select.nodes_eq, List.map_cons]
    refine congrArg (List.cons _) ?_
    simp only [Select.parts, unscoped_enterSelect, List.map_append]
    rw [his, hfs, hw, hg, hk]
  bodySelect s hs := hs
  setOp op all l r hl hr t := by rw [Body.nodes, Body.nodes, hl, hr, List.map_append]
  bodyQuery q hq := hq
  order e dir nulls he := he
  ordersNil t := rfl
  ordersCons o os ho hos t := by rw [nodesOfOrder, nodesOfOrder, ho, hos, List.map_append]
  cte name columns q hq := hq
  ctesNil t := rfl
  ctesCons k ks hk hks t := by rw [nodesOfCtes, nodesOfCtes, hk, hks, List.map_append]
  query ks r b os l o hks hb hos hl ho t := by
    rw [Query.nodes_eq, Query.nodes_eq, List.map_cons]
    refine congrArg (List.cons _) ?_
    simp only [Query.parts, unscoped_enterQuery, List.map_append]
    rw [hks, hb, hos, hl, ho]

theorem leaf_unscoped {e x : Expr} {t env : τ} (h : .leaf env x ∈ e.nodes v t) :
    .leaf () x ∈ e.nodes .unscoped () := by
  rw [(viewing_ascends (v := v)).expr_holds e t]
  exact List.mem_map.2 ⟨_, h, rfl⟩

theorem leaf_surrounded {e x : Expr} {t env : τ} (h : .leaf env x ∈ e.nodes v t) (t' : τ) :
    ∃ env', .leaf env' x ∈ e.nodes v t' := by
  have bare := leaf_unscoped h
  rw [(viewing_ascends (v := v)).expr_holds e t', List.mem_map] at bare
  obtain ⟨y, hy, same⟩ := bare
  cases y with
  | leaf env' x' =>
    obtain rfl : x' = x := by cases same; rfl
    exact ⟨env', hy⟩
  | _ => cases same

end QueryBridge
