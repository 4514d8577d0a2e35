import QueryBridge.Tree.Basic

set_option autoImplicit false

namespace QueryBridge

def Expr.isLeaf : Expr → Bool
  | .column _ _ | .literal _ | .keyword _ | .star _ | .unsupported _ => true
  | _ => false

structure PieceProperty where
  expr : Expr → Prop
  exprs : List Expr → Prop
  option : Option Expr → Prop
  branches : List (Expr × Expr) → Prop
  item : SelectItem → Prop
  items : List SelectItem → Prop
  relation : Relation → Prop
  constraint : JoinConstraint → Prop
  join : Join → Prop
  joins : List Join → Prop
  source : FromItem → Prop
  sources : List FromItem → Prop
  select : Select → Prop
  body : Body → Prop
  order : OrderItem → Prop
  orders : List OrderItem → Prop
  cte : Cte → Prop
  ctes : List Cte → Prop
  query : Query → Prop

/-- The property passes from parts to wholes. -/
structure PieceProperty.Ascends (P : PieceProperty) : Prop where
  leaf : ∀ e, e.isLeaf → P.expr e
  binary : ∀ op l r, P.expr l → P.expr r → P.expr (.binary op l r)
  not : ∀ e, P.expr e → P.expr (.not e)
  neg : ∀ e, P.expr e → P.expr (.neg e)
  call : ∀ f es d, P.exprs es → P.expr (.call f es d)
  case : ∀ o bs t, P.option o → P.branches bs → P.option t → P.expr (.case o bs t)
  subquery : ∀ q, P.query q → P.expr (.subquery q)
  existential : ∀ q negated, P.query q → P.expr (.exists q negated)
  inList : ∀ e es negated, P.expr e → P.exprs es → P.expr (.inList e es negated)
  inQuery : ∀ e q negated, P.expr e → P.query q → P.expr (.inQuery e q negated)
  between : ∀ e l u negated, P.expr e → P.expr l → P.expr u → P.expr (.between e l u negated)
  isNull : ∀ e negated, P.expr e → P.expr (.isNull e negated)
  like : ∀ e p negated, P.expr e → P.expr p → P.expr (.like e p negated)
  cast : ∀ e type, P.expr e → P.expr (.cast e type)
  index : ∀ a i, P.expr a → P.expr i → P.expr (.index a i)
  array : ∀ es, P.exprs es → P.expr (.array es)
  paren : ∀ e, P.expr e → P.expr (.paren e)
  exprsNil : P.exprs []
  exprsCons : ∀ e es, P.expr e → P.exprs es → P.exprs (e :: es)
  optionNone : P.option none
  optionSome : ∀ e, P.expr e → P.option (some e)
  branchesNil : P.branches []
  branchesCons : ∀ c t bs, P.expr c → P.expr t → P.branches bs → P.branches ((c, t) :: bs)
  item : ∀ e label, P.expr e → P.item ⟨e, label⟩
  itemsNil : P.items []
  itemsCons : ∀ i is, P.item i → P.items is → P.items (i :: is)
  table : ∀ path label, P.relation (.table path label)
  derived : ∀ q label, P.query q → P.relation (.derived q label)
  unnest : ∀ es label, P.exprs es → P.relation (.unnest es label)
  on : ∀ e, P.expr e → P.constraint (.on e)
  usingColumns : ∀ columns, P.constraint (.using columns)
  unconstrained : P.constraint .none
  join : ∀ type r c, P.relation r → P.constraint c → P.join ⟨type, r, c⟩
  joinsNil : P.joins []
  joinsCons : ∀ j js, P.join j → P.joins js → P.joins (j :: js)
  source : ∀ r js, P.relation r → P.joins js → P.source ⟨r, js⟩
  sourcesNil : P.sources []
  sourcesCons : ∀ f fs, P.source f → P.sources fs → P.sources (f :: fs)
  select : ∀ d p f w g h, P.items p → P.sources f → P.option w → P.exprs g → P.option h →
    P.select ⟨d, p, f, w, g, h⟩
  bodySelect : ∀ s, P.select s → P.body (.select s)
  setOp : ∀ op all l r, P.body l → P.body r → P.body (.setOp op all l r)
  bodyQuery : ∀ q, P.query q → P.body (.query q)
  order : ∀ e dir nulls, P.expr e → P.order ⟨e, dir, nulls⟩
  ordersNil : P.orders []
  ordersCons : ∀ o os, P.order o → P.orders os → P.orders (o :: os)
  cte : ∀ name columns q, P.query q → P.cte ⟨name, columns, q⟩
  ctesNil : P.ctes []
  ctesCons : ∀ c cs, P.cte c → P.ctes cs → P.ctes (c :: cs)
  query : ∀ c r b o l f, P.ctes c → P.body b → P.orders o → P.option l → P.option f →
    P.query ⟨c, r, b, o, l, f⟩

namespace PieceProperty.Ascends

variable {P : PieceProperty} (h : P.Ascends)

include h

mutual

theorem expr_holds : ∀ e, P.expr e
  | .binary op l r => h.binary op l r (expr_holds l) (expr_holds r)
  | .not e => h.not e (expr_holds e)
  | .neg e => h.neg e (expr_holds e)
  | .call f es d => h.call f es d (exprs_hold es)
  | .case o bs t => h.case o bs t (option_holds o) (branches_hold bs) (option_holds t)
  | .subquery q => h.subquery q (query_holds q)
  | .exists q negated => h.existential q negated (query_holds q)
  | .inList e es negated => h.inList e es negated (expr_holds e) (exprs_hold es)
  | .inQuery e q negated => h.inQuery e q negated (expr_holds e) (query_holds q)
  | .between e l u negated => h.between e l u negated (expr_holds e) (expr_holds l) (expr_holds u)
  | .isNull e negated => h.isNull e negated (expr_holds e)
  | .like e p negated => h.like e p negated (expr_holds e) (expr_holds p)
  | .cast e type => h.cast e type (expr_holds e)
  | .index a i => h.index a i (expr_holds a) (expr_holds i)
  | .array es => h.array es (exprs_hold es)
  | .paren e => h.paren e (expr_holds e)
  | .column _ _ => h.leaf _ rfl
  | .literal _ => h.leaf _ rfl
  | .keyword _ => h.leaf _ rfl
  | .star _ => h.leaf _ rfl
  | .unsupported _ => h.leaf _ rfl

theorem exprs_hold : ∀ es, P.exprs es
  | [] => h.exprsNil
  | e :: es => h.exprsCons e es (expr_holds e) (exprs_hold es)

theorem option_holds : ∀ o, P.option o
  | none => h.optionNone
  | some e => h.optionSome e (expr_holds e)

theorem branches_hold : ∀ bs, P.branches bs
  | [] => h.branchesNil
  | (c, t) :: bs => h.branchesCons c t bs (expr_holds c) (expr_holds t) (branches_hold bs)

theorem item_holds : ∀ i, P.item i
  | ⟨e, label⟩ => h.item e label (expr_holds e)

theorem items_hold : ∀ is, P.items is
  | [] => h.itemsNil
  | i :: is => h.itemsCons i is (item_holds i) (items_hold is)

theorem relation_holds : ∀ r, P.relation r
  | .table path label => h.table path label
  | .derived q label => h.derived q label (query_holds q)
  | .unnest es label => h.unnest es label (exprs_hold es)

theorem constraint_holds : ∀ c, P.constraint c
  | .on e => h.on e (expr_holds e)
  | .using columns => h.usingColumns columns
  | .none => h.unconstrained

theorem join_holds : ∀ j, P.join j
  | ⟨type, r, c⟩ => h.join type r c (relation_holds r) (constraint_holds c)

theorem joins_hold : ∀ js, P.joins js
  | [] => h.joinsNil
  | j :: js => h.joinsCons j js (join_holds j) (joins_hold js)

theorem source_holds : ∀ f, P.source f
  | ⟨r, js⟩ => h.source r js (relation_holds r) (joins_hold js)

theorem sources_hold : ∀ fs, P.sources fs
  | [] => h.sourcesNil
  | f :: fs => h.sourcesCons f fs (source_holds f) (sources_hold fs)

theorem select_holds : ∀ s, P.select s
  | ⟨d, p, f, w, g, t⟩ => h.select d p f w g t (items_hold p) (sources_hold f) (option_holds w)
      (exprs_hold g) (option_holds t)

theorem body_holds : ∀ b, P.body b
  | .select s => h.bodySelect s (select_holds s)
  | .setOp op all l r => h.setOp op all l r (body_holds l) (body_holds r)
  | .query q => h.bodyQuery q (query_holds q)

theorem order_holds : ∀ o, P.order o
  | ⟨e, dir, nulls⟩ => h.order e dir nulls (expr_holds e)

theorem orders_hold : ∀ os, P.orders os
  | [] => h.ordersNil
  | o :: os => h.ordersCons o os (order_holds o) (orders_hold os)

theorem cte_holds : ∀ c, P.cte c
  | ⟨name, columns, q⟩ => h.cte name columns q (query_holds q)

theorem ctes_hold : ∀ cs, P.ctes cs
  | [] => h.ctesNil
  | c :: cs => h.ctesCons c cs (cte_holds c) (ctes_hold cs)

theorem query_holds : ∀ q, P.query q
  | ⟨c, r, b, o, l, f⟩ => h.query c r b o l f (ctes_hold c) (body_holds b) (orders_hold o)
      (option_holds l) (option_holds f)

end

end PieceProperty.Ascends

end QueryBridge
