import QueryBridge.Proofs.Tree.Induction
import QueryBridge.Proofs.Tree.Outcomes

set_option autoImplicit false

/-! A relation between a piece of a tree and its rewritten form, stated for each kind of piece together
with the states before and after. If it passes from the parts of a piece to the piece, through the
hooks, then it holds of every outcome of the walk. -/

namespace QueryBridge

structure WalkProperty (ρ σ : Type) where
  expr : ρ → σ → σ → Expr → Expr → Prop
  exprs : ρ → σ → σ → List Expr → List Expr → Prop
  option : ρ → σ → σ → Option Expr → Option Expr → Prop
  branches : ρ → σ → σ → List (Expr × Expr) → List (Expr × Expr) → Prop
  item : ρ → σ → σ → SelectItem → SelectItem → Prop
  items : ρ → σ → σ → List SelectItem → List SelectItem → Prop
  relation : ρ → σ → σ → Relation → Relation → Prop
  constraint : ρ → σ → σ → JoinConstraint → JoinConstraint → Prop
  join : ρ → σ → σ → Join → Join → Prop
  joins : ρ → σ → σ → List Join → List Join → Prop
  source : ρ → σ → σ → FromItem → FromItem → Prop
  sources : ρ → σ → σ → List FromItem → List FromItem → Prop
  select : ρ → σ → σ → Select → Select → Prop
  body : ρ → σ → σ → Body → Body → Prop
  order : ρ → σ → σ → OrderItem → OrderItem → Prop
  orders : ρ → σ → σ → List OrderItem → List OrderItem → Prop
  cte : ρ → σ → σ → Cte → Cte → Prop
  ctes : ρ → σ → σ → List Cte → List Cte → Prop
  query : ρ → σ → σ → Query → Query → Prop

variable {m : Type → Type} [Monad m] {σ : Type} [Outcomes m σ] {ρ : Type}

/-- The relation passes from parts to wholes. At a SELECT and at a query the rewritten parts are those of
`a'`, which the hook then leaves as `b`. -/
structure WalkProperty.Ascends (P : WalkProperty ρ σ) (r : Rewrite m ρ) : Prop where
  leaf : ∀ {env n k e e'}, e.isLeaf → Yields (r.leaf env e) n e' k → P.expr env n k e e'
  binary : ∀ {env n j k op l t l' t'}, P.expr env n j l l' → P.expr env j k t t' →
    P.expr env n k (.binary op l t) (.binary op l' t')
  not : ∀ {env n k e e'}, P.expr env n k e e' → P.expr env n k (.not e) (.not e')
  neg : ∀ {env n k e e'}, P.expr env n k e e' → P.expr env n k (.neg e) (.neg e')
  call : ∀ {env n k f es d es'}, P.exprs env n k es es' → P.expr env n k (.call f es d) (.call f es' d)
  case : ∀ {env n i j k o bs t o' bs' t'}, P.option env n i o o' → P.branches env i j bs bs' →
    P.option env j k t t' → P.expr env n k (.case o bs t) (.case o' bs' t')
  subquery : ∀ {env n k q q'}, P.query env n k q q' → P.expr env n k (.subquery q) (.subquery q')
  existential : ∀ {env n k q negated q'}, P.query env n k q q' →
    P.expr env n k (.exists q negated) (.exists q' negated)
  inList : ∀ {env n j k e es negated e' es'}, P.expr env n j e e' → P.exprs env j k es es' →
    P.expr env n k (.inList e es negated) (.inList e' es' negated)
  inQuery : ∀ {env n j k e q negated e' q'}, P.expr env n j e e' → P.query env j k q q' →
    P.expr env n k (.inQuery e q negated) (.inQuery e' q' negated)
  between : ∀ {env n i j k e l u negated e' l' u'}, P.expr env n i e e' → P.expr env i j l l' →
    P.expr env j k u u' → P.expr env n k (.between e l u negated) (.between e' l' u' negated)
  isNull : ∀ {env n k e negated e'}, P.expr env n k e e' →
    P.expr env n k (.isNull e negated) (.isNull e' negated)
  like : ∀ {env n j k e p negated e' p'}, P.expr env n j e e' → P.expr env j k p p' →
    P.expr env n k (.like e p negated) (.like e' p' negated)
  cast : ∀ {env n k e type e'}, P.expr env n k e e' → P.expr env n k (.cast e type) (.cast e' type)
  index : ∀ {env n j k a i a' i'}, P.expr env n j a a' → P.expr env j k i i' →
    P.expr env n k (.index a i) (.index a' i')
  array : ∀ {env n k es es'}, P.exprs env n k es es' → P.expr env n k (.array es) (.array es')
  paren : ∀ {env n k e e'}, P.expr env n k e e' → P.expr env n k (.paren e) (.paren e')
  exprsNil : ∀ {env n}, P.exprs env n n [] []
  exprsCons : ∀ {env n j k e es e' es'}, P.expr env n j e e' → P.exprs env j k es es' →
    P.exprs env n k (e :: es) (e' :: es')
  optionNone : ∀ {env n}, P.option env n n none none
  optionSome : ∀ {env n k e e'}, P.expr env n k e e' → P.option env n k (some e) (some e')
  branchesNil : ∀ {env n}, P.branches env n n [] []
  branchesCons : ∀ {env n i j k c t bs c' t' bs'}, P.expr env n i c c' → P.expr env i j t t' →
    P.branches env j k bs bs' → P.branches env n k ((c, t) :: bs) ((c', t') :: bs')
  item : ∀ {env n k e label e'}, P.expr env n k e e' → P.item env n k ⟨e, label⟩ ⟨e', label⟩
  itemsNil : ∀ {env n}, P.items env n n [] []
  itemsCons : ∀ {env n j k a as a' as'}, P.item env n j a a' → P.items env j k as as' →
    P.items env n k (a :: as) (a' :: as')
  table : ∀ {env n k path label b}, Yields (r.leaveRelation env (.table path label)) n b k →
    P.relation env n k (.table path label) b
  derived : ∀ {env n j k q label q' b}, Yields (q.rewrite r env) n q' j → P.query env n j q q' →
    Yields (r.leaveRelation env (.derived q' label)) j b k → P.relation env n k (.derived q label) b
  unnest : ∀ {env n j k es label es' b}, Yields (rewriteExprs r env es) n es' j →
    P.exprs env n j es es' → Yields (r.leaveRelation env (.unnest es' label)) j b k → P.relation env n k (.unnest es label) b
  on : ∀ {env n k e e'}, P.expr env n k e e' → P.constraint env n k (.on e) (.on e')
  usingColumns : ∀ {env n columns}, P.constraint env n n (.using columns) (.using columns)
  unconstrained : ∀ {env n}, P.constraint env n n .none .none
  join : ∀ {env n j k type a c a' c'}, P.relation env n j a a' → P.constraint env j k c c' →
    P.join env n k ⟨type, a, c⟩ ⟨type, a', c'⟩
  joinsNil : ∀ {env n}, P.joins env n n [] []
  joinsCons : ∀ {env n j k a as a' as'}, P.join env n j a a' → P.joins env j k as as' →
    P.joins env n k (a :: as) (a' :: as')
  source : ∀ {env n j k a js a' js'}, P.relation env n j a a' → P.joins env j k js js' →
    P.source env n k ⟨a, js⟩ ⟨a', js'⟩
  sourcesNil : ∀ {env n}, P.sources env n n [] []
  sourcesCons : ∀ {env n j k a as a' as'}, P.source env n j a a' → P.sources env j k as as' →
    P.sources env n k (a :: as) (a' :: as')
  select : ∀ {env n i₁ i₂ i₃ i₄ j k a a' b}, let inner := r.enterSelect env a
    Yields (a.rewriteParts r inner) n a' j → P.items inner n i₁ a.projection a'.projection →
    P.sources inner i₁ i₂ a.sources a'.sources → P.option inner i₂ i₃ a.selection a'.selection →
    P.exprs inner i₃ i₄ a.groupBy a'.groupBy → P.option inner i₄ j a.having a'.having →
    Yields (r.leaveSelect inner a') j b k → P.select env n k a b
  bodySelect : ∀ {env n k s s'}, P.select env n k s s' → P.body env n k (.select s) (.select s')
  setOp : ∀ {env n j k op all l t l' t'}, P.body env n j l l' → P.body env j k t t' →
    P.body env n k (.setOp op all l t) (.setOp op all l' t')
  bodyQuery : ∀ {env n k q q'}, P.query env n k q q' → P.body env n k (.query q) (.query q')
  order : ∀ {env n k e dir nulls e'}, P.expr env n k e e' → P.order env n k ⟨e, dir, nulls⟩ ⟨e', dir, nulls⟩
  ordersNil : ∀ {env n}, P.orders env n n [] []
  ordersCons : ∀ {env n j k a as a' as'}, P.order env n j a a' → P.orders env j k as as' →
    P.orders env n k (a :: as) (a' :: as')
  cte : ∀ {env n k name columns q q'}, P.query env n k q q' →
    P.cte env n k ⟨name, columns, q⟩ ⟨name, columns, q'⟩
  ctesNil : ∀ {env n}, P.ctes env n n [] []
  ctesCons : ∀ {env n j k a as a' as'}, P.cte env n j a a' → P.ctes env j k as as' →
    P.ctes env n k (a :: as) (a' :: as')
  query : ∀ {env n i₁ i₂ i₃ i₄ j k a a' b}, let inner := r.enterQuery env a
    Yields (a.rewriteParts r inner) n a' j → P.ctes inner n i₁ a.ctes a'.ctes →
    P.body inner i₁ i₂ a.body a'.body → P.orders inner i₂ i₃ a.orderBy a'.orderBy →
    P.option inner i₃ i₄ a.limit a'.limit → P.option inner i₄ j a.offset a'.offset →
    Yields (r.leaveQuery inner a a') j b k → P.query env n k a b

namespace WalkProperty

def pieces (P : WalkProperty ρ σ) (r : Rewrite m ρ) : PieceProperty where
  expr a := ∀ {env n b k}, Yields (a.rewrite r env) n b k → P.expr env n k a b
  exprs a := ∀ {env n b k}, Yields (rewriteExprs r env a) n b k → P.exprs env n k a b
  option a := ∀ {env n b k}, Yields (rewriteOption r env a) n b k → P.option env n k a b
  branches a := ∀ {env n b k}, Yields (rewriteBranches r env a) n b k → P.branches env n k a b
  item a := ∀ {env n b k}, Yields (a.rewrite r env) n b k → P.item env n k a b
  items a := ∀ {env n b k}, Yields (rewriteItems r env a) n b k → P.items env n k a b
  relation a := ∀ {env n b k}, Yields (a.rewrite r env) n b k → P.relation env n k a b
  constraint a := ∀ {env n b k}, Yields (a.rewrite r env) n b k → P.constraint env n k a b
  join a := ∀ {env n b k}, Yields (a.rewrite r env) n b k → P.join env n k a b
  joins a := ∀ {env n b k}, Yields (rewriteJoins r env a) n b k → P.joins env n k a b
  source a := ∀ {env n b k}, Yields (a.rewrite r env) n b k → P.source env n k a b
  sources a := ∀ {env n b k}, Yields (rewriteSources r env a) n b k → P.sources env n k a b
  select a := ∀ {env n b k}, Yields (a.rewrite r env) n b k → P.select env n k a b
  body a := ∀ {env n b k}, Yields (a.rewrite r env) n b k → P.body env n k a b
  order a := ∀ {env n b k}, Yields (a.rewrite r env) n b k → P.order env n k a b
  orders a := ∀ {env n b k}, Yields (rewriteOrder r env a) n b k → P.orders env n k a b
  cte a := ∀ {env n b k}, Yields (a.rewrite r env) n b k → P.cte env n k a b
  ctes a := ∀ {env n b k}, Yields (rewriteCtes r env a) n b k → P.ctes env n k a b
  query a := ∀ {env n b k}, Yields (a.rewrite r env) n b k → P.query env n k a b

open Outcomes in
theorem Ascends.pieces {P : WalkProperty ρ σ} {r : Rewrite m ρ} (h : P.Ascends r) :
    (P.pieces r).Ascends where
  leaf e he {env n b k} hy := by
    refine h.leaf he ?_
    cases e <;> first | exact hy | cases he
  binary op l t hl ht {env n b k} hy := by
    simp only [Expr.rewrite, yields_bind, yields_pure] at hy
    obtain ⟨_, _, yl, _, _, yt, rfl, rfl⟩ := hy
    exact h.binary (hl yl) (ht yt)
  not e he {env n b k} hy := by
    simp only [Expr.rewrite, yields_bind, yields_pure] at hy
    obtain ⟨_, _, ye, rfl, rfl⟩ := hy
    exact h.not (he ye)
  neg e he {env n b k} hy := by
    simp only [Expr.rewrite, yields_bind, yields_pure] at hy
    obtain ⟨_, _, ye, rfl, rfl⟩ := hy
    exact h.neg (he ye)
  call f es d hes {env n b k} hy := by
    simp only [Expr.rewrite, yields_bind, yields_pure] at hy
    obtain ⟨_, _, yes, rfl, rfl⟩ := hy
    exact h.call (hes yes)
  case o bs t ho hbs ht {env n b k} hy := by
    simp only [Expr.rewrite, yields_bind, yields_pure] at hy
    obtain ⟨_, _, yo, _, _, ybs, _, _, yt, rfl, rfl⟩ := hy
    exact h.case (ho yo) (hbs ybs) (ht yt)
  subquery q hq {env n b k} hy := by
    simp only [Expr.rewrite, yields_bind, yields_pure] at hy
    obtain ⟨_, _, yq, rfl, rfl⟩ := hy
    exact h.subquery (hq yq)
  existential q negated hq {env n b k} hy := by
    simp only [Expr.rewrite, yields_bind, yields_pure] at hy
    obtain ⟨_, _, yq, rfl, rfl⟩ := hy
    exact h.existential (hq yq)
  inList e es negated he hes {env n b k} hy := by
    simp only [Expr.rewrite, yields_bind, yields_pure] at hy
    obtain ⟨_, _, ye, _, _, yes, rfl, rfl⟩ := hy
    exact h.inList (he ye) (hes yes)
  inQuery e q negated he hq {env n b k} hy := by
    simp only [Expr.rewrite, yields_bind, yields_pure] at hy
    obtain ⟨_, _, ye, _, _, yq, rfl, rfl⟩ := hy
    exact h.inQuery (he ye) (hq yq)
  between e l u negated he hl hu {env n b k} hy := by
    simp only [Expr.rewrite, yields_bind, yields_pure] at hy
    obtain ⟨_, _, ye, _, _, yl, _, _, yu, rfl, rfl⟩ := hy
    exact h.between (he ye) (hl yl) (hu yu)
  isNull e negated he {env n b k} hy := by
    simp only [Expr.rewrite, yields_bind, yields_pure] at hy
    obtain ⟨_, _, ye, rfl, rfl⟩ := hy
    exact h.isNull (he ye)
  like e p negated he hp {env n b k} hy := by
    simp only [Expr.rewrite, yields_bind, yields_pure] at hy
    obtain ⟨_, _, ye, _, _, yp, rfl, rfl⟩ := hy
    exact h.like (he ye) (hp yp)
  cast e type he {env n b k} hy := by
    simp only [Expr.rewrite, yields_bind, yields_pure] at hy
    obtain ⟨_, _, ye, rfl, rfl⟩ := hy
    exact h.cast (he ye)
  index a i ha hi {env n b k} hy := by
    simp only [Expr.rewrite, yields_bind, yields_pure] at hy
    obtain ⟨_, _, ya, _, _, yi, rfl, rfl⟩ := hy
    exact h.index (ha ya) (hi yi)
  array es hes {env n b k} hy := by
    simp only [Expr.rewrite, yields_bind, yields_pure] at hy
    obtain ⟨_, _, yes, rfl, rfl⟩ := hy
    exact h.array (hes yes)
  paren e he {env n b k} hy := by
    simp only [Expr.rewrite, yields_bind, yields_pure] at hy
    obtain ⟨_, _, ye, rfl, rfl⟩ := hy
    exact h.paren (he ye)
  exprsNil {env n b k} hy := by
    simp only [rewriteExprs, yields_pure] at hy
    obtain ⟨rfl, rfl⟩ := hy
    exact h.exprsNil
  exprsCons e es he hes {env n b k} hy := by
    simp only [rewriteExprs, yields_bind, yields_pure] at hy
    obtain ⟨_, _, ye, _, _, yes, rfl, rfl⟩ := hy
    exact h.exprsCons (he ye) (hes yes)
  optionNone {env n b k} hy := by
    simp only [rewriteOption, yields_pure] at hy
    obtain ⟨rfl, rfl⟩ := hy
    exact h.optionNone
  optionSome e he {env n b k} hy := by
    simp only [rewriteOption, yields_bind, yields_pure] at hy
    obtain ⟨_, _, ye, rfl, rfl⟩ := hy
    exact h.optionSome (he ye)
  branchesNil {env n b k} hy := by
    simp only [rewriteBranches, yields_pure] at hy
    obtain ⟨rfl, rfl⟩ := hy
    exact h.branchesNil
  branchesCons c t bs hc ht hbs {env n b k} hy := by
    simp only [rewriteBranches, yields_bind, yields_pure] at hy
    obtain ⟨_, _, yc, _, _, yt, _, _, ybs, rfl, rfl⟩ := hy
    exact h.branchesCons (hc yc) (ht yt) (hbs ybs)
  item e label he {env n b k} hy := by
    simp only [SelectItem.rewrite, yields_bind, yields_pure] at hy
    obtain ⟨_, _, ye, rfl, rfl⟩ := hy
    exact h.item (he ye)
  itemsNil {env n b k} hy := by
    simp only [rewriteItems, yields_pure] at hy
    obtain ⟨rfl, rfl⟩ := hy
    exact h.itemsNil
  itemsCons a as ha has {env n b k} hy := by
    simp only [rewriteItems, yields_bind, yields_pure] at hy
    obtain ⟨_, _, ya, _, _, yas, rfl, rfl⟩ := hy
    exact h.itemsCons (ha ya) (has yas)
  table path label {env n b k} hy := h.table hy
  derived q label hq {env n b k} hy := by
    simp only [Relation.rewrite, yields_bind] at hy
    obtain ⟨_, _, yq, yb⟩ := hy
    exact h.derived yq (hq yq) yb
  unnest es label hes {env n b k} hy := by
    simp only [Relation.rewrite, yields_bind] at hy
    obtain ⟨_, _, yes, yb⟩ := hy
    exact h.unnest yes (hes yes) yb
  on e he {env n b k} hy := by
    simp only [JoinConstraint.rewrite, yields_bind, yields_pure] at hy
    obtain ⟨_, _, ye, rfl, rfl⟩ := hy
    exact h.on (he ye)
  usingColumns columns {env n b k} hy := by
    simp only [JoinConstraint.rewrite, yields_pure] at hy
    obtain ⟨rfl, rfl⟩ := hy
    exact h.usingColumns
  unconstrained {env n b k} hy := by
    simp only [JoinConstraint.rewrite, yields_pure] at hy
    obtain ⟨rfl, rfl⟩ := hy
    exact h.unconstrained
  join type a c ha hc {env n b k} hy := by
    simp only [Join.rewrite, yields_bind, yields_pure] at hy
    obtain ⟨_, _, ya, _, _, yc, rfl, rfl⟩ := hy
    exact h.join (ha ya) (hc yc)
  joinsNil {env n b k} hy := by
    simp only [rewriteJoins, yields_pure] at hy
    obtain ⟨rfl, rfl⟩ := hy
    exact h.joinsNil
  joinsCons a as ha has {env n b k} hy := by
    simp only [rewriteJoins, yields_bind, yields_pure] at hy
    obtain ⟨_, _, ya, _, _, yas, rfl, rfl⟩ := hy
    exact h.joinsCons (ha ya) (has yas)
  source a js ha hjs {env n b k} hy := by
    simp only [FromItem.rewrite, yields_bind, yields_pure] at hy
    obtain ⟨_, _, ya, _, _, yjs, rfl, rfl⟩ := hy
    exact h.source (ha ya) (hjs yjs)
  sourcesNil {env n b k} hy := by
    simp only [rewriteSources, yields_pure] at hy
    obtain ⟨rfl, rfl⟩ := hy
    exact h.sourcesNil
  sourcesCons a as ha has {env n b k} hy := by
    simp only [rewriteSources, yields_bind, yields_pure] at hy
    obtain ⟨_, _, ya, _, _, yas, rfl, rfl⟩ := hy
    exact h.sourcesCons (ha ya) (has yas)
  select d p f w g t hp hf hw hg ht {env n b k} hy := by
    obtain ⟨a', j, ha, hb⟩ := Select.yields_rewrite.1 hy
    have parts := ha
    simp only [Select.rewriteParts, yields_bind, yields_pure] at parts
    obtain ⟨_, _, yp, _, _, yf, _, _, yw, _, _, yg, _, _, yt, rfl, rfl⟩ := parts
    exact h.select ha (hp yp) (hf yf) (hw yw) (hg yg) (ht yt) hb
  bodySelect s hs {env n b k} hy := by
    simp only [Body.rewrite, yields_bind, yields_pure] at hy
    obtain ⟨_, _, ys, rfl, rfl⟩ := hy
    exact h.bodySelect (hs ys)
  setOp op all l t hl ht {env n b k} hy := by
    simp only [Body.rewrite, yields_bind, yields_pure] at hy
    obtain ⟨_, _, yl, _, _, yt, rfl, rfl⟩ := hy
    exact h.setOp (hl yl) (ht yt)
  bodyQuery q hq {env n b k} hy := by
    simp only [Body.rewrite, yields_bind, yields_pure] at hy
    obtain ⟨_, _, yq, rfl, rfl⟩ := hy
    exact h.bodyQuery (hq yq)
  order e dir nulls he {env n b k} hy := by
    simp only [OrderItem.rewrite, yields_bind, yields_pure] at hy
    obtain ⟨_, _, ye, rfl, rfl⟩ := hy
    exact h.order (he ye)
  ordersNil {env n b k} hy := by
    simp only [rewriteOrder, yields_pure] at hy
    obtain ⟨rfl, rfl⟩ := hy
    exact h.ordersNil
  ordersCons a as ha has {env n b k} hy := by
    simp only [rewriteOrder, yields_bind, yields_pure] at hy
    obtain ⟨_, _, ya, _, _, yas, rfl, rfl⟩ := hy
    exact h.ordersCons (ha ya) (has yas)
  cte name columns q hq {env n b k} hy := by
    simp only [Cte.rewrite, yields_bind, yields_pure] at hy
    obtain ⟨_, _, yq, rfl, rfl⟩ := hy
    exact h.cte (hq yq)
  ctesNil {env n b k} hy := by
    simp only [rewriteCtes, yields_pure] at hy
    obtain ⟨rfl, rfl⟩ := hy
    exact h.ctesNil
  ctesCons a as ha has {env n b k} hy := by
    simp only [rewriteCtes, yields_bind, yields_pure] at hy
    obtain ⟨_, _, ya, _, _, yas, rfl, rfl⟩ := hy
    exact h.ctesCons (ha ya) (has yas)
  query c rec d o l f hc hd ho hl hf {env n b k} hy := by
    obtain ⟨a', j, ha, hb⟩ := Query.yields_rewrite.1 hy
    have parts := ha
    simp only [Query.rewriteParts, yields_bind, yields_pure] at parts
    obtain ⟨_, _, yc, _, _, yd, _, _, yo, _, _, yl, _, _, yf, rfl, rfl⟩ := parts
    exact h.query ha (hc yc) (hd yd) (ho yo) (hl yl) (hf yf) hb

end WalkProperty

end QueryBridge
