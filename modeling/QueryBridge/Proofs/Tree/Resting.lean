import Mathlib.Order.CompleteBooleanAlgebra
import Mathlib.Order.CompletePartialOrder
import QueryBridge.Proofs.Tree.Walk

set_option autoImplicit false

namespace QueryBridge

variable {m : Type → Type} [Monad m] {σ : Type} [Preorder σ] [Outcomes m σ] {ρ : Type}

structure Rewrite.Rests (r : Rewrite m ρ) (C : Node ρ → Prop) : Prop where
  leaf : ∀ {env n k e e'}, Yields (r.leaf env e) n e' k →
    n ≤ k ∧ (C (.leaf env e) → k ≤ n → e' = e)
  relation : ∀ {env n k a b}, Yields (r.leaveRelation env a) n b k →
    n ≤ k ∧ (C (.relation env a) → k ≤ n → b = a)
  select : ∀ {env n k a b}, Yields (r.leaveSelect env a) n b k →
    n ≤ k ∧ (C (.select env a) → k ≤ n → b = a)
  query : ∀ {env n k a a' b}, Yields (r.leaveQuery env a a') n b k →
    n ≤ k ∧ (C (.query env a) → k ≤ n → a' = a → b = a)

/-- The walk from `a` to `b` moves forward, and if it stands still on nodes with `C` it changes nothing. -/
def Still (C : Node ρ → Prop) (n k : σ) (nodes : List (Node ρ)) {α : Type} (a b : α) : Prop :=
  n ≤ k ∧ ((∀ x ∈ nodes, C x) → k ≤ n → b = a)

section

variable {C : Node ρ → Prop} {n i j k : σ} {L M N : List (Node ρ)} {α β γ δ : Type}

theorem Still.refl (a : α) : Still C n n L a a := ⟨le_refl n, fun _ _ => rfl⟩

theorem Still.map (f : α → β) {a b : α} (h : Still C n k L a b) : Still C n k L (f a) (f b) :=
  ⟨h.1, fun hC hk => congrArg f (h.2 hC hk)⟩

theorem Still.map₂ (f : α → β → γ) {a b : α} {a' b' : β} (h : Still C n j L a b)
    (h' : Still C j k M a' b') : Still C n k (L ++ M) (f a a') (f b b') := by
  refine ⟨le_trans h.1 h'.1, fun hC hk => ?_⟩
  have first := h.2 (fun x hx => hC x (List.mem_append_left _ hx)) (le_trans h'.1 hk)
  have second := h'.2 (fun x hx => hC x (List.mem_append_right _ hx)) (le_trans hk h.1)
  rw [first, second]

theorem Still.map₃ (f : α → β → γ → δ) {a b : α} {a' b' : β} {a'' b'' : γ} (h : Still C n i L a b)
    (h' : Still C i j M a' b') (h'' : Still C j k N a'' b'') :
    Still C n k (L ++ (M ++ N)) (f a a' a'') (f b b' b'') :=
  Still.map₂ (fun x (y : β × γ) => f x y.1 y.2) h (Still.map₂ Prod.mk h' h'')

variable {v : Scoping ρ} {inner : ρ} {l : σ}

theorem Still.select {a b : Select} (same : b.distinct = a.distinct)
    (hp : Still C n i (nodesOfItems v inner a.projection) a.projection b.projection)
    (hf : Still C i j (nodesOfSources v inner a.sources) a.sources b.sources)
    (hw : Still C j k (nodesOfOption v inner a.selection) a.selection b.selection)
    (hg : Still C k l (nodesOfExprs v inner a.groupBy) a.groupBy b.groupBy) {l' : σ}
    (hh : Still C l l' (nodesOfOption v inner a.having) a.having b.having) :
    Still C n l' (a.parts v inner) a b := by
  obtain ⟨distinct, p, f, w, g, h⟩ := a
  obtain ⟨_, p', f', w', g', h'⟩ := b
  obtain rfl : _ = distinct := same
  exact Still.map₂ (fun p (t : _ × _ × _ × _) => Select.mk _ p t.1 t.2.1 t.2.2.1 t.2.2.2)
    hp (Still.map₂ Prod.mk hf (Still.map₃ (fun w g h => (w, g, h)) hw hg hh))

theorem Still.query {a b : Query} (same : b.recursive = a.recursive)
    (hc : Still C n i (nodesOfCtes v inner a.ctes) a.ctes b.ctes)
    (hd : Still C i j (a.body.nodes v inner) a.body b.body)
    (ho : Still C j k (nodesOfOrder v inner a.orderBy) a.orderBy b.orderBy)
    (hl : Still C k l (nodesOfOption v inner a.limit) a.limit b.limit) {l' : σ}
    (hf : Still C l l' (nodesOfOption v inner a.offset) a.offset b.offset) :
    Still C n l' (a.parts v inner) a b := by
  obtain ⟨c, recursive, d, o, l, f⟩ := a
  obtain ⟨c', _, d', o', l', f'⟩ := b
  obtain rfl : _ = recursive := same
  exact Still.map₂ (fun c (t : _ × _ × _ × _) => Query.mk c _ t.1 t.2.1 t.2.2.1 t.2.2.2)
    hc (Still.map₂ Prod.mk hd (Still.map₃ (fun o l f => (o, l, f)) ho hl hf))

end

def stillness (r : Rewrite m ρ) (C : Node ρ → Prop) : WalkProperty ρ σ where
  expr env n k a b := Still C n k (a.nodes r.toScoping env) a b
  exprs env n k a b := Still C n k (nodesOfExprs r.toScoping env a) a b
  option env n k a b := Still C n k (nodesOfOption r.toScoping env a) a b
  branches env n k a b := Still C n k (nodesOfBranches r.toScoping env a) a b
  item env n k a b := Still C n k (a.nodes r.toScoping env) a b
  items env n k a b := Still C n k (nodesOfItems r.toScoping env a) a b
  relation env n k a b := Still C n k (a.nodes r.toScoping env) a b
  constraint env n k a b := Still C n k (a.nodes r.toScoping env) a b
  join env n k a b := Still C n k (a.nodes r.toScoping env) a b
  joins env n k a b := Still C n k (nodesOfJoins r.toScoping env a) a b
  source env n k a b := Still C n k (a.nodes r.toScoping env) a b
  sources env n k a b := Still C n k (nodesOfSources r.toScoping env a) a b
  select env n k a b := Still C n k (a.nodes r.toScoping env) a b
  body env n k a b := Still C n k (a.nodes r.toScoping env) a b
  order env n k a b := Still C n k (a.nodes r.toScoping env) a b
  orders env n k a b := Still C n k (nodesOfOrder r.toScoping env a) a b
  cte env n k a b := Still C n k (a.nodes r.toScoping env) a b
  ctes env n k a b := Still C n k (nodesOfCtes r.toScoping env a) a b
  query env n k a b := Still C n k (a.nodes r.toScoping env) a b

namespace Rewrite.Rests

variable {r : Rewrite m ρ} {C : Node ρ → Prop} (h : r.Rests C)

include h

theorem leaveRelation {env : ρ} {n j k : σ} {L : List (Node ρ)} {a a' b : Relation}
    (ha : Still C n j L a a') (hy : Yields (r.leaveRelation env a') j b k) :
    Still C n k (.relation env a :: L) a b := by
  refine ⟨le_trans ha.1 (h.relation hy).1, fun hC hk => ?_⟩
  have same := ha.2 (fun x hx => hC x (List.mem_cons_of_mem _ hx)) (le_trans (h.relation hy).1 hk)
  subst same
  exact (h.relation hy).2 (hC _ List.mem_cons_self) (le_trans hk ha.1)

theorem leaveSelect {env : ρ} {n j k : σ} {L : List (Node ρ)} {a a' b : Select}
    (ha : Still C n j L a a') (hy : Yields (r.leaveSelect env a') j b k) :
    Still C n k (.select env a :: L) a b := by
  refine ⟨le_trans ha.1 (h.select hy).1, fun hC hk => ?_⟩
  have same := ha.2 (fun x hx => hC x (List.mem_cons_of_mem _ hx)) (le_trans (h.select hy).1 hk)
  subst same
  exact (h.select hy).2 (hC _ List.mem_cons_self) (le_trans hk ha.1)

theorem leaveQuery {env : ρ} {n j k : σ} {L : List (Node ρ)} {a a' b : Query}
    (ha : Still C n j L a a') (hy : Yields (r.leaveQuery env a a') j b k) :
    Still C n k (.query env a :: L) a b := by
  refine ⟨le_trans ha.1 (h.query hy).1, fun hC hk => ?_⟩
  have same := ha.2 (fun x hx => hC x (List.mem_cons_of_mem _ hx)) (le_trans (h.query hy).1 hk)
  exact (h.query hy).2 (hC _ List.mem_cons_self) (le_trans hk ha.1) same

theorem ascends : (stillness r C).Ascends r where
  leaf he hy := by
    change Still C _ _ _ _ _
    rw [Expr.nodes_leaf _ he]
    exact ⟨(h.leaf hy).1, fun hC => (h.leaf hy).2 (hC _ List.mem_cons_self)⟩
  binary {env n j k op l t l' t'} := Still.map₂ (Expr.binary op)
  not := Still.map _
  neg := Still.map _
  call {env n k f es d es'} := Still.map (Expr.call f · d)
  case := Still.map₃ _
  subquery := Still.map _
  existential {env n k q negated q'} := Still.map (Expr.exists · negated)
  inList {env n j k e es negated e' es'} := Still.map₂ (Expr.inList · · negated)
  inQuery {env n j k e q negated e' q'} := Still.map₂ (Expr.inQuery · · negated)
  between {env n i j k e l u negated e' l' u'} := Still.map₃ (Expr.between · · · negated)
  isNull {env n k e negated e'} := Still.map (Expr.isNull · negated)
  like {env n j k e p negated e' p'} := Still.map₂ (Expr.like · · negated)
  cast {env n k e type e'} := Still.map (Expr.cast · type)
  index := Still.map₂ _
  array := Still.map _
  paren := Still.map _
  exprsNil := Still.refl _
  exprsCons := Still.map₂ _
  optionNone := Still.refl _
  optionSome := Still.map _
  branchesNil := Still.refl _
  branchesCons := Still.map₃ fun c t bs => (c, t) :: bs
  item {env n k e label e'} := Still.map (SelectItem.mk · label)
  itemsNil := Still.refl _
  itemsCons := Still.map₂ _
  table hy := h.leaveRelation (Still.refl _) hy
  derived {env n j k q label q' b} _ hq hy := h.leaveRelation (Still.map (Relation.derived · label) hq) hy
  unnest {env n j k es label es' b} _ hes hy :=
    h.leaveRelation (Still.map (Relation.unnest · label) hes) hy
  on := Still.map _
  usingColumns := Still.refl _
  unconstrained := Still.refl _
  join {env n j k type a c a' c'} := Still.map₂ (Join.mk type)
  joinsNil := Still.refl _
  joinsCons := Still.map₂ _
  source := Still.map₂ _
  sourcesNil := Still.refl _
  sourcesCons := Still.map₂ _
  select ha hp hf hw hg ht hb := by
    change Still C _ _ _ _ _
    rw [Select.nodes_eq]
    exact h.leaveSelect (Still.select (Select.distinct_rewriteParts ha) hp hf hw hg ht) hb
  bodySelect := Still.map _
  setOp {env n j k op all l t l' t'} := Still.map₂ (Body.setOp op all)
  bodyQuery := Still.map _
  order {env n k e dir nulls e'} := Still.map (OrderItem.mk · dir nulls)
  ordersNil := Still.refl _
  ordersCons := Still.map₂ _
  cte {env n k name columns q q'} := Still.map (Cte.mk name columns)
  ctesNil := Still.refl _
  ctesCons := Still.map₂ _
  query ha hc hd ho hl hf hb := by
    change Still C _ _ _ _ _
    rw [Query.nodes_eq]
    exact h.leaveQuery (Still.query (Query.recursive_rewriteParts ha) hc hd ho hl hf) hb

open Outcomes in
theorem selectParts {inner : ρ} {n k : σ} {a b : Select} (hy : Yields (a.rewriteParts r inner) n b k) :
    Still C n k (a.parts r.toScoping inner) a b := by
  have distinct := Select.distinct_rewriteParts hy
  simp only [Select.rewriteParts, yields_bind, yields_pure] at hy
  obtain ⟨_, _, yp, _, _, yf, _, _, yw, _, _, yg, _, _, yh, rfl, rfl⟩ := hy
  have pieces := h.ascends.pieces
  exact Still.select distinct (pieces.items_hold _ yp) (pieces.sources_hold _ yf)
    (pieces.option_holds _ yw) (pieces.exprs_hold _ yg) (pieces.option_holds _ yh)

end Rewrite.Rests

theorem Rewrite.identity_rests (v : Scoping ρ) : (Rewrite.identity Id v).Rests (fun _ => True) where
  leaf hy := ⟨le_refl _, fun _ _ => (Outcomes.yields_pure.1 hy).1⟩
  relation hy := ⟨le_refl _, fun _ _ => (Outcomes.yields_pure.1 hy).1⟩
  select hy := ⟨le_refl _, fun _ _ => (Outcomes.yields_pure.1 hy).1⟩
  query hy := ⟨le_refl _, fun _ _ same => same ▸ (Outcomes.yields_pure.1 hy).1⟩

end QueryBridge
