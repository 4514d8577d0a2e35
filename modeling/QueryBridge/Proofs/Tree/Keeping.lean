import QueryBridge.Proofs.Tree.Correspondence
import QueryBridge.Proofs.Tree.Walk

set_option autoImplicit false

namespace QueryBridge

variable {m : Type → Type} [Monad m] {σ : Type} [Outcomes m σ] {ρ τ : Type}

/-- The nodes are functions of what is known around them: `r` walks in its own surroundings, `v` tells
those in which the nodes are looked at. -/
structure Rewrite.Keeps (r : Rewrite m ρ) (v : Scoping τ)
    (Φ : ρ → σ → σ → (τ → List (Node τ)) → (τ → List (Node τ)) → Prop) : Prop where
  nil : ∀ {env n}, Φ env n n (fun _ => []) (fun _ => [])
  append : ∀ {env n j k L L' M M'}, Φ env n j L L' → Φ env j k M M' →
    Φ env n k (fun t => L t ++ M t) (fun t => L' t ++ M' t)
  leaf : ∀ {env n k} {e e' : Expr}, e.isLeaf → Yields (r.leaf env e) n e' k →
    Φ env n k (fun t => [.leaf t e]) (fun t => e'.nodes v t)
  relation : ∀ {env n j k} {a a' b : Relation}, Yields (a.rewriteParts r env) n a' j →
    Φ env n j (fun t => a.parts v t) (fun t => a'.parts v t) →
    Yields (r.leaveRelation env a') j b k → Φ env n k (fun t => a.nodes v t) (fun t => b.nodes v t)
  select : ∀ {env n j k} {a a' b : Select}, let inner := r.enterSelect env a
    Yields (a.rewriteParts r inner) n a' j →
    Φ inner n j (fun t => a.parts v t) (fun t => a'.parts v t) →
    Yields (r.leaveSelect inner a') j b k → Φ env n k (fun t => a.nodes v t) (fun t => b.nodes v t)
  query : ∀ {env n j k} {a a' b : Query}, let inner := r.enterQuery env a
    Yields (a.rewriteParts r inner) n a' j →
    Φ inner n j (fun t => a.parts v t) (fun t => a'.parts v t) →
    Yields (r.leaveQuery inner a a') j b k → Φ env n k (fun t => a.nodes v t) (fun t => b.nodes v t)

def nodesKept (v : Scoping τ)
    (Φ : ρ → σ → σ → (τ → List (Node τ)) → (τ → List (Node τ)) → Prop) : WalkProperty ρ σ where
  expr env n k a b := Φ env n k (fun t => a.nodes v t) (fun t => b.nodes v t)
  exprs env n k a b := Φ env n k (fun t => nodesOfExprs v t a) (fun t => nodesOfExprs v t b)
  option env n k a b := Φ env n k (fun t => nodesOfOption v t a) (fun t => nodesOfOption v t b)
  branches env n k a b := Φ env n k (fun t => nodesOfBranches v t a) (fun t => nodesOfBranches v t b)
  item env n k a b := Φ env n k (fun t => a.nodes v t) (fun t => b.nodes v t)
  items env n k a b := Φ env n k (fun t => nodesOfItems v t a) (fun t => nodesOfItems v t b)
  relation env n k a b := Φ env n k (fun t => a.nodes v t) (fun t => b.nodes v t)
  constraint env n k a b := Φ env n k (fun t => a.nodes v t) (fun t => b.nodes v t)
  join env n k a b := Φ env n k (fun t => a.nodes v t) (fun t => b.nodes v t)
  joins env n k a b := Φ env n k (fun t => nodesOfJoins v t a) (fun t => nodesOfJoins v t b)
  source env n k a b := Φ env n k (fun t => a.nodes v t) (fun t => b.nodes v t)
  sources env n k a b := Φ env n k (fun t => nodesOfSources v t a) (fun t => nodesOfSources v t b)
  select env n k a b := Φ env n k (fun t => a.nodes v t) (fun t => b.nodes v t)
  body env n k a b := Φ env n k (fun t => a.nodes v t) (fun t => b.nodes v t)
  order env n k a b := Φ env n k (fun t => a.nodes v t) (fun t => b.nodes v t)
  orders env n k a b := Φ env n k (fun t => nodesOfOrder v t a) (fun t => nodesOfOrder v t b)
  cte env n k a b := Φ env n k (fun t => a.nodes v t) (fun t => b.nodes v t)
  ctes env n k a b := Φ env n k (fun t => nodesOfCtes v t a) (fun t => nodesOfCtes v t b)
  query env n k a b := Φ env n k (fun t => a.nodes v t) (fun t => b.nodes v t)

namespace Rewrite.Keeps

variable {r : Rewrite m ρ} {v : Scoping τ}
  {Φ : ρ → σ → σ → (τ → List (Node τ)) → (τ → List (Node τ)) → Prop} (h : r.Keeps v Φ)

include h

theorem ascends : (nodesKept v Φ).Ascends r where
  leaf he hy := by
    change Φ _ _ _ _ _
    rw [funext fun t => Expr.nodes_leaf v he t]
    exact h.leaf he hy
  binary := h.append
  not he := he
  neg he := he
  call hes := hes
  case ho hb ht := h.append ho (h.append hb ht)
  subquery hq := hq
  existential hq := hq
  inList := h.append
  inQuery := h.append
  between he hl hu := h.append he (h.append hl hu)
  isNull he := he
  like := h.append
  cast he := he
  index := h.append
  array hes := hes
  paren he := he
  exprsNil := h.nil
  exprsCons := h.append
  optionNone := h.nil
  optionSome he := he
  branchesNil := h.nil
  branchesCons hc ht hb := h.append hc (h.append ht hb)
  item he := he
  itemsNil := h.nil
  itemsCons := h.append
  table hy := h.relation (by simp [Relation.rewriteParts]) h.nil hy
  derived {env n j k q label q' b} yq hq hy :=
    h.relation (a := .derived q label) (b := b)
      (Outcomes.yields_bind.2 ⟨q', j, yq, by simp⟩) (by exact hq) hy
  unnest {env n j k es label es' b} yes hes hy :=
    h.relation (a := .unnest es label) (b := b)
      (Outcomes.yields_bind.2 ⟨es', j, yes, by simp⟩) (by exact hes) hy
  on he := he
  usingColumns := h.nil
  unconstrained := h.nil
  join := h.append
  joinsNil := h.nil
  joinsCons := h.append
  source := h.append
  sourcesNil := h.nil
  sourcesCons := h.append
  select ha hp hf hw hg ht hb :=
    h.select ha (h.append hp (h.append hf (h.append hw (h.append hg ht)))) hb
  bodySelect hs := hs
  setOp := h.append
  bodyQuery hq := hq
  order he := he
  ordersNil := h.nil
  ordersCons := h.append
  cte hq := hq
  ctesNil := h.nil
  ctesCons := h.append
  query ha hc hd ho hl hf hb :=
    h.query ha (h.append hc (h.append hd (h.append ho (h.append hl hf)))) hb

open Outcomes in
theorem selectParts {inner : ρ} {n k : σ} {a b : Select} (hy : Yields (a.rewriteParts r inner) n b k) :
    Φ inner n k (fun t => a.parts v t) (fun t => b.parts v t) := by
  simp only [Select.rewriteParts, yields_bind, yields_pure] at hy
  obtain ⟨_, _, yp, _, _, yf, _, _, yw, _, _, yg, _, _, yh, rfl, rfl⟩ := hy
  have pieces := h.ascends.pieces
  exact h.append (pieces.items_hold _ yp) (h.append (pieces.sources_hold _ yf)
    (h.append (pieces.option_holds _ yw) (h.append (pieces.exprs_hold _ yg) (pieces.option_holds _ yh))))

end Rewrite.Keeps

/-- Rewriting the parts of a node does not change what is known inside it. -/
structure Rewrite.KeepsScopes (r : Rewrite m ρ) (v : Scoping τ) : Prop where
  select : ∀ {inner n k t} {a a' : Select}, Yields (a.rewriteParts r inner) n a' k →
    v.enterSelect t a' = v.enterSelect t a
  query : ∀ {inner n k t} {a a' : Query}, Yields (a.rewriteParts r inner) n a' k →
    v.enterQuery t a' = v.enterQuery t a

theorem Rewrite.keepsScopes_unscoped (r : Rewrite m ρ) : r.KeepsScopes .unscoped :=
  ⟨fun _ => rfl, fun _ => rfl⟩

def Node.onLeaves (G : τ → Expr → Prop) : Node τ → Prop
  | .leaf t e => G t e
  | _ => True

def Node.onSelects (G : Select → Prop) : Node τ → Prop
  | .select _ s => G s
  | _ => True

instance {G : τ → Expr → Prop} [∀ t, DecidablePred (G t)] : DecidablePred (Node.onLeaves G)
  | .leaf t e => inferInstanceAs (Decidable (G t e))
  | .relation _ _ | .select _ _ | .query _ _ => .isTrue trivial

instance {G : Select → Prop} [DecidablePred G] : DecidablePred (Node.onSelects G : Node τ → Prop)
  | .select _ s => inferInstanceAs (Decidable (G s))
  | .leaf _ _ | .relation _ _ | .query _ _ => .isTrue trivial

/-- The property `F` of nodes survives the walk. -/
structure Rewrite.Preserves (r : Rewrite m ρ) (v : Scoping τ) (F : Node τ → Prop) : Prop where
  scopes : r.KeepsScopes v
  leaf : ∀ {env n k t} {e e' : Expr}, e.isLeaf → Yields (r.leaf env e) n e' k → F (.leaf t e) →
    ∀ x ∈ e'.nodes v t, F x
  relation : ∀ {env n k t} {a a' : Relation}, Yields (a.rewriteParts r env) n a' k →
    F (.relation t a) → F (.relation t a')
  select : ∀ {inner n k t} {a a' : Select}, Yields (a.rewriteParts r inner) n a' k →
    F (.select t a) → F (.select t a')
  query : ∀ {inner n k t} {a a' : Query}, Yields (a.rewriteParts r inner) n a' k →
    F (.query t a) → F (.query t a')
  leaveRelation : ∀ {env n k t} {a b : Relation}, Yields (r.leaveRelation env a) n b k →
    (∀ x ∈ a.nodes v t, F x) → ∀ x ∈ b.nodes v t, F x
  leaveSelect : ∀ {inner n k t} {a b : Select}, Yields (r.leaveSelect inner a) n b k →
    (∀ x ∈ a.nodes v t, F x) → ∀ x ∈ b.nodes v t, F x
  leaveQuery : ∀ {inner n k t} {before a b : Query}, Yields (r.leaveQuery inner before a) n b k →
    (∀ x ∈ a.nodes v t, F x) → ∀ x ∈ b.nodes v t, F x

/-- All nodes before have the property only if all nodes after have it. -/
def allNodes (F : Node τ → Prop) (_ : ρ) (_ _ : σ) (L L' : τ → List (Node τ)) : Prop :=
  ∀ t, (∀ x ∈ L t, F x) → ∀ x ∈ L' t, F x

namespace Rewrite.Preserves

variable {r : Rewrite m ρ} {v : Scoping τ} {F : Node τ → Prop} (h : r.Preserves v F)

include h

theorem keeps : r.Keeps v (allNodes F) where
  nil t := by simp
  append hL hM t hx := by
    rw [List.forall_mem_append] at hx ⊢
    exact ⟨hL t hx.1, hM t hx.2⟩
  leaf he hy t hx := h.leaf he hy (hx _ List.mem_cons_self)
  relation {env n j k a a' b} ha parts hy t hx := by
    simp only [Relation.nodes_eq v t a, List.forall_mem_cons] at hx
    refine h.leaveRelation hy ?_
    rw [Relation.nodes_eq, List.forall_mem_cons]
    exact ⟨h.relation ha hx.1, parts t hx.2⟩
  select {env n j k a a' b} ha parts hy t hx := by
    simp only [Select.nodes_eq v t a, List.forall_mem_cons] at hx
    refine h.leaveSelect hy ?_
    rw [Select.nodes_eq, List.forall_mem_cons, h.scopes.select ha]
    exact ⟨h.select ha hx.1, parts _ hx.2⟩
  query {env n j k a a' b} ha parts hy t hx := by
    simp only [Query.nodes_eq v t a, List.forall_mem_cons] at hx
    refine h.leaveQuery hy ?_
    rw [Query.nodes_eq, List.forall_mem_cons, h.scopes.query ha]
    exact ⟨h.query ha hx.1, parts _ hx.2⟩

theorem allNodes_query {env : ρ} {n k : σ} {q q' : Query} (hy : Yields (q.rewrite r env) n q' k) (t : τ)
    (hx : ∀ x ∈ q.nodes v t, F x) : ∀ x ∈ q'.nodes v t, F x :=
  h.keeps.ascends.pieces.query_holds q hy t hx

end Rewrite.Preserves

end QueryBridge
