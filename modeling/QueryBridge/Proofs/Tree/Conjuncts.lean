import Mathlib.Data.List.Forall2
import QueryBridge.Proofs.Tree.Outcomes
import QueryBridge.Tree.Conjunction

set_option autoImplicit false

namespace QueryBridge

attribute [local simp] Expr.conjuncts Expr.nodes Expr.rewrite

@[elab_as_elim]
theorem Expr.conjuncts_induction {P : Expr → Prop} (joined : ∀ l r, P l → P r → P (.binary .and l r))
    (single : ∀ e, (∀ l r, e ≠ .binary .and l r) → e.conjuncts = [e] → P e) (e : Expr) : P e := by
  induction e using Expr.conjuncts.induct with
  | case1 l r ihl ihr => exact joined l r ihl ihr
  | case2 e other =>
    have same : e.conjuncts = [e] := by rw [conjuncts]; exact other
    exact single e other same

section

variable {τ : Type} (v : Scoping τ) (t : τ)

theorem Expr.nodes_conjuncts (e : Expr) : e.conjuncts.flatMap (·.nodes v t) = e.nodes v t := by
  induction e using conjuncts_induction with
  | joined l r ihl ihr => rw [conjuncts, List.flatMap_append, ihl, ihr, nodes]
  | single e other same => rw [same, List.flatMap_singleton]

theorem nodesOfOption_conjunction? (es : List Expr) :
    nodesOfOption v t (Expr.conjunction? es) = es.flatMap (·.nodes v t) := by
  cases es with
  | nil => rfl
  | cons e es =>
    rw [Expr.conjunction?, nodesOfOption, List.flatMap_cons]
    induction es generalizing e with
    | nil => simp
    | cons e' es ih =>
      rw [List.foldl_cons, ih, Expr.and, Expr.nodes, List.flatMap_cons, List.append_assoc]

end

theorem Expr.conjuncts_of_mem {e x : Expr} (h : x ∈ e.conjuncts) : x.conjuncts = [x] := by
  induction e using conjuncts_induction with
  | joined l r ihl ihr =>
    rw [conjuncts, List.mem_append] at h
    exact h.elim ihl ihr
  | single e other same =>
    rw [same, List.mem_singleton] at h
    rw [h, same]

theorem Expr.conjuncts_foldl (e : Expr) {es : List Expr} (h : ∀ x ∈ es, x.conjuncts = [x]) :
    (es.foldl Expr.and e).conjuncts = e.conjuncts ++ es := by
  induction es generalizing e with
  | nil => simp
  | cons x es ih =>
    rw [List.foldl_cons, ih _ fun y hy => h y (List.mem_cons_of_mem x hy), Expr.and, conjuncts,
      h x List.mem_cons_self, List.append_assoc, List.singleton_append]

theorem Expr.conjuncts_conjunction? {es : List Expr} (h : ∀ x ∈ es, x.conjuncts = [x]) :
    ((conjunction? es).map conjuncts).getD [] = es := by
  cases es with
  | nil => rfl
  | cons e es =>
    change (es.foldl Expr.and e).conjuncts = e :: es
    rw [conjuncts_foldl e fun x hx => h x (List.mem_cons_of_mem e hx), h e List.mem_cons_self,
      List.singleton_append]

section

variable {m : Type → Type} [Monad m] {σ : Type} [Outcomes m σ] {ρ : Type} {r : Rewrite m ρ} {env : ρ}

def Rewrite.KeepsLeaves (r : Rewrite m ρ) : Prop :=
  ∀ {env : ρ} {n k : σ} {e e' : Expr}, e.isLeaf → Yields (r.leaf env e) n e' k → e'.isLeaf

theorem Expr.conjuncts_leaf {e : Expr} (h : e.isLeaf) : e.conjuncts = [e] := by
  cases e <;> first | rfl | cases h

theorem Expr.conjuncts_rewrite (leaves : r.KeepsLeaves) {n k : σ} {e e' : Expr} (h : Yields (e.rewrite r env) n e' k) :
    List.Forall₂ (fun x y => ∃ i j, Yields (x.rewrite r env) i y j) e.conjuncts e'.conjuncts := by
  induction e using conjuncts_induction generalizing n k e' with
  | joined left right ihl ihr =>
    simp only [rewrite, Outcomes.yields_bind, Outcomes.yields_pure] at h
    obtain ⟨left', _, hl, right', _, hr, rfl, rfl⟩ := h
    rw [conjuncts, conjuncts]
    exact List.rel_append (ihl hl) (ihr hr)
  | single e other same =>
    -- Nothing but an AND is rewritten to an AND.
    have same' : e'.conjuncts = [e'] := by
      cases e with
      | column | literal | keyword | star | unsupported => exact conjuncts_leaf (leaves rfl h)
      | binary op left right =>
        simp only [rewrite, Outcomes.yields_bind, Outcomes.yields_pure] at h
        obtain ⟨_, _, _, _, _, _, rfl, -⟩ := h
        cases op <;> first | rfl | exact (other _ _ rfl).elim
      | not | neg | call | subquery | «exists» | isNull | cast | array | paren =>
        simp only [rewrite, Outcomes.yields_bind, Outcomes.yields_pure] at h
        obtain ⟨_, _, _, rfl, -⟩ := h
        rfl
      | inList | inQuery | like | index =>
        simp only [rewrite, Outcomes.yields_bind, Outcomes.yields_pure] at h
        obtain ⟨_, _, _, _, _, _, rfl, -⟩ := h
        rfl
      | case | between =>
        simp only [rewrite, Outcomes.yields_bind, Outcomes.yields_pure] at h
        obtain ⟨_, _, _, _, _, _, _, _, _, rfl, -⟩ := h
        rfl
    rw [same, same']
    exact .cons ⟨n, k, h⟩ .nil

theorem Expr.exists_of_rewrite (leaves : r.KeepsLeaves) {n k : σ} {e : Expr} {q' : Query} {negated : Bool}
    (h : Yields (e.rewrite r env) n (.exists q' negated) k) :
    ∃ q, e = .exists q negated ∧ Yields (q.rewrite r env) n q' k := by
  cases e with
  | column | literal | keyword | star | unsupported => exact absurd (leaves rfl h) (by simp [isLeaf])
  | «exists» q n' =>
    simp only [rewrite, Outcomes.yields_bind, Outcomes.yields_pure] at h
    obtain ⟨q'', _, hq, same, rfl⟩ := h
    cases same
    exact ⟨q, rfl, hq⟩
  | _ => simp [rewrite] at h

theorem Expr.binary_of_rewrite (leaves : r.KeepsLeaves) {n k : σ} {e left' right' : Expr} {op : BinaryOp}
    (h : Yields (e.rewrite r env) n (.binary op left' right') k) : ∃ left right, e = .binary op left right := by
  cases e with
  | column | literal | keyword | star | unsupported => exact absurd (leaves rfl h) (by simp [isLeaf])
  | binary op' left right =>
    simp only [rewrite, Outcomes.yields_bind, Outcomes.yields_pure] at h
    obtain ⟨_, _, _, _, _, _, same, -⟩ := h
    cases same
    exact ⟨left, right, rfl⟩
  | _ => simp [rewrite] at h

end

end QueryBridge
