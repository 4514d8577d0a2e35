import QueryBridge.Proofs.Tree.Conjuncts
import QueryBridge.Tree.Relations

set_option autoImplicit false

namespace QueryBridge

variable {m : Type → Type} [Monad m] {σ : Type} [Outcomes m σ] {ρ : Type} {r : Rewrite m ρ} {env : ρ}
  {n k : σ}

/-- Induction along the left end of bodies and queries. -/
theorem leftEnd_induction {P : Body → Prop} {Q : Query → Prop} (select : ∀ s, P (.select s))
    (setOp : ∀ op all left right, P left → P (.setOp op all left right)) (query : ∀ q, Q q → P (.query q))
    (body : ∀ ctes recursive body orderBy limit offset, P body → Q ⟨ctes, recursive, body, orderBy, limit, offset⟩) :
    (∀ b, P b) ∧ ∀ q, Q q :=
  Body.leftmost.mutual_induct P Q select setOp query body

theorem forall₂_mem_right {α β : Type} {R : α → β → Prop} {as : List α} {bs : List β}
    (h : List.Forall₂ R as bs) {b : β} (hb : b ∈ bs) : ∃ a ∈ as, R a b := by
  induction h with
  | nil => cases hb
  | cons one _ ih =>
    rcases List.mem_cons.1 hb with rfl | hb
    · exact ⟨_, List.mem_cons_self, one⟩
    · obtain ⟨a, ha, hab⟩ := ih hb
      exact ⟨a, List.mem_cons_of_mem _ ha, hab⟩

theorem Expr.isLeaf_rewrite (leaves : r.KeepsLeaves) {e e' : Expr}
    (h : Yields (e.rewrite r env) n e' k) : e'.isLeaf = e.isLeaf := by
  cases e with
  | column | literal | keyword | star | unsupported => exact leaves rfl h
  | not | neg | call | subquery | «exists» | isNull | cast | array | paren =>
    simp only [rewrite, Outcomes.yields_bind, Outcomes.yields_pure] at h
    obtain ⟨_, _, _, rfl, -⟩ := h
    rfl
  | binary | inList | inQuery | like | index =>
    simp only [rewrite, Outcomes.yields_bind, Outcomes.yields_pure] at h
    obtain ⟨_, _, _, _, _, _, rfl, -⟩ := h
    rfl
  | case | between =>
    simp only [rewrite, Outcomes.yields_bind, Outcomes.yields_pure] at h
    obtain ⟨_, _, _, _, _, _, _, _, _, rfl, -⟩ := h
    rfl

theorem Expr.rewrite_leaf {e : Expr} (h : e.isLeaf) : e.rewrite r env = r.leaf env e := by
  cases e <;> first | rfl | cases h

/-- What is asked of leaves only has the same answer after the walk if it has for each leaf. -/
theorem Expr.leafTest_rewrite (leaves : r.KeepsLeaves) {β : Type} {p : Expr → β} {other : β}
    (only : ∀ e, e.isLeaf = false → p e = other)
    (kind : ∀ {env n k e e'}, Yields (r.leaf env e) n e' k → p e' = p e) {e e' : Expr}
    (h : Yields (e.rewrite r env) n e' k) : p e' = p e := by
  cases he : e.isLeaf with
  | true =>
    rw [rewrite_leaf he] at h
    exact kind h
  | false => rw [only e he, only e' ((isLeaf_rewrite leaves h).trans he)]

theorem length_rewriteExprs {es es' : List Expr} (h : Yields (rewriteExprs r env es) n es' k) :
    es'.length = es.length := by
  induction es generalizing n k es' with
  | nil => rw [(Outcomes.yields_pure.1 h).1]
  | cons e es ih =>
    simp only [rewriteExprs, Outcomes.yields_bind, Outcomes.yields_pure] at h
    obtain ⟨_, _, -, es'', _, hes, rfl, -⟩ := h
    rw [List.length_cons, List.length_cons, ih hes]

theorem rewriteItems_correspond {is is' : List SelectItem} (h : Yields (rewriteItems r env is) n is' k) :
    List.Forall₂ (fun x y => y.label = x.label ∧ ∃ i j, Yields (x.expr.rewrite r env) i y.expr j)
      is is' := by
  induction is generalizing n is' with
  | nil =>
    obtain ⟨rfl, -⟩ := Outcomes.yields_pure.1 h
    exact .nil
  | cons x is ih =>
    obtain ⟨e, label⟩ := x
    simp only [rewriteItems, SelectItem.rewrite, Outcomes.yields_bind, Outcomes.yields_pure] at h
    obtain ⟨_, _, ⟨e', _, he, rfl, rfl⟩, is'', _, his, rfl, rfl⟩ := h
    exact .cons ⟨rfl, _, _, he⟩ (ih his)

theorem Select.projection_correspond {inner : ρ} {a b : Select}
    (h : Yields (a.rewriteParts r inner) n b k) :
    List.Forall₂ (fun x y => y.label = x.label ∧ ∃ i j, Yields (x.expr.rewrite r inner) i y.expr j)
      a.projection b.projection := by
  simp only [rewriteParts, Outcomes.yields_bind, Outcomes.yields_pure] at h
  obtain ⟨_, _, hp, _, _, -, _, _, -, _, _, -, _, _, -, rfl, -⟩ := h
  exact rewriteItems_correspond hp

theorem Select.groupBy_isEmpty_rewriteParts {inner : ρ} {a b : Select}
    (h : Yields (a.rewriteParts r inner) n b k) : b.groupBy.isEmpty = a.groupBy.isEmpty := by
  simp only [rewriteParts, Outcomes.yields_bind, Outcomes.yields_pure] at h
  obtain ⟨_, _, -, _, _, -, _, _, -, g, _, hg, _, _, -, rfl, -⟩ := h
  rw [Bool.eq_iff_iff, List.isEmpty_iff_length_eq_zero, List.isEmpty_iff_length_eq_zero,
    length_rewriteExprs hg]

theorem Select.having_isSome_rewriteParts {inner : ρ} {a b : Select}
    (h : Yields (a.rewriteParts r inner) n b k) : b.having.isSome = a.having.isSome := by
  simp only [rewriteParts, Outcomes.yields_bind, Outcomes.yields_pure] at h
  obtain ⟨_, _, -, _, _, -, _, _, -, _, _, -, o, _, ho, rfl, -⟩ := h
  cases present : a.having with
  | none =>
    rw [present] at ho
    rw [(Outcomes.yields_pure.1 ho).1]
  | some e =>
    rw [present] at ho
    obtain ⟨e', _, -, done⟩ := Outcomes.yields_bind.1 ho
    rw [(Outcomes.yields_pure.1 done).1]
    rfl

theorem FromItem.relations_correspond {a b : FromItem} (h : Yields (a.rewrite r env) n b k) :
    List.Forall₂ (fun x y => ∃ i j, Yields (x.rewrite r env) i y j) a.relations b.relations := by
  obtain ⟨relation, joins⟩ := a
  simp only [rewrite, Outcomes.yields_bind, Outcomes.yields_pure] at h
  obtain ⟨relation', _, hr, joins', _, hj, rfl, rfl⟩ := h
  refine .cons ⟨_, _, hr⟩ ?_
  clear hr
  rename_i j
  induction joins generalizing j joins' with
  | nil =>
    obtain ⟨rfl, -⟩ := Outcomes.yields_pure.1 hj
    exact .nil
  | cons join joins ih =>
    obtain ⟨type, relation, constraint⟩ := join
    simp only [rewriteJoins, Join.rewrite, Outcomes.yields_bind, Outcomes.yields_pure] at hj
    obtain ⟨_, _, ⟨_, _, hr, _, _, -, rfl, rfl⟩, _, _, hrest, rfl, rfl⟩ := hj
    exact .cons ⟨_, _, hr⟩ (ih _ _ hrest)

theorem Select.relations_correspond {inner : ρ} {a b : Select}
    (h : Yields (a.rewriteParts r inner) n b k) :
    List.Forall₂ (fun x y => ∃ i j, Yields (x.rewrite r inner) i y j) a.relations b.relations := by
  simp only [rewriteParts, Outcomes.yields_bind, Outcomes.yields_pure] at h
  obtain ⟨_, j, -, fs', j', hf, _, _, -, _, _, -, _, _, -, rfl, -⟩ := h
  change List.Forall₂ _ (a.sources.flatMap _) (fs'.flatMap _)
  generalize a.sources = fs at hf
  induction fs generalizing j fs' with
  | nil =>
    obtain ⟨rfl, -⟩ := Outcomes.yields_pure.1 hf
    exact .nil
  | cons f fs ih =>
    simp only [rewriteSources, Outcomes.yields_bind, Outcomes.yields_pure] at hf
    obtain ⟨_, _, hone, _, _, hrest, rfl, rfl⟩ := hf
    rw [List.flatMap_cons, List.flatMap_cons]
    exact List.rel_append (FromItem.relations_correspond hone) (ih _ _ hrest)

theorem Query.select_correspond (keeps : ∀ {env n k q q' q''}, Yields (r.leaveQuery env q q') n q'' k →
    q''.body = q'.body) {a b : Query} (h : Yields (a.rewrite r env) n b k) {s' : Select}
    (hs : b.select? = some s') :
    ∃ s i j, a.select? = some s ∧ Yields (s.rewrite r (r.enterQuery env a)) i s' j := by
  obtain ⟨a', _, ha, hb⟩ := Query.yields_rewrite.1 h
  simp only [rewriteParts, Outcomes.yields_bind, Outcomes.yields_pure] at ha
  obtain ⟨_, _, -, body', _, hbody, _, _, -, _, _, -, _, _, -, rfl, -⟩ := ha
  have same : b.body = body' := keeps hb
  unfold select? at hs ⊢
  rw [same] at hs
  cases present : a.body with
  | select s =>
    rw [present, Body.rewrite] at hbody
    simp only [Outcomes.yields_bind, Outcomes.yields_pure] at hbody
    obtain ⟨s'', _, hsel, rfl, -⟩ := hbody
    cases hs
    exact ⟨s, _, _, rfl, hsel⟩
  | setOp op all left right =>
    rw [present, Body.rewrite] at hbody
    simp only [Outcomes.yields_bind, Outcomes.yields_pure] at hbody
    obtain ⟨_, _, -, _, _, -, rfl, -⟩ := hbody
    cases hs
  | query q =>
    rw [present, Body.rewrite] at hbody
    simp only [Outcomes.yields_bind, Outcomes.yields_pure] at hbody
    obtain ⟨_, _, -, rfl, -⟩ := hbody
    cases hs

theorem Query.select_of_rewrite (keeps : ∀ {env n k q q' q''}, Yields (r.leaveQuery env q q') n q'' k →
    q''.body = q'.body) {a b : Query} (h : Yields (a.rewrite r env) n b k) {s : Select}
    (hs : a.select? = some s) :
    ∃ s' i j, b.select? = some s' ∧ Yields (s.rewrite r (r.enterQuery env a)) i s' j := by
  obtain ⟨a', _, ha, hb⟩ := Query.yields_rewrite.1 h
  simp only [rewriteParts, Outcomes.yields_bind, Outcomes.yields_pure] at ha
  obtain ⟨_, _, -, body', _, hbody, _, _, -, _, _, -, _, _, -, rfl, -⟩ := ha
  have same : b.body = body' := keeps hb
  unfold select? at hs ⊢
  rw [same]
  cases present : a.body with
  | select s₀ =>
    rw [present] at hs hbody
    cases hs
    obtain ⟨s', _, hsel, done⟩ := Outcomes.yields_bind.1 hbody
    rw [(Outcomes.yields_pure.1 done).1]
    exact ⟨s', _, _, rfl, hsel⟩
  | setOp => simp [present] at hs
  | query => simp [present] at hs

end QueryBridge
