import QueryBridge.Proofs.Passes.GeneratedNames
import QueryBridge.Proofs.Tree.Correspondence

set_option autoImplicit false

namespace QueryBridge.Passes

def starKind : Expr → Option Bool
  | .star qualifier => some qualifier.isEmpty
  | _ => none

theorem starKind_other (e : Expr) (other : e.isLeaf = false) : starKind e = none := by
  cases e <;> first | rfl | cases other

def starColumns (s : Select) : List (Option Bool) := s.projection.map (starKind ·.expr)

theorem hasBareStar_eq (s : Select) : hasBareStar s = (starColumns s).any (· == some true) := by
  unfold hasBareStar starColumns
  rw [List.any_map]
  refine congrArg s.projection.any (funext fun item => ?_)
  change _ = (starKind item.expr == some true)
  unfold starKind
  split
  · rename_i bare
    rw [bare]
    rfl
  · rename_i other
    split
    · rename_i qualifier star
      cases qualifier with
      | nil => exact (other star).elim
      | cons part rest => rfl
    · rfl

/-- No subquery of an EXISTS among the conjuncts projects a bare star. -/
def StarFree (s : Select) : Prop := ∀ q, .exists q false ∈ whereConjuncts s →
  ∀ inner, q.select? = some inner → hasBareStar inner = false

def StarFreeNode : Node Unit → Prop
  | .select _ s => StarFree s
  | _ => True

section

variable {m : Type → Type} [Monad m] {σ : Type} [Outcomes m σ] {ρ : Type}

/-- The hooks keep how many columns a projection has and which of them are stars. -/
structure KeepsProjections (r : Rewrite m ρ) : Prop where
  leaves : r.KeepsLeaves
  star : ∀ {env n k e e'}, Yields (r.leaf env e) n e' k → starKind e' = starKind e
  select : ∀ {env n k} {a b : Select}, Yields (r.leaveSelect env a) n b k → starColumns b = starColumns a
  query : ∀ {env n k} {before a b : Query}, Yields (r.leaveQuery env before a) n b k → b.body = a.body

variable {r : Rewrite m ρ} (h : KeepsProjections r) {n k : σ}

include h

theorem starColumns_rewriteParts {inner : ρ} {a b : Select}
    (hy : Yields (a.rewriteParts r inner) n b k) : starColumns b = starColumns a := by
  have items := Select.projection_correspond hy
  unfold starColumns
  generalize a.projection = is at items ⊢
  generalize b.projection = is' at items ⊢
  induction items with
  | nil => rfl
  | cons one _ ih =>
    obtain ⟨-, i, j, he⟩ := one
    rw [List.map_cons, List.map_cons, ih, Expr.leafTest_rewrite h.leaves starKind_other h.star he]

theorem starColumns_leftmost :
    (∀ b : Body, ∀ {env n b' k}, Yields (b.rewrite r env) n b' k →
      starColumns b'.leftmost = starColumns b.leftmost) ∧
    (∀ q : Query, ∀ {env n q' k}, Yields (q.rewrite r env) n q' k →
      starColumns q'.leftmost = starColumns q.leftmost) := by
  refine leftEnd_induction ?select ?setOp ?query ?body
  case select =>
    intro s env n b' k hy
    obtain ⟨s', _, hs, rest⟩ := Outcomes.yields_bind.1 hy
    obtain ⟨rfl, -⟩ := Outcomes.yields_pure.1 rest
    obtain ⟨a', _, parts, leave⟩ := Select.yields_rewrite.1 hs
    exact (h.select leave).trans (starColumns_rewriteParts h parts)
  case setOp =>
    intro op all left right ih env n b' k hy
    simp only [Body.rewrite, Outcomes.yields_bind, Outcomes.yields_pure] at hy
    obtain ⟨left', _, hl, _, _, -, rfl, -⟩ := hy
    change starColumns left'.leftmost = starColumns left.leftmost
    exact ih hl
  case query =>
    intro q ih env n b' k hy
    obtain ⟨q', _, hq, rest⟩ := Outcomes.yields_bind.1 hy
    obtain ⟨rfl, -⟩ := Outcomes.yields_pure.1 rest
    exact ih hq
  case body =>
    intro ctes recursive body orderBy limit offset ih env n q' k hy
    obtain ⟨a', _, parts, leave⟩ := Query.yields_rewrite.1 hy
    simp only [Query.rewriteParts, Outcomes.yields_bind, Outcomes.yields_pure] at parts
    obtain ⟨_, _, -, body', _, hb, _, _, -, _, _, -, _, _, -, rfl, -⟩ := parts
    have same := h.query leave
    obtain ⟨ctes', recursive', _, orderBy', limit', offset'⟩ := q'
    obtain rfl : _ = body' := same
    exact ih hb

theorem hasBareStar_rewriteParts {inner : ρ} {a b : Select} (hy : Yields (a.rewriteParts r inner) n b k) :
    hasBareStar b = hasBareStar a := by
  rw [hasBareStar_eq, hasBareStar_eq, starColumns_rewriteParts h hy]

theorem StarFree.rewriteParts {inner : ρ} {a b : Select} (hy : Yields (a.rewriteParts r inner) n b k)
    (free : StarFree a) : StarFree b := by
  intro q hq s hs
  obtain ⟨e, he, i, j, hx⟩ := forall₂_mem_right (whereConjuncts_rewriteParts h.leaves hy) hq
  obtain ⟨q₀, rfl, hq₀⟩ := Expr.exists_of_rewrite h.leaves hx
  obtain ⟨s₀, i', j', hs₀, hsel⟩ := Query.select_correspond h.query hq₀ hs
  obtain ⟨s₁, _, parts, leave⟩ := Select.yields_rewrite.1 hsel
  rw [hasBareStar_eq, h.select leave, ← hasBareStar_eq, hasBareStar_rewriteParts h parts]
  exact free q₀ he s₀ hs₀

end

end QueryBridge.Passes
