import QueryBridge.Proofs.Tree.Induction
import QueryBridge.Tree.Nodes
import QueryBridge.Tree.Relations

set_option autoImplicit false

/-! A rewrite runs in a monad. What it can return is a relation between states and results, so that one
induction over the tree serves plain rewrites and those that number what they introduce. -/

namespace QueryBridge

/-- `Yields x n a k`: the computation `x`, started in state `n`, can end in state `k` with `a`. -/
class Outcomes (m : Type → Type) [Monad m] (σ : outParam Type) where
  Yields {α : Type} : m α → σ → α → σ → Prop
  yields_pure {α : Type} {a b : α} {n k : σ} : Yields (pure a) n b k ↔ b = a ∧ k = n
  yields_bind {α β : Type} {x : m α} {f : α → m β} {n k : σ} {b : β} :
    Yields (x >>= f) n b k ↔ ∃ a j, Yields x n a j ∧ Yields (f a) j b k

export Outcomes (Yields)

attribute [simp] Outcomes.yields_pure Outcomes.yields_bind

instance : Outcomes Id Unit where
  Yields x _ a _ := x = a
  yields_pure := ⟨fun h => ⟨h.symm, rfl⟩, fun h => h.1.symm⟩
  yields_bind := ⟨fun h => ⟨_, (), rfl, h⟩, fun ⟨_, _, ha, hb⟩ => ha ▸ hb⟩

theorem yields_id {α : Type} {x : Id α} {a : α} {n k : Unit} : Yields x n a k ↔ x = a := Iff.rfl

theorem yields_self {α : Type} (x : Id α) : Yields x () x.run () := rfl

instance (σ : Type) : Outcomes (StateM σ) σ where
  Yields x n a k := x.run n = (a, k)
  yields_pure {α a b n k} := by
    change (a, n) = (b, k) ↔ _
    rw [Prod.mk.injEq]
    exact ⟨fun h => ⟨h.1.symm, h.2.symm⟩, fun h => ⟨h.1.symm, h.2.symm⟩⟩
  yields_bind {α β x f n k b} := by
    change (f (x.run n).1).run (x.run n).2 = (b, k) ↔ _
    constructor
    · exact fun h => ⟨_, _, rfl, h⟩
    · rintro ⟨a, j, ha, hb⟩
      rw [ha]
      exact hb

theorem yields_state {σ α : Type} {x : StateM σ α} {n k : σ} {a : α} :
    Yields x n a k ↔ x.run n = (a, k) := Iff.rfl

section

variable {τ : Type} (v : Scoping τ)

def Relation.parts (env : τ) : Relation → List (Node τ)
  | .table _ _ => []
  | .derived q _ => q.nodes v env
  | .unnest exprs _ => nodesOfExprs v env exprs

def Select.parts (inner : τ) (s : Select) : List (Node τ) :=
  nodesOfItems v inner s.projection ++ (nodesOfSources v inner s.sources
    ++ (nodesOfOption v inner s.selection ++ (nodesOfExprs v inner s.groupBy
      ++ nodesOfOption v inner s.having)))

def Query.parts (inner : τ) (q : Query) : List (Node τ) :=
  nodesOfCtes v inner q.ctes ++ (q.body.nodes v inner ++ (nodesOfOrder v inner q.orderBy
    ++ (nodesOfOption v inner q.limit ++ nodesOfOption v inner q.offset)))

theorem Expr.nodes_leaf {e : Expr} (h : e.isLeaf) (t : τ) : e.nodes v t = [.leaf t e] := by
  cases e <;> first | rfl | cases h

theorem Relation.nodes_eq (env : τ) (r : Relation) :
    r.nodes v env = .relation env r :: r.parts v env := by
  cases r <;> rfl

theorem Select.nodes_eq (env : τ) (s : Select) :
    s.nodes v env = .select (v.enterSelect env s) s :: s.parts v (v.enterSelect env s) := by
  cases s; rfl

theorem Query.nodes_eq (env : τ) (q : Query) :
    q.nodes v env = .query (v.enterQuery env q) q :: q.parts v (v.enterQuery env q) := by
  cases q; rfl

/-- What is known of the surroundings depends on FROM clauses only. -/
structure Scoping.SeesSources (v : Scoping τ) : Prop where
  select : ∀ t (s s' : Select), s.sources = s'.sources → v.enterSelect t s = v.enterSelect t s'
  query : ∀ t (q q' : Query), q.select?.map (·.sources) = q'.select?.map (·.sources) →
    v.enterQuery t q = v.enterQuery t q'

theorem unscoped_seesSources : Scoping.unscoped.SeesSources := ⟨fun _ _ _ _ => rfl, fun _ _ _ _ => rfl⟩

@[simp] theorem unscoped_enterSelect (s : Select) : Scoping.unscoped.enterSelect () s = () := rfl

@[simp] theorem unscoped_enterQuery (q : Query) : Scoping.unscoped.enterQuery () q = () := rfl

end

section

variable {m : Type → Type} [Monad m] {ρ : Type}

def Relation.rewriteParts (r : Rewrite m ρ) (env : ρ) : Relation → m Relation
  | .table path label => return .table path label
  | .derived q label => return .derived (← q.rewrite r env) label
  | .unnest exprs label => return .unnest (← rewriteExprs r env exprs) label

def Select.rewriteParts (r : Rewrite m ρ) (inner : ρ) (s : Select) : m Select := do
  let p ← rewriteItems r inner s.projection
  let f ← rewriteSources r inner s.sources
  let w ← rewriteOption r inner s.selection
  let g ← rewriteExprs r inner s.groupBy
  let h ← rewriteOption r inner s.having
  return ⟨s.distinct, p, f, w, g, h⟩

def Query.rewriteParts (r : Rewrite m ρ) (inner : ρ) (q : Query) : m Query := do
  let c ← rewriteCtes r inner q.ctes
  let b ← q.body.rewrite r inner
  let o ← rewriteOrder r inner q.orderBy
  let l ← rewriteOption r inner q.limit
  let f ← rewriteOption r inner q.offset
  return ⟨c, q.recursive, b, o, l, f⟩

end

section

variable {m : Type → Type} [Monad m] {σ : Type} [Outcomes m σ] {ρ : Type}
  {r : Rewrite m ρ} {env : ρ} {n k : σ}

theorem Relation.yields_rewrite {a b : Relation} :
    Yields (a.rewrite r env) n b k ↔
      ∃ a' j, Yields (a.rewriteParts r env) n a' j ∧ Yields (r.leaveRelation env a') j b k := by
  cases a with
  | table path label => simp [Relation.rewrite, Relation.rewriteParts, and_assoc]
  | derived q label | unnest es label =>
    simp only [Relation.rewrite, Relation.rewriteParts, Outcomes.yields_bind, Outcomes.yields_pure]
    constructor
    · rintro ⟨x, j, hx, hr⟩
      exact ⟨_, j, ⟨x, j, hx, rfl, rfl⟩, hr⟩
    · rintro ⟨_, _, ⟨x, j, hx, rfl, rfl⟩, hr⟩
      exact ⟨x, _, hx, hr⟩

theorem Select.yields_rewrite {a b : Select} :
    Yields (a.rewrite r env) n b k ↔
      ∃ a' j, Yields (a.rewriteParts r (r.enterSelect env a)) n a' j ∧
        Yields (r.leaveSelect (r.enterSelect env a) a') j b k := by
  cases a
  simp only [Select.rewrite, Select.rewriteParts, Outcomes.yields_bind, Outcomes.yields_pure]
  constructor
  · rintro ⟨p, i, hp, f, i', hf, w, i'', hw, g, i''', hg, h, j, hh, hr⟩
    exact ⟨_, j, ⟨p, i, hp, f, i', hf, w, i'', hw, g, i''', hg, h, j, hh, rfl, rfl⟩, hr⟩
  · rintro ⟨_, _, ⟨p, i, hp, f, i', hf, w, i'', hw, g, i''', hg, h, j, hh, rfl, rfl⟩, hr⟩
    exact ⟨p, i, hp, f, i', hf, w, i'', hw, g, i''', hg, h, _, hh, hr⟩

theorem Query.yields_rewrite {a b : Query} :
    Yields (a.rewrite r env) n b k ↔
      ∃ a' j, Yields (a.rewriteParts r (r.enterQuery env a)) n a' j ∧
        Yields (r.leaveQuery (r.enterQuery env a) a a') j b k := by
  cases a
  simp only [Query.rewrite, Query.rewriteParts, Outcomes.yields_bind, Outcomes.yields_pure]
  constructor
  · rintro ⟨c, i, hc, b, i', hb, o, i'', ho, l, i''', hl, f, j, hf, hr⟩
    exact ⟨_, j, ⟨c, i, hc, b, i', hb, o, i'', ho, l, i''', hl, f, j, hf, rfl, rfl⟩, hr⟩
  · rintro ⟨_, _, ⟨c, i, hc, b, i', hb, o, i'', ho, l, i''', hl, f, j, hf, rfl, rfl⟩, hr⟩
    exact ⟨c, i, hc, b, i', hb, o, i'', ho, l, i''', hl, f, _, hf, hr⟩

theorem Select.distinct_rewriteParts {a b : Select} (h : Yields (a.rewriteParts r env) n b k) :
    b.distinct = a.distinct := by
  simp only [Select.rewriteParts, Outcomes.yields_bind, Outcomes.yields_pure] at h
  obtain ⟨_, _, -, _, _, -, _, _, -, _, _, -, _, _, -, rfl, -⟩ := h
  rfl

theorem Query.recursive_rewriteParts {a b : Query} (h : Yields (a.rewriteParts r env) n b k) :
    b.recursive = a.recursive := by
  simp only [Query.rewriteParts, Outcomes.yields_bind, Outcomes.yields_pure] at h
  obtain ⟨_, _, -, _, _, -, _, _, -, _, _, -, _, _, -, rfl, -⟩ := h
  rfl

end

end QueryBridge
