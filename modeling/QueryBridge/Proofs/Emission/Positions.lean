import Mathlib.Logic.Relation
import QueryBridge.Proofs.Emission.Success

set_option autoImplicit false

namespace QueryBridge.Emission

/-- A piece of a tree that can be refused or that can be laid out wrongly. -/
inductive Piece where
  | expr (e : Expr)
  | relation (r : Relation)
  | join (j : Join)
  | select (s : Select)
  | body (b : Body)
  | query (q : Query)

namespace Piece

def ofExprs (es : List Expr) : List Piece := es.map expr

def ofOption (o : Option Expr) : List Piece := o.toList.map expr

def ofBranches (bs : List (Expr × Expr)) : List Piece := bs.flatMap fun b => [expr b.1, expr b.2]

def ofConstraint : JoinConstraint → List Piece
  | .on e => [expr e]
  | .using _ | .none => []

def ofSources (fs : List FromItem) : List Piece := fs.flatMap fun f => relation f.relation :: f.joins.map join

/-- The pieces of an expression that its emission goes on with. -/
def ofExpr : Expr → List Piece
  | .column _ _ | .literal _ | .keyword _ | .star _ | .unsupported _ => []
  | .binary _ left right => [expr left, expr right]
  | .not e | .neg e | .isNull e _ | .cast e _ | .paren e => [expr e]
  | .call _ args _ => ofExprs args
  | .case operand branches otherwise => ofOption operand ++ ofBranches branches ++ ofOption otherwise
  | .subquery q | .exists q _ => [query q]
  | .inList _ [] _ => []
  | .inList e values _ => expr e :: ofExprs values
  | .inQuery e q _ => [expr e, query q]
  | .between e low high _ => [expr e, expr low, expr high]
  | .like e pattern _ => [expr e, expr pattern]
  | .index array index => [expr array, expr index]
  | .array items => ofExprs items

def parts : Piece → List Piece
  | expr e => ofExpr e
  | relation (.table _ _) => []
  | relation (.derived q _) => [query q]
  | relation (.unnest es _) => ofExprs es
  | join j => relation j.relation :: ofConstraint j.constraint
  | select s => ofExprs (s.projection.map (·.expr)) ++ ofSources s.sources ++ ofOption s.selection
      ++ ofExprs s.groupBy ++ ofOption s.having
  | body (.select s) => [select s]
  | body (.setOp _ _ left right) => [body left, body right]
  | body (.query q) => [query q]
  | query q => q.ctes.map (fun k => query k.query) ++ [body q.body] ++ ofExprs (q.orderBy.map (·.expr))
      ++ ofOption q.limit ++ ofOption q.offset

def Emits : Piece → Piece → Prop := Relation.ReflTransGen fun x y => y ∈ x.parts

def Everywhere (p : Piece → Prop) (x : Piece) : Prop := ∀ y, x.Emits y → p y

theorem everywhere_iff {p : Piece → Prop} {x : Piece} :
    x.Everywhere p ↔ p x ∧ ∀ y ∈ x.parts, y.Everywhere p := by
  constructor
  · intro h
    exact ⟨h x .refl, fun y hy z hz => h z (.head hy hz)⟩
  · rintro ⟨self, below⟩ z hz
    rcases Relation.ReflTransGen.cases_head hz with rfl | ⟨y, hy, hz⟩
    · exact self
    · exact below y hy z hz

theorem not_everywhere_not {p : Piece → Prop} {x : Piece} :
    ¬ x.Everywhere (fun y => ¬ p y) ↔ ∃ y, x.Emits y ∧ p y := by
  simp [Everywhere]

theorem everywhere_wrapper {p : Piece → Prop} {q : Query} (free : q.hasClauses = false) :
    (body (.query q)).Everywhere p ↔ p (.body (.query q)) ∧ p (.query q) ∧ (body q.body).Everywhere p := by
  rw [everywhere_iff]
  simp only [parts, List.forall_mem_singleton]
  rw [everywhere_iff (x := query q)]
  obtain ⟨ctes, orders, limit, offset⟩ := Query.hasClauses_eq_false.1 free
  simp [parts, ofExprs, ofOption, ctes, orders, limit, offset]

end Piece

end QueryBridge.Emission
