import QueryBridge.Proofs.Meaning.Evaluation
import QueryBridge.Proofs.Passes.GeneratedNames

set_option autoImplicit false

namespace QueryBridge.Meaning

open Passes (whereConjuncts)

variable {α : Type} [DecidableEq α] {I : Interpretation α} {c : Context α}

-- the equations of the evaluation, here and once
attribute [local simp] evalExpr evalOption evalOrder evalBody evalCtes evalSelect evalQuery

omit [DecidableEq α] in
@[simp] theorem truthOf_ofTruth (t : Truth) : I.truthOf (.ofTruth t) = t := by
  cases t <;> rfl

def IsTrue (I : Interpretation α) (e : Expr) (c : Context α) : Prop :=
  I.truthOf (evalExpr I e c) = some true

instance (e : Expr) (c : Context α) : Decidable (IsTrue I e c) := by
  unfold IsTrue
  infer_instance

theorem isTrue_and {l r : Expr} : IsTrue I (.binary .and l r) c ↔ IsTrue I l c ∧ IsTrue I r c := by
  simp only [IsTrue, evalExpr, Interpretation.binary, truthOf_ofTruth, Truth.and_eq_true]

theorem isTrue_equals {l r : Expr} :
    IsTrue I (.binary .eq l r) c ↔ evalExpr I l c = evalExpr I r c ∧ evalExpr I l c ≠ .null := by
  simp only [IsTrue, evalExpr, Interpretation.binary, truthOf_ofTruth, Value.equals_eq_true]

theorem isTrue_exists {q : Query} :
    IsTrue I (.exists q false) c ↔ ∃ x, x ∈ (evalQuery I q c).rows := by
  rw [IsTrue, evalExpr]
  simp only [Interpretation.truthOf, Option.some.injEq, bne_iff_ne, Bool.bne_false, ne_eq,
    Multiset.card_eq_zero]
  exact ⟨Multiset.exists_mem_of_ne_zero, fun ⟨x, hx⟩ none => Multiset.notMem_zero x (none ▸ hx)⟩

theorem isTrue_conjuncts (e : Expr) : IsTrue I e c ↔ ∀ x ∈ e.conjuncts, IsTrue I x c := by
  induction e using Expr.conjuncts_induction with
  | joined l r ihl ihr => rw [Expr.conjuncts, List.forall_mem_append, isTrue_and, ihl, ihr]
  | single e other same => rw [same, List.forall_mem_singleton]

theorem isTrue_foldl (e : Expr) (es : List Expr) :
    IsTrue I (es.foldl Expr.and e) c ↔ IsTrue I e c ∧ ∀ x ∈ es, IsTrue I x c := by
  induction es generalizing e with
  | nil => simp
  | cons x es ih => rw [List.foldl_cons, ih, Expr.and, isTrue_and, List.forall_mem_cons, and_assoc]

theorem holds_conjunction (es : List Expr) :
    I.holds (evalOption I (Expr.conjunction? es) c) = true ↔ ∀ e ∈ es, IsTrue I e c := by
  cases es with
  | nil => simp [Expr.conjunction?, Interpretation.holds]
  | cons e es =>
    rw [Expr.conjunction?, evalOption, Interpretation.holds, beq_iff_eq, List.forall_mem_cons]
    exact isTrue_foldl e es

theorem holds_where (s : Select) :
    I.holds (evalOption I s.selection c) = true ↔ ∀ e ∈ whereConjuncts s, IsTrue I e c := by
  unfold whereConjuncts
  cases s.selection with
  | none => simp [Interpretation.holds]
  | some e =>
    rw [evalOption, Interpretation.holds, beq_iff_eq]
    exact isTrue_conjuncts e

abbrev alone (recursive : Bool) (s : Select) : Query := ⟨[], recursive, .select s, [], none, none⟩

variable {s : Select} {recursive : Bool}

def keptRows (I : Interpretation α) (s : Select) (c : Context α) : Multiset (FromRow α) :=
  (evalSources I s.sources c .unit).rows.filter fun r =>
    I.holds (evalOption I s.selection (c.within r.bindings))

theorem mem_keptRows {r : FromRow α} : r ∈ keptRows I s c ↔
    r ∈ (evalSources I s.sources c .unit).rows ∧ ∀ e ∈ whereConjuncts s, IsTrue I e (c.within r.bindings) := by
  rw [keptRows, Multiset.mem_filter, holds_where]

theorem evalSelect_ungrouped (h : isGrouped I.isAggregate s = false) (order : Context α → List (Value α)) :
    let out := (keptRows I s c).map fun r =>
      (evalItems I s.projection (c.within r.bindings) r.wild, order (c.within r.bindings))
    (evalSelect I s c order).rows = if s.distinct then out.dedup else out := by
  obtain ⟨distinct, projection, sources, selection, groupBy, having⟩ := s
  simp only [evalSelect, Interpretation.select, h]
  rfl

theorem evalQuery_alone (h : isGrouped I.isAggregate s = false) :
    let out := (keptRows I s (c.within [])).map fun r =>
      (evalItems I s.projection (c.within r.bindings) r.wild, ([] : List (Value α)))
    (evalQuery I (alone recursive s) c).rows = (if s.distinct then out.dedup else out).map (·.1) := by
  have rows := evalSelect_ungrouped (c := c.within []) h (evalOrder I [])
  simp only [evalQuery, evalCtes, evalBody]
  simp only [evalOrder] at rows
  exact congrArg (Multiset.map (·.1)) rows

theorem mem_evalQuery_alone (h : isGrouped I.isAggregate s = false) {x : Record α} :
    x ∈ (evalQuery I (alone recursive s) c).rows ↔ ∃ r ∈ keptRows I s (c.within []),
      evalItems I s.projection (c.within r.bindings) r.wild = x := by
  rw [evalQuery_alone h]
  cases s.distinct <;> simp [Multiset.mem_dedup]

theorem nodup_evalQuery_alone (h : isGrouped I.isAggregate s = false) (distinct : s.distinct) :
    (evalQuery I (alone recursive s) c).rows.Nodup := by
  rw [evalQuery_alone h]
  simp only [distinct, if_true]
  refine (Multiset.nodup_dedup _).map_on ?_
  intro x hx y hy same
  rw [Multiset.mem_dedup, Multiset.mem_map] at hx hy
  obtain ⟨r, -, rfl⟩ := hx
  obtain ⟨r', -, rfl⟩ := hy
  exact Prod.ext same rfl

end QueryBridge.Meaning
