import QueryBridge.Proofs.Meaning.PlainRows
import QueryBridge.Proofs.Tree.Conjuncts
import QueryBridge.Tree.Builder
import QueryBridge.Tree.Equality

set_option autoImplicit false

namespace QueryBridge

namespace Meaning.Truth

/-- The conjunction of truth values, TRUE if there are none. -/
def all (ts : List Truth) : Truth := ts.foldr and (some true)

theorem and_assoc (t u w : Truth) : (t.and u).and w = t.and (u.and w) := by
  rcases t with _ | _ | _ <;> rcases u with _ | _ | _ <;> rcases w with _ | _ | _ <;> rfl

theorem and_true (t : Truth) : t.and (some true) = t := by
  rcases t with _ | _ | _ <;> rfl

theorem true_and (t : Truth) : Truth.and (some true) t = t := by
  rcases t with _ | _ | _ <;> rfl

theorem all_append (ts us : List Truth) : all (ts ++ us) = (all ts).and (all us) := by
  induction ts with
  | nil => exact (true_and _).symm
  | cons t ts ih =>
    change t.and (all (ts ++ us)) = (t.and (all ts)).and (all us)
    rw [ih, and_assoc]

theorem all_singleton (t : Truth) : all [t] = t := and_true t

end Meaning.Truth

namespace Expr

open Meaning

def IsAnd (e : Expr) : Prop := ∃ left right, e = .binary .and left right

/-- The predicate has an AND with these operands that only ANDs stand above. -/
inductive TopAnd : Expr → Expr → Expr → Prop
  | here (left right) : TopAnd (.binary .and left right) left right
  | left {left right l r} : TopAnd left l r → TopAnd (.binary .and left right) l r
  | right {left right l r} : TopAnd right l r → TopAnd (.binary .and left right) l r

/-- No AND at the top is the right operand of another. -/
def LeftDeep (e : Expr) : Prop := ∀ l r, e.TopAnd l r → ¬ r.IsAnd

/-- The value of the ANDs at the top, from values for the conjuncts in their order. -/
def truth : Expr → (ℕ → Truth) → Truth
  | .binary .and left right, value =>
    (left.truth value).and (right.truth fun i => value (left.conjuncts.length + i))
  | _, value => value 0

def rejoined : Expr → Expr
  | .binary .and left right => right.conjuncts.foldl and left.rejoined
  | e => e

theorem conjuncts_ne_nil (e : Expr) : e.conjuncts ≠ [] := by
  induction e using conjuncts_induction with
  | joined l r ihl ihr => rw [conjuncts]; exact List.append_ne_nil_of_left_ne_nil ihl _
  | single e other same => rw [same]; exact List.cons_ne_nil _ _

theorem conjuncts_of_not_isAnd {e : Expr} (h : ¬ e.IsAnd) : e.conjuncts = [e] := by
  rw [conjuncts]
  exact fun left right same => h ⟨left, right, same⟩

theorem isAnd_iff {e : Expr} : e.IsAnd ↔ 1 < e.conjuncts.length := by
  constructor
  · rintro ⟨left, right, rfl⟩
    have fromLeft := List.length_pos_iff.2 left.conjuncts_ne_nil
    have fromRight := List.length_pos_iff.2 right.conjuncts_ne_nil
    rw [conjuncts, List.length_append]
    omega
  · intro several
    by_contra h
    rw [conjuncts_of_not_isAnd h, List.length_singleton] at several
    exact absurd several (lt_irrefl 1)

instance (e : Expr) : Decidable e.IsAnd := decidable_of_iff _ isAnd_iff.symm

theorem conjuncts_eq_singleton_iff {e : Expr} : e.conjuncts = [e] ↔ ¬ e.IsAnd := by
  refine ⟨fun same => ?_, conjuncts_of_not_isAnd⟩
  rw [isAnd_iff, same]
  exact lt_irrefl 1

theorem not_isAnd_of_mem_conjuncts {e x : Expr} (h : x ∈ e.conjuncts) : ¬ x.IsAnd :=
  conjuncts_eq_singleton_iff.1 (conjuncts_of_mem h)

theorem conjunction?_append {es : List Expr} {e : Expr} (h : conjunction? es = some e) (fs : List Expr) :
    conjunction? (es ++ fs) = some (fs.foldl and e) := by
  cases es with
  | nil => cases h
  | cons x es =>
    obtain rfl := Option.some.inj h
    rw [List.cons_append, conjunction?, List.foldl_append]

theorem rejoined_of_not_isAnd {e : Expr} (h : ¬ e.IsAnd) : e.rejoined = e := by
  rw [rejoined]
  exact fun left right same => h ⟨left, right, same⟩

theorem conjunction?_conjuncts (e : Expr) : conjunction? e.conjuncts = some e.rejoined := by
  induction e using conjuncts_induction with
  | joined l r ihl ihr => rw [conjuncts, conjunction?_append ihl, rejoined]
  | single e other same =>
    rw [same, rejoined_of_not_isAnd (conjuncts_eq_singleton_iff.1 same)]
    rfl

theorem conjuncts_conjoined {es : List Expr} {e : Expr} (plain : ∀ x ∈ es, ¬ x.IsAnd)
    (h : conjunction? es = some e) : e.conjuncts = es := by
  have back := conjuncts_conjunction? fun x hx => conjuncts_eq_singleton_iff.2 (plain x hx)
  rwa [h] at back

theorem conjuncts_rejoined (e : Expr) : e.rejoined.conjuncts = e.conjuncts :=
  conjuncts_conjoined (fun _ => not_isAnd_of_mem_conjuncts) e.conjunction?_conjuncts

theorem isAnd_rejoined {e : Expr} : e.rejoined.IsAnd ↔ e.IsAnd := by
  rw [isAnd_iff, isAnd_iff, conjuncts_rejoined]

theorem TopAnd.isAnd {e l r : Expr} (h : e.TopAnd l r) : e.IsAnd := by
  cases h <;> exact ⟨_, _, rfl⟩

theorem leftDeep_and {left right : Expr} :
    LeftDeep (.binary .and left right) ↔ left.LeftDeep ∧ ¬ right.IsAnd := by
  constructor
  · intro deep
    exact ⟨fun l r h => deep l r h.left, deep left right (.here left right)⟩
  · rintro ⟨deep, plain⟩ l r h
    cases h with
    | here => exact plain
    | left below => exact deep l r below
    | right below => exact (plain below.isAnd).elim

theorem leftDeep_of_not_isAnd {e : Expr} (h : ¬ e.IsAnd) : e.LeftDeep :=
  fun _ _ top => (h top.isAnd).elim

theorem leftDeep_foldl {e : Expr} (deep : e.LeftDeep) {es : List Expr} (plain : ∀ x ∈ es, ¬ x.IsAnd) :
    (es.foldl and e).LeftDeep := by
  induction es generalizing e with
  | nil => exact deep
  | cons x es ih =>
    rw [List.forall_mem_cons] at plain
    exact ih (leftDeep_and.2 ⟨deep, plain.1⟩) plain.2

theorem leftDeep_rejoined (e : Expr) : e.rejoined.LeftDeep := by
  induction e using conjuncts_induction with
  | joined l r ihl ihr =>
    rw [rejoined]
    exact leftDeep_foldl ihl fun _ => not_isAnd_of_mem_conjuncts
  | single e other same =>
    have plain := conjuncts_eq_singleton_iff.1 same
    rw [rejoined_of_not_isAnd plain]
    exact leftDeep_of_not_isAnd plain

theorem rejoined_of_leftDeep {e : Expr} (deep : e.LeftDeep) : e.rejoined = e := by
  induction e using conjuncts_induction with
  | joined l r ihl ihr =>
    obtain ⟨left, plain⟩ := leftDeep_and.1 deep
    rw [rejoined, conjuncts_eq_singleton_iff.2 plain, ihl left]
    rfl
  | single e other same => exact rejoined_of_not_isAnd (conjuncts_eq_singleton_iff.1 same)

theorem rejoined_eq_self_iff {e : Expr} : e.rejoined = e ↔ e.LeftDeep := by
  constructor
  · intro kept
    rw [← kept]
    exact e.leftDeep_rejoined
  · exact rejoined_of_leftDeep

theorem same_binary {e left right : Expr} {op : BinaryOp} (h : e.same (.binary op left right)) :
    ∃ l r, e = .binary op l r ∧ l.same left ∧ r.same right := by
  cases e with
  | binary op' l r =>
    change (op' == op && l.same left && r.same right) = true at h
    rw [Bool.and_eq_true, Bool.and_eq_true, beq_iff_eq] at h
    obtain ⟨⟨rfl, hl⟩, hr⟩ := h
    exact ⟨l, r, rfl, hl, hr⟩
  | _ => cases h

theorem TopAnd.of_same {e l r : Expr} (top : e.TopAnd l r) {e' : Expr} (h : e'.same e) :
    ∃ l' r', e'.TopAnd l' r' ∧ r'.same r := by
  induction top generalizing e' with
  | here left right =>
    obtain ⟨l', r', rfl, -, hr⟩ := same_binary h
    exact ⟨l', r', .here l' r', hr⟩
  | left _ ih =>
    obtain ⟨l', r', rfl, hl, -⟩ := same_binary h
    obtain ⟨a, b, below, hb⟩ := ih hl
    exact ⟨a, b, below.left, hb⟩
  | right _ ih =>
    obtain ⟨l', r', rfl, -, hr⟩ := same_binary h
    obtain ⟨a, b, below, hb⟩ := ih hr
    exact ⟨a, b, below.right, hb⟩

theorem LeftDeep.of_same {e e' : Expr} (deep : e'.LeftDeep) (h : e'.same e) : e.LeftDeep := by
  rintro l r top ⟨left, right, rfl⟩
  obtain ⟨l', r', top', alike⟩ := top.of_same h
  obtain ⟨left', right', and, -⟩ := same_binary alike
  exact deep l' r' top' ⟨left', right', and⟩

theorem same_rejoined_iff {e : Expr} : e.rejoined.same e ↔ e.LeftDeep ∧ e.same e := by
  constructor
  · intro alike
    have deep := e.leftDeep_rejoined.of_same alike
    rw [rejoined_of_leftDeep deep] at alike
    exact ⟨deep, alike⟩
  · rintro ⟨deep, alike⟩
    rwa [rejoined_of_leftDeep deep]

theorem truth_eq_all (e : Expr) (value : ℕ → Truth) :
    e.truth value = Truth.all ((List.range e.conjuncts.length).map value) := by
  induction e using conjuncts_induction generalizing value with
  | joined l r ihl ihr =>
    rw [truth, ihl, ihr, conjuncts, List.length_append, List.range_add, List.map_append, Truth.all_append,
      List.map_map]
    rfl
  | single e other same =>
    have alone : e.truth value = value 0 := by rw [truth]; exact other
    rw [same, alone]
    exact (Truth.all_singleton _).symm

section

variable {α : Type} [DecidableEq α] {I : Interpretation α} {c : Context α}

theorem truthOf_evalExpr (e : Expr) : I.truthOf (evalExpr I e c) =
    Truth.all (e.conjuncts.map fun x => I.truthOf (evalExpr I x c)) := by
  induction e using conjuncts_induction with
  | joined l r ihl ihr =>
    rw [evalExpr, Interpretation.binary, truthOf_ofTruth, ihl, ihr, conjuncts, List.map_append,
      Truth.all_append]
  | single e other same => rw [same, List.map_singleton, Truth.all_singleton]

theorem evalExpr_of_isAnd {e : Expr} (h : e.IsAnd) :
    evalExpr I e c = .ofTruth (Truth.all (e.conjuncts.map fun x => I.truthOf (evalExpr I x c))) := by
  obtain ⟨left, right, rfl⟩ := h
  rw [← truthOf_evalExpr, evalExpr, Interpretation.binary, truthOf_ofTruth]

theorem evalExpr_rejoined (e : Expr) : evalExpr I e.rejoined c = evalExpr I e c := by
  by_cases h : e.IsAnd
  · rw [evalExpr_of_isAnd (isAnd_rejoined.2 h), evalExpr_of_isAnd h, conjuncts_rejoined]
  · rw [rejoined_of_not_isAnd h]

end

/-- Whatever the nesting of its ANDs, a predicate and its conjuncts joined again have the same conjuncts, and the
same value whatever the values of the conjuncts. They are one tree exactly if no AND at the top has an AND on
its right; where a NaN differs from itself, the predicate must also equal itself. Expressions that are no
ANDs are the conjuncts of what they are joined to. -/
theorem conjuncts_joined_again :
    (∀ e : Expr, ∃ joined, conjunction? e.conjuncts = some joined ∧ joined.conjuncts = e.conjuncts ∧
      (∀ value : ℕ → Truth, joined.truth value = e.truth value) ∧
      (∀ (α : Type) [DecidableEq α] (I : Interpretation α) (c : Context α),
        evalExpr I joined c = evalExpr I e c) ∧
      (joined = e ↔ ∀ l r, e.TopAnd l r → ¬ r.IsAnd) ∧
      (joined.same e ↔ (∀ l r, e.TopAnd l r → ¬ r.IsAnd) ∧ e.same e)) ∧
    ∀ es : List Expr, es ≠ [] → (∀ x ∈ es, ¬ x.IsAnd) →
      ∃ joined, conjunction? es = some joined ∧ joined.conjuncts = es := by
  constructor
  · intro e
    refine ⟨e.rejoined, e.conjunction?_conjuncts, e.conjuncts_rejoined, fun value => ?_,
      fun α _ I c => e.evalExpr_rejoined, rejoined_eq_self_iff, same_rejoined_iff⟩
    rw [truth_eq_all, truth_eq_all, conjuncts_rejoined]
  · intro es nonempty plain
    obtain ⟨joined, h⟩ : ∃ joined, conjunction? es = some joined := by
      cases es with
      | nil => exact (nonempty rfl).elim
      | cons e es => exact ⟨_, rfl⟩
    exact ⟨joined, h, conjuncts_conjoined plain h⟩

/-- `a AND (b AND c)` -/
def rightNested : Expr := (name "a").and ((name "b").and (name "c"))

theorem rightNested_joined_again :
    let parts := [name "a", name "b", name "c"]
    (parts ≠ [] ∧ ∀ x ∈ parts, ¬ x.IsAnd) ∧ rightNested.conjuncts = parts ∧
    ∃ joined, conjunction? parts = some joined ∧ joined.conjuncts = parts ∧ joined ≠ rightNested ∧
      ∀ value, joined.truth value = rightNested.truth value := by
  have plain : ∀ x ∈ [name "a", name "b", name "c"], ¬ x.IsAnd := by decide
  obtain ⟨each, lists⟩ := conjuncts_joined_again
  obtain ⟨joined, h, back⟩ := lists [name "a", name "b", name "c"] (List.cons_ne_nil _ _) plain
  obtain ⟨joined', h', -, value, -, itself, -⟩ := each rightNested
  obtain rfl : joined = joined' := Option.some.inj (h.symm.trans h')
  refine ⟨⟨List.cons_ne_nil _ _, plain⟩, rfl, joined, h, back, fun same => ?_, value⟩
  exact itself.1 same _ _ (.here _ _) ⟨_, _, rfl⟩

end Expr

end QueryBridge
