import QueryBridge.Proofs.Passes.JoinedSelect
import QueryBridge.Proofs.Tree.Keeping

set_option autoImplicit false

namespace QueryBridge.Passes

def isExists : Expr → Bool
  | .exists _ false => true
  | _ => false

/-- The EXISTS among the conjuncts of a SELECT. -/
def Node.measure : Node Unit → Nat
  | .select _ s => (whereConjuncts s).countP isExists
  | _ => 0

def measure (nodes : List (Node Unit)) : Nat := (nodes.map Node.measure).sum

@[simp] theorem measure_nil : measure [] = 0 := rfl

@[simp] theorem measure_cons (x : Node Unit) (L : List (Node Unit)) :
    measure (x :: L) = Node.measure x + measure L := rfl

@[simp] theorem measure_append (L M : List (Node Unit)) : measure (L ++ M) = measure L + measure M := by
  simp [measure]

theorem measure_eq (L : List (Node Unit)) : measure L = total Node.measure L := rfl

theorem joins_measure : JoinsCost Node.measure fun _ => 0 := by
  intro outer i q join h
  obtain ⟨s, hs, le⟩ := total_join (w := Node.measure) (fun _ => rfl) h
  have fewer : (othersOf outer s).countP isExists ≤ (whereConjuncts s).countP isExists :=
    List.Sublist.countP_le List.filter_sublist
  rw [total_plainQuery hs]
  simp only [Node.measure, whereConjuncts_keySelect] at le ⊢
  omega

section

variable {outer : List String} {n k : Nat}

theorem Converted.countP_isExists {es kept : List Expr} {joins : List Join}
    (h : Converted outer n es joins kept k) : kept.countP isExists + joins.length = es.countP isExists := by
  induction h with
  | nil => rfl
  | join _ _ ih =>
    simp only [List.length_cons, List.countP_cons, isExists, if_true]
    omega
  | keep _ _ ih =>
    simp only [List.countP_cons]
    omega

theorem Left.countP_isExists {a b : Select} (h : Left n a b k) :
    (whereConjuncts b).countP isExists + k = (whereConjuncts a).countP isExists + n := by
  cases h with
  | same => rfl
  | joined hs hw star busy conv =>
    rename_i item condition joins kept
    have length := conv.length
    have count := conv.countP_isExists
    have singles : ∀ x ∈ kept, x.conjuncts = [x] := fun x hx => Expr.conjuncts_of_mem (conv.kept x hx).1
    have after : whereConjuncts { a with
        sources := [{ item with joins := item.joins ++ joins }]
        selection := Expr.conjunction? kept } = kept := Expr.conjuncts_conjunction? singles
    have before : whereConjuncts a = condition.conjuncts := by simp [whereConjuncts, hw]
    rw [after, before]
    omega

theorem Left.measure {a b : Select} (h : Left n a b k) :
    measure (b.nodes .unscoped ()) + k ≤ measure (a.nodes .unscoped ()) + n := by
  have parts := h.total_le joins_measure
  have count := h.countP_isExists
  simp only [measure_eq, Select.nodes_eq, total_cons, Node.measure, unscoped_enterSelect]
  omega

theorem isExists_rewrite {e e' : Expr} (h : Yields (e.rewrite decorrelated ()) n e' k) :
    isExists e' = isExists e := by
  rw [Bool.eq_iff_iff]
  constructor
  · intro he
    obtain ⟨q', rfl⟩ : ∃ q', e' = .exists q' false := by
      unfold isExists at he
      split at he
      · exact ⟨_, rfl⟩
      · cases he
    obtain ⟨q, rfl, -⟩ := Expr.exists_of_rewrite decorrelated_keepsLeaves h
    rfl
  · intro he
    unfold isExists at he
    split at he
    · simp only [Expr.rewrite, Outcomes.yields_bind, Outcomes.yields_pure] at h
      obtain ⟨_, _, -, rfl, -⟩ := h
      rfl
    · cases he

theorem countP_rewriteParts {a b : Select} (h : Yields (a.rewriteParts decorrelated ()) n b k) :
    (whereConjuncts b).countP isExists = (whereConjuncts a).countP isExists := by
  have related := whereConjuncts_rewriteParts decorrelated_keepsLeaves h
  generalize whereConjuncts a = es at related ⊢
  generalize whereConjuncts b = es' at related ⊢
  induction related with
  | nil => rfl
  | cons one _ ih =>
    obtain ⟨i, j, hy⟩ := one
    rw [List.countP_cons, List.countP_cons, ih, isExists_rewrite hy]

theorem decorrelated_measure : decorrelated.Keeps .unscoped
    (fun _ n k L L' => measure (L' ()) + k ≤ measure (L ()) + n) where
  nil := Nat.le_refl _
  append h h' := by
    simp only [measure_append]
    omega
  leaf he hy := by
    obtain ⟨rfl, rfl⟩ := Outcomes.yields_pure.1 hy
    simp only [Expr.nodes_leaf _ he]
    exact Nat.le_refl _
  relation ha h hy := by
    obtain ⟨rfl, rfl⟩ := Outcomes.yields_pure.1 hy
    simpa only [Relation.nodes_eq, measure_cons, Node.measure, Nat.zero_add] using h
  select ha h hy := by
    have left := (decorrelateSelect_left hy).measure
    simp only [Select.nodes_eq, measure_cons, Node.measure, countP_rewriteParts ha,
      unscoped_enterSelect] at left h ⊢
    exact Nat.le_trans left (by omega)
  query ha h hy := by
    obtain ⟨rfl, rfl⟩ := Outcomes.yields_pure.1 hy
    simpa only [Query.nodes_eq, measure_cons, Node.measure, Nat.zero_add] using h

end

end QueryBridge.Passes
