import Mathlib.Data.Nat.Basic
import QueryBridge.Proofs.Passes.ConversionMeasure
import QueryBridge.Proofs.Passes.Decorrelation
import QueryBridge.Proofs.Tree.Resting

set_option autoImplicit false

namespace QueryBridge.Passes

def selectsOf (q : Query) : List Select :=
  (q.nodes .unscoped ()).filterMap fun
    | .select _ s => some s
    | _ => none

theorem mem_selectsOf {q : Query} {s : Select} :
    s ∈ selectsOf q ↔ .select () s ∈ q.nodes .unscoped () := by
  rw [selectsOf, List.mem_filterMap]
  constructor
  · rintro ⟨x, hx, hs⟩
    cases x <;> cases hs
    exact hx
  · exact fun h => ⟨_, h, rfl⟩

def Idle : Node Unit → Prop
  | .select _ s => hasSemiJoin s = false
  | _ => True

section

variable {n k : Nat} {a b : Select}

theorem Left.idle (h : Left n a b k) : k ≤ n ↔ hasSemiJoin a = false := by
  cases h with
  | same none => exact iff_of_true (Nat.le_refl n) none
  | joined hs hw star busy conv =>
    rename_i item condition joins kept
    have length := conv.length
    have some : 0 < joins.length := List.length_pos_iff.2 busy
    refine iff_of_false (by omega) ?_
    obtain ⟨join, hj⟩ := List.exists_mem_of_ne_nil joins busy
    obtain ⟨q, i, hq, -, -, hi⟩ := conv.joins join hj
    have mem : .exists q false ∈ whereConjuncts a := by simpa [whereConjuncts, hw] using hq
    simp only [hasSemiJoin, Bool.not_eq_false, Bool.and_eq_true, List.any_eq_true]
    exact ⟨⟨by simp [hs], by simp [star]⟩, _, mem, isSemiJoin_of_some hi⟩

theorem Left.eq_of_stay (h : Left n a b k) (stay : k ≤ n) : b = a := by
  cases h with
  | same => rfl
  | joined _ _ _ busy conv =>
    have length := conv.length
    have some := List.length_pos_iff.2 busy
    omega

theorem decorrelated_rests : decorrelated.Rests (fun _ => True) where
  leaf hy := by
    obtain ⟨rfl, rfl⟩ := Outcomes.yields_pure.1 hy
    exact ⟨le_refl _, fun _ _ => rfl⟩
  relation hy := by
    obtain ⟨rfl, rfl⟩ := Outcomes.yields_pure.1 hy
    exact ⟨le_refl _, fun _ _ => rfl⟩
  select hy := ⟨(yields_leaveSelect hy).le, fun _ stay => (yields_leaveSelect hy).eq_of_stay stay⟩
  query hy := by
    obtain ⟨rfl, rfl⟩ := Outcomes.yields_pure.1 hy
    exact ⟨le_refl _, fun _ _ same => same⟩

theorem decorrelated_idle : decorrelated.Keeps .unscoped
    (fun _ n k L _ => n ≤ k ∧ (k ≤ n ↔ ∀ x ∈ L (), Idle x)) where
  nil := ⟨le_refl _, by simp⟩
  append := by
    rintro env n j k L L' M M' ⟨le, h⟩ ⟨le', h'⟩
    refine ⟨le_trans le le', ?_⟩
    rw [List.forall_mem_append, ← h, ← h']
    omega
  leaf := by
    rintro env n k e e' he hy
    obtain ⟨rfl, rfl⟩ := Outcomes.yields_pure.1 hy
    exact ⟨le_refl _, iff_of_true (le_refl _) (by simp [Idle])⟩
  relation := by
    rintro env n j k a a' b ha ⟨le, h⟩ hy
    obtain ⟨rfl, rfl⟩ := Outcomes.yields_pure.1 hy
    refine ⟨le, h.trans ?_⟩
    simp [Relation.nodes_eq, Idle]
  select := by
    rintro env n j k a a' b inner ha ⟨le, h⟩ hy
    have left := yields_leaveSelect hy
    refine ⟨le_trans le left.le, ?_⟩
    have still := decorrelated_rests.selectParts ha
    simp only [Select.nodes_eq, List.forall_mem_cons, Idle, unscoped_enterSelect] at h ⊢
    -- The counter rises below the SELECT or when it is left, and stands still only if it does so at both.
    constructor
    · intro stay
      have same := still.2 (fun _ _ => trivial) (le_trans left.le stay)
      rw [same] at left
      exact ⟨left.idle.1 (le_trans stay le), h.1 (le_trans left.le stay)⟩
    · rintro ⟨idle, parts⟩
      have stay := h.2 parts
      rw [still.2 (fun _ _ => trivial) stay] at left
      exact le_trans (left.idle.2 idle) stay
  query := by
    rintro env n j k a a' b inner ha ⟨le, h⟩ hy
    obtain ⟨rfl, rfl⟩ := Outcomes.yields_pure.1 hy
    refine ⟨le, h.trans ?_⟩
    simp [Query.nodes_eq, Idle]

end

theorem decorrelate_yields (q : Query) :
    ∃ k, Yields (q.rewrite decorrelated ()) 0 (decorrelate q) k := ⟨_, rfl⟩

theorem decorrelate_eq_self (q : Query) :
    decorrelate q = q ↔ ∀ s ∈ selectsOf q, hasSemiJoin s = false := by
  obtain ⟨k, hy⟩ := decorrelate_yields q
  have idle := (decorrelated_idle.ascends.pieces.query_holds q hy).2
  have every : (∀ x ∈ q.nodes .unscoped (), Idle x) ↔ ∀ s ∈ selectsOf q, hasSemiJoin s = false := by
    constructor
    · exact fun h s hs => h _ (mem_selectsOf.1 hs)
    · intro h x hx
      cases x with
      | select env s => exact h s (mem_selectsOf.2 hx)
      | _ => trivial
  refine Iff.trans ?_ (idle.trans every)
  constructor
  · intro same
    -- Each join takes an EXISTS away from the conjuncts, so a query that stays the same got none.
    have measure := decorrelated_measure.ascends.pieces.query_holds q hy
    rw [same] at measure
    exact Nat.le_of_add_le_add_left measure
  · exact fun stay => (decorrelated_rests.ascends.pieces.query_holds q hy).2 (fun _ _ => trivial) stay

/-- No column of the query has a qualifier like the name of a join. -/
def Plain (q : Query) : Prop := ∀ x ∈ q.nodes .unscoped (), MentionsOnly (¬ isGenerated ·) x

instance (x : Node Unit) : Decidable (MentionsOnly (fun name => ¬ isGenerated name) x) :=
  match x with
  | .leaf _ (.column qualifier _) =>
    inferInstanceAs (Decidable (∀ part ∈ qualifier, ¬ isGenerated part))
  | .leaf _ (.literal _) | .leaf _ (.binary _ _ _) | .leaf _ (.not _) | .leaf _ (.neg _)
  | .leaf _ (.call _ _ _) | .leaf _ (.keyword _) | .leaf _ (.case _ _ _) | .leaf _ (.subquery _)
  | .leaf _ (.exists _ _) | .leaf _ (.inList _ _ _) | .leaf _ (.inQuery _ _ _)
  | .leaf _ (.between _ _ _ _) | .leaf _ (.isNull _ _) | .leaf _ (.like _ _ _) | .leaf _ (.cast _ _)
  | .leaf _ (.index _ _) | .leaf _ (.array _) | .leaf _ (.star _) | .leaf _ (.paren _)
  | .leaf _ (.unsupported _) | .relation _ _ | .select _ _ | .query _ _ => isTrue trivial

instance (q : Query) : Decidable (Plain q) :=
  inferInstanceAs (Decidable (∀ x ∈ q.nodes .unscoped (), MentionsOnly (¬ isGenerated ·) x))

/-- The second run converts nothing but in SELECTs of keys. -/
theorem decorrelate_twice {q : Query} (hq : Plain q) :
    decorrelate (decorrelate q) = decorrelate q ↔
      ∀ s ∈ selectsOf (decorrelate q), IsKeySelect s → hasSemiJoin s = false := by
  rw [decorrelate_eq_self]
  obtain ⟨k, hy⟩ := decorrelate_yields q
  have settled := (decorrelated_freshlyNamed.ascends.pieces.query_holds q hy).2 hq
  refine forall₂_congr fun s hs => ⟨fun h _ => h, fun h => ?_⟩
  exact ((settled _ (mem_selectsOf.1 hs)).2).elim h id

section

theorem keySelect_idle {outer : List String} {s : Select} (star : hasBareStar s = false)
    (idle : hasSemiJoin s = false) : hasSemiJoin (keySelect outer s) = false := by
  refine hasSemiJoin_eq_false fun one _ e he => ?_
  rw [whereConjuncts_keySelect] at he
  have single : s.sources.length = 1 := one
  simp only [hasSemiJoin, single, star, beq_self_eq_true, Bool.not_false, Bool.and_self, Bool.true_and,
    List.any_eq_false, Bool.not_eq_true] at idle
  exact idle e (List.mem_of_mem_filter he)

end

theorem decorrelated_starFree : decorrelated.Keeps .unscoped (fun _ n k L L' =>
    freshlyNamed () n k L L' ∧ ((∀ x ∈ L (), MentionsOnly (¬ isGenerated ·) x) →
      (∀ s, .select () s ∈ L () → StarFree s) → ∀ x ∈ L' (), Idle x)) where
  nil := ⟨decorrelated_freshlyNamed.nil, by simp⟩
  append := by
    rintro env n j k L L' M M' ⟨fresh, h⟩ ⟨fresh', h'⟩
    refine ⟨decorrelated_freshlyNamed.append fresh fresh', fun plain free x hx => ?_⟩
    rw [List.forall_mem_append] at plain
    rcases List.mem_append.1 hx with hx | hx
    · exact h plain.1 (fun s hs => free s (List.mem_append_left _ hs)) x hx
    · exact h' plain.2 (fun s hs => free s (List.mem_append_right _ hs)) x hx
  leaf := by
    rintro env n k e e' he hy
    refine ⟨decorrelated_freshlyNamed.leaf he hy, fun _ _ x hx => ?_⟩
    obtain ⟨rfl, rfl⟩ := Outcomes.yields_pure.1 hy
    simp only [Expr.nodes_leaf _ he, List.mem_singleton] at hx
    rw [hx]
    trivial
  relation := by
    rintro env n j k a a' b ha ⟨fresh, h⟩ hy
    refine ⟨decorrelated_freshlyNamed.relation ha fresh hy, fun plain free x hx => ?_⟩
    obtain ⟨rfl, rfl⟩ := Outcomes.yields_pure.1 hy
    simp only [Relation.nodes_eq, List.mem_cons] at plain free hx
    rcases hx with rfl | hx
    · trivial
    · exact h (fun x hx => plain x (.inr hx)) (fun s hs => free s (.inr hs)) x hx
  select := by
    rintro env n j k a a' b inner ha ⟨fresh, h⟩ hy
    refine ⟨decorrelated_freshlyNamed.select ha fresh hy, fun plain free x hx => ?_⟩
    simp only [Select.nodes_eq, List.mem_cons, unscoped_enterSelect] at plain free hx
    have left := yields_leaveSelect hy
    have idle := h (fun x hx => plain x (.inr hx)) fun s hs => free s (.inr hs)
    have named := fresh.2 fun x hx => plain x (.inr hx)
    have starFree := (free a (.inl rfl)).rewriteParts decorrelated_keepsProjections ha
    rcases hx with rfl | hx
    · exact left.no_semiJoin fun x hx => (named x hx).1
    · rcases left.mem_parts unscoped_seesSources hx with hx | ⟨i, q, s, low, high, hq, hs, brought⟩
      · exact idle x hx
      · obtain ⟨⟨recursive, rfl⟩, -⟩ := plainSelect?_eq_some hs
        cases brought with
        | select =>
          -- A bare star in the subquery holds back its conversion, and the SELECT of keys has none any more.
          refine keySelect_idle (starFree _ hq s rfl) (idle (.select () s) (subquery_nodes hq hs _ ?_))
          rw [Select.nodes_eq]
          exact List.mem_cons_self
        | part hy => exact idle x (subquery_parts hq hs x hy)
        | outerKey hk hy => exact idle x (subquery_parts hq hs x (mem_key_nodes _ _ hk (.inr hy)))
        | _ => trivial
  query := by
    rintro env n j k a a' b inner ha ⟨fresh, h⟩ hy
    refine ⟨decorrelated_freshlyNamed.query ha fresh hy, fun plain free x hx => ?_⟩
    obtain ⟨rfl, rfl⟩ := Outcomes.yields_pure.1 hy
    simp only [Query.nodes_eq, List.mem_cons] at plain free hx
    rcases hx with rfl | hx
    · trivial
    · exact h (fun x hx => plain x (.inr hx)) (fun s hs => free s (.inr hs)) x hx

theorem decorrelate_settles {q : Query} (hq : Plain q) (free : ∀ s ∈ selectsOf q, StarFree s) :
    ∀ s ∈ selectsOf (decorrelate q), hasSemiJoin s = false := by
  obtain ⟨k, hy⟩ := decorrelate_yields q
  have idle := (decorrelated_starFree.ascends.pieces.query_holds q hy).2 hq
    fun s hs => free s (mem_selectsOf.2 hs)
  exact fun s hs => idle _ (mem_selectsOf.1 hs)

end QueryBridge.Passes
