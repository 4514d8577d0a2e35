import QueryBridge.Proofs.Passes.Decorrelation
import QueryBridge.Proofs.Tree.Positions

set_option autoImplicit false

namespace QueryBridge.Passes

theorem namesInScope_seesSources : namesInScope.SeesSources := collecting_seesSources (g := relationNames)

def Narrower (t t' : List String) : Prop := ∀ name ∈ t, ¬ isGenerated name → name ∈ t'

theorem Narrower.refl (t : List String) : Narrower t t := fun _ h _ => h

theorem Narrower.trans {t t' t'' : List String} (h : Narrower t t') (h' : Narrower t' t'') :
    Narrower t t'' := fun name hn own => h' name (h name hn own) own

theorem Narrower.append {t t' names names' : List String} (h : Narrower t t') (h' : Narrower names names') :
    Narrower (t ++ names) (t' ++ names') := by
  intro name hn own
  rw [List.mem_append] at hn ⊢
  exact hn.imp (h name · own) (h' name · own)

def Origin (k : Nat) (L : List (Node (List String))) : Node (List String) → Prop
  | .leaf t e => (∃ t', .leaf t' e ∈ L ∧ Narrower t t') ∨
      ∃ i < k, ∃ column, e = .qualified (existsName i) column
  | .relation _ r => ∀ name, r.referenceName? = some name →
      name ∈ namesAmong L ∨ ∃ i < k, name = existsName i
  | _ => True

section

variable {i j k : Nat} {L M : List (Node (List String))} {x : Node (List String)}

theorem origin_self (hx : x ∈ L) : Origin k L x := by
  cases x with
  | leaf t e => exact .inl ⟨t, hx, .refl t⟩
  | relation t r => exact fun name named => .inl (mem_namesAmong.2 ⟨t, r, hx, named⟩)
  | _ => trivial

theorem Origin.trans (hx : Origin i M x) (hM : ∀ y ∈ M, Origin j L y) (hi : i ≤ k) (hj : j ≤ k) :
    Origin k L x := by
  cases x with
  | leaf t e =>
    rcases hx with ⟨t', he, narrow⟩ | ⟨i', hi', new⟩
    · rcases hM _ he with ⟨t'', he', narrow'⟩ | ⟨i', hi', new⟩
      · exact .inl ⟨t'', he', narrow.trans narrow'⟩
      · exact .inr ⟨i', by omega, new⟩
    · exact .inr ⟨i', by omega, new⟩
  | relation t r =>
    intro name named
    rcases hx name named with old | ⟨i', hi', new⟩
    · obtain ⟨t', r', hr, named'⟩ := mem_namesAmong.1 old
      rcases hM _ hr name named' with old | ⟨i', hi', new⟩
      · exact .inl old
      · exact .inr ⟨i', by omega, new⟩
    · exact .inr ⟨i', by omega, new⟩
  | _ => trivial

theorem Origin.mono (hx : Origin j L x) (hLM : L ⊆ M) (hjk : j ≤ k) : Origin k M x :=
  hx.trans (fun _ hy => origin_self (k := 0) (hLM hy)) hjk (Nat.zero_le k)

end

/-- References come from the same places whatever else is in scope. -/
def Widens (L : List String → List (Node (List String))) : Prop :=
  ∀ t t', Narrower t t' → ∀ x ∈ L t, Origin 0 (L t') x

theorem widens_gathers : namesInScope.Gathers Widens := by
  constructor
  · intro t t' _ x hx
    cases hx
  · intro L M hL hM t t' narrow x hx
    rcases List.mem_append.1 hx with hx | hx
    · exact (hL t t' narrow x hx).mono (List.subset_append_left _ _) (Nat.le_refl 0)
    · exact (hM t t' narrow x hx).mono (List.subset_append_right _ _) (Nat.le_refl 0)
  · intro e he t t' narrow x hx
    rw [List.mem_singleton.1 hx]
    exact .inl ⟨t', List.mem_cons_self, narrow⟩
  · intro r parts t t' narrow x hx
    rcases List.mem_cons.1 hx with rfl | hx
    · exact fun name named => .inl (mem_namesAmong.2 ⟨t', r, List.mem_cons_self, named⟩)
    · exact (parts t t' narrow x hx).mono (List.subset_cons_self _ _) (Nat.le_refl 0)
  · intro s parts t t' narrow x hx
    rcases List.mem_cons.1 hx with rfl | hx
    · trivial
    · exact (parts _ _ (narrow.append (.refl _)) x hx).mono (List.subset_cons_self _ _) (Nat.le_refl 0)
  · intro q parts t t' narrow x hx
    rcases List.mem_cons.1 hx with rfl | hx
    · trivial
    · exact (parts _ _ (narrow.append (.refl _)) x hx).mono (List.subset_cons_self _ _) (Nat.le_refl 0)

theorem referenceName?_rewrite {r : Relation} {n k : Nat} {r' : Relation}
    (h : Yields (r.rewrite decorrelated ()) n r' k) : r'.referenceName? = r.referenceName? := by
  obtain ⟨a, j, parts, left⟩ := Relation.yields_rewrite.1 h
  obtain ⟨rfl, -⟩ := Outcomes.yields_pure.1 left
  cases r with
  | table path label =>
    rw [(Outcomes.yields_pure.1 parts).1]
  | derived q label =>
    obtain ⟨q', i, -, done⟩ := Outcomes.yields_bind.1 parts
    rw [(Outcomes.yields_pure.1 done).1]
    cases label <;> rfl
  | unnest es label =>
    obtain ⟨es', i, -, done⟩ := Outcomes.yields_bind.1 parts
    rw [(Outcomes.yields_pure.1 done).1]
    cases label <;> rfl

theorem relationNames_rewriteParts {a a' : Select} {n k : Nat}
    (h : Yields (a.rewriteParts decorrelated ()) n a' k) :
    relationNames a'.sources = relationNames a.sources := by
  have corresponding := Select.relations_correspond h
  change a'.relations.filterMap _ = a.relations.filterMap _
  generalize a.relations = rs, a'.relations = rs' at corresponding
  induction corresponding with
  | nil => rfl
  | cons one _ ih =>
    obtain ⟨i, j, one⟩ := one
    rw [List.filterMap_cons, List.filterMap_cons, referenceName?_rewrite one, ih]

theorem Left.mem_relationNames {n k : Nat} {a b : Select} (h : Left n a b k) {name : String}
    (hn : name ∈ relationNames b.sources) :
    name ∈ relationNames a.sources ∨ ∃ i, n ≤ i ∧ i < k ∧ name = existsName i := by
  cases h with
  | same => exact .inl hn
  | joined hs _ _ _ conv =>
    simp only [relationNames_joined, ← hs, List.mem_append] at hn
    refine hn.imp_right fun new => ?_
    obtain ⟨join, hj, named⟩ := List.mem_filterMap.1 new
    obtain ⟨q, i, -, low, high, hi⟩ := conv.joins join hj
    obtain ⟨_, _, -, -, -, rfl⟩ := semiJoin?_eq_some.1 hi
    exact ⟨i, low, high, (Option.some.inj named).symm⟩

theorem narrower_rewrite {a b : Select} {n k : Nat} (h : Yields (a.rewrite decorrelated ()) n b k) :
    Narrower (relationNames b.sources) (relationNames a.sources) := by
  obtain ⟨a', j, parts, hy⟩ := Select.yields_rewrite.1 h
  intro name hn own
  rw [← relationNames_rewriteParts parts]
  rcases (yields_leaveSelect hy).mem_relationNames hn with old | ⟨i, -, -, rfl⟩
  · exact old
  · exact absurd (isGenerated_existsName i) own

theorem narrower_rewriteQuery {q q' : Query} {n k : Nat} (h : Yields (q.rewrite decorrelated ()) n q' k)
    {t t' : List String} (narrow : Narrower t' t) :
    Narrower (namesInScope.enterQuery t' q') (namesInScope.enterQuery t q) := by
  refine narrow.append fun name hn own => ?_
  cases present : q'.select? with
  | none => simp [present] at hn
  | some s' =>
    obtain ⟨s, i, j, hs, hy⟩ := Query.select_correspond
      (fun hq => by rw [(Outcomes.yields_pure.1 hq).1]) h present
    rw [present] at hn
    rw [hs]
    exact narrower_rewrite hy name hn own

def originating (_ : Unit) (n k : Nat) (L L' : List String → List (Node (List String))) : Prop :=
  n ≤ k ∧ ∀ t t', Narrower t' t → ∀ x ∈ L' t', Origin k (L t) x

theorem decorrelated_originating : decorrelated.Keeps namesInScope originating where
  nil := ⟨Nat.le_refl _, by simp⟩
  append := by
    rintro env n j k L L' M M' ⟨le, h⟩ ⟨le', h'⟩
    refine ⟨Nat.le_trans le le', fun t t' narrow x hx => ?_⟩
    rcases List.mem_append.1 hx with hx | hx
    · exact (h t t' narrow x hx).mono (List.subset_append_left _ _) le'
    · exact (h' t t' narrow x hx).mono (List.subset_append_right _ _) (Nat.le_refl k)
  leaf := by
    rintro env n k e e' he hy
    obtain ⟨rfl, rfl⟩ := Outcomes.yields_pure.1 hy
    refine ⟨Nat.le_refl _, fun t t' narrow x hx => ?_⟩
    simp only [Expr.nodes_leaf _ he, List.mem_singleton] at hx
    subst hx
    exact .inl ⟨t, List.mem_cons_self, narrow⟩
  relation := by
    rintro env n j k a a' b ha ⟨le, h⟩ hy
    have whole : Yields (a.rewrite decorrelated ()) n b k := Relation.yields_rewrite.2 ⟨a', j, ha, hy⟩
    obtain ⟨rfl, rfl⟩ := Outcomes.yields_pure.1 hy
    refine ⟨le, fun t t' narrow x hx => ?_⟩
    simp only [Relation.nodes_eq, List.mem_cons] at hx ⊢
    rcases hx with rfl | hx
    · intro name named
      rw [referenceName?_rewrite whole] at named
      exact .inl (mem_namesAmong.2 ⟨t, a, List.mem_cons_self, named⟩)
    · exact (h t t' narrow x hx).mono (List.subset_cons_self _ _) (Nat.le_refl _)
  select := by
    rintro env n j k a a' b inner ha ⟨le, h⟩ hy
    have left := yields_leaveSelect hy
    have below := narrower_rewrite (Select.yields_rewrite.2 ⟨a', j, ha, hy⟩)
    refine ⟨Nat.le_trans le left.le, fun t t' narrow x hx => ?_⟩
    simp only [Select.nodes_eq, List.mem_cons] at hx ⊢
    rcases hx with rfl | hx
    · trivial
    · have wide : Narrower (namesInScope.enterSelect t' b) (namesInScope.enterSelect t a) :=
        narrow.append below
      have old : ∀ y ∈ a'.parts namesInScope (namesInScope.enterSelect t' b),
          Origin j (a.nodes namesInScope t) y := fun y hy => by
        rw [Select.nodes_eq]
        exact (h _ _ wide y hy).mono (List.subset_cons_self _ _) (Nat.le_refl j)
      rw [← Select.nodes_eq]
      -- What is left was there before the joins came, or one of them brought it.
      rcases left.mem_parts namesInScope_seesSources hx with hx | ⟨i, q, s, low, high, hq, hs, brought⟩
      · exact (old x hx).mono (List.Subset.refl _) left.le
      · cases brought with
        | relation => exact fun name named => .inr ⟨i, high, (Option.some.inj named).symm⟩
        | query => trivial
        | select => trivial
        | part hy => exact (old x (subquery_parts hq hs x hy)).mono (List.Subset.refl _) left.le
        | @outerKey key _ hk hy =>
          -- The outer side of a key moves out of its subquery, where it saw all that it sees here.
          refine Origin.trans (widens_gathers.expr_holds key.outer _
            (namesInScope.enterSelect (namesInScope.enterQuery (namesInScope.enterSelect t' b) q) s) ?_ x hy)
            (fun y hy => old y (subquery_parts hq hs y (mem_key_nodes _ _ hk (.inr hy))))
            (Nat.zero_le k) left.le
          intro name hn _
          exact List.mem_append_left _ (List.mem_append_left _ hn)
        | innerKey c => exact .inr ⟨i, high, corrName c, rfl⟩
  query := by
    rintro env n j k a a' b inner ha ⟨le, h⟩ hy
    have whole : Yields (a.rewrite decorrelated ()) n b k := Query.yields_rewrite.2 ⟨a', j, ha, hy⟩
    obtain ⟨rfl, rfl⟩ := Outcomes.yields_pure.1 hy
    refine ⟨le, fun t t' narrow x hx => ?_⟩
    simp only [Query.nodes_eq, List.mem_cons] at hx ⊢
    rcases hx with rfl | hx
    · trivial
    · exact (h _ _ (narrower_rewriteQuery whole narrow) x hx).mono (List.subset_cons_self _ _)
        (Nat.le_refl _)

end QueryBridge.Passes
