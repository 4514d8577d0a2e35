import QueryBridge.Proofs.Passes.JoinedSelect
import QueryBridge.Proofs.Tree.Keeping

set_option autoImplicit false

namespace QueryBridge.Passes

/-- A SELECT that looks like one of keys: distinct and with columns by their names. -/
def IsKeySelect (s : Select) : Prop :=
  s.distinct ∧ ∀ (i : Nat) (item : SelectItem), s.projection[i]? = some item → item.label = some s!"__corr_{i}"

theorem keySelect_isKeySelect (outer : List String) (s : Select) : IsKeySelect (keySelect outer s) := by
  refine ⟨rfl, fun i item h => ?_⟩
  simp only [keySelect, keyItems, List.getElem?_mapIdx, Option.map_eq_some_iff] at h
  obtain ⟨key, -, rfl⟩ := h
  rfl

def MentionsOnly (p : String → Prop) : Node Unit → Prop := Node.onLeaves fun _ e =>
  match e with
  | .column qualifier _ => ∀ part ∈ qualifier, p part
  | _ => True

theorem MentionsOnly.mono {p p' : String → Prop} (h : ∀ name, p name → p' name) {x : Node Unit}
    (hx : MentionsOnly p x) : MentionsOnly p' x := by
  cases x with
  | leaf env e =>
    cases e with
    | column qualifier name => exact fun part hp => h part (hx part hp)
    | _ => trivial
  | _ => trivial

def NamedBelow (k : Nat) (name : String) : Prop := isGenerated name → ∃ i < k, name = existsName i

theorem NamedBelow.mono {j k : Nat} (hjk : j ≤ k) {name : String} (h : NamedBelow j name) :
    NamedBelow k name := by
  intro generated
  obtain ⟨i, hi, rfl⟩ := h generated
  exact ⟨i, by omega, rfl⟩

/-- A SELECT without a semi-join, unless it is one of keys. -/
def Settled : Node Unit → Prop
  | .select _ s => IsKeySelect s ∨ hasSemiJoin s = false
  | _ => True

section

variable {n k : Nat} {a b : Select}

theorem relationNames_joined (item : FromItem) (joins : List Join) :
    relationNames [{ item with joins := item.joins ++ joins }] =
      relationNames [item] ++ joins.filterMap (·.relation.referenceName?) := by
  simp [relationNames, FromItem.relations, List.filterMap_map, List.filterMap_cons]
  split <;> simp

theorem join_names {outer : List String} {es kept : List Expr} {joins : List Join}
    (h : Converted outer n es joins kept k) {name : String}
    (hn : name ∈ joins.filterMap (·.relation.referenceName?)) : ∃ i, n ≤ i ∧ name = existsName i := by
  obtain ⟨join, hj, named⟩ := List.mem_filterMap.1 hn
  obtain ⟨q, i, -, low, -, hi⟩ := h.joins join hj
  obtain ⟨_, _, -, -, -, rfl⟩ := semiJoin?_eq_some.1 hi
  exact ⟨i, low, (Option.some.inj named).symm⟩

theorem Left.no_semiJoin (h : Left n a b k)
    (below : ∀ x ∈ a.parts .unscoped (), MentionsOnly (NamedBelow n) x) : hasSemiJoin b = false := by
  cases h with
  | same none => exact none
  | joined hs hw star busy conv =>
    rename_i item condition joins kept
    refine hasSemiJoin_eq_false fun _ _ e he => ?_
    have singles : ∀ x ∈ kept, x.conjuncts = [x] := fun x hx => Expr.conjuncts_of_mem (conv.kept x hx).1
    rw [whereConjuncts, Expr.conjuncts_conjunction? singles] at he
    simp only [relationNames_joined, ← hs]
    rw [isSemiJoin_unmentioned, (conv.kept e he).2]
    intro qualifier hq part hp new
    obtain ⟨i, low, rfl⟩ := join_names conv new
    obtain ⟨name, leaf⟩ := mem_columnQualifiers.1 hq
    have inWhere : e ∈ whereConjuncts a := by simpa [whereConjuncts, hw] using (conv.kept e he).1
    have old := below _ (mem_parts_of_whereConjunct inWhere leaf) _ hp
    obtain ⟨i', hi', same⟩ := old (isGenerated_existsName i)
    have := existsName_inj same
    omega

/-- From pieces without generated names come pieces with the names of the joins made so far, whose SELECTs
are settled. -/
def freshlyNamed (_ : Unit) (n k : Nat) (L L' : Unit → List (Node Unit)) : Prop :=
  n ≤ k ∧ ((∀ x ∈ L (), MentionsOnly (¬ isGenerated ·) x) →
    ∀ x ∈ L' (), MentionsOnly (NamedBelow k) x ∧ Settled x)

theorem yields_leaveSelect (h : Yields (decorrelated.leaveSelect () a) n b k) : Left n a b k :=
  decorrelateSelect_left h

theorem Left.le (h : Left n a b k) : n ≤ k := by
  cases h with
  | same => exact Nat.le_refl n
  | joined _ _ _ _ conv => have := conv.length; omega

theorem Left.freshlyNamed (h : Left n a b k)
    (parts : ∀ x ∈ a.parts .unscoped (), MentionsOnly (NamedBelow n) x ∧ Settled x) :
    ∀ x ∈ b.parts .unscoped (), MentionsOnly (NamedBelow k) x ∧ Settled x := by
  have old : ∀ x ∈ a.parts .unscoped (), MentionsOnly (NamedBelow k) x ∧ Settled x := fun x hx =>
    ⟨(parts x hx).1.mono fun _ => NamedBelow.mono h.le, (parts x hx).2⟩
  intro x hx
  rcases h.mem_parts unscoped_seesSources hx with hx | ⟨i, q, s, low, high, hq, hs, brought⟩
  · exact old x hx
  · have inner : ∀ y ∈ s.parts .unscoped (), y ∈ a.parts .unscoped () := subquery_parts hq hs
    cases brought with
    | relation => exact ⟨trivial, trivial⟩
    | query => exact ⟨trivial, trivial⟩
    | select => exact ⟨trivial, .inl (keySelect_isKeySelect _ _)⟩
    | part hy => exact old x (inner x hy)
    | outerKey hk hy => exact old x (inner x (mem_key_nodes _ _ hk (.inr hy)))
    | innerKey =>
      refine ⟨fun part hp _ => ⟨i, high, ?_⟩, trivial⟩
      simpa using hp

theorem decorrelated_freshlyNamed : decorrelated.Keeps .unscoped freshlyNamed where
  nil := ⟨Nat.le_refl _, by simp⟩
  append := by
    rintro env n j k L L' M M' ⟨le, h⟩ ⟨le', h'⟩
    refine ⟨Nat.le_trans le le', fun original x hx => ?_⟩
    rw [List.forall_mem_append] at original
    rcases List.mem_append.1 hx with hx | hx
    · exact ⟨(h original.1 x hx).1.mono fun _ => NamedBelow.mono le', (h original.1 x hx).2⟩
    · exact h' original.2 x hx
  leaf := by
    rintro env n k e e' he hy
    obtain ⟨rfl, rfl⟩ := Outcomes.yields_pure.1 hy
    refine ⟨Nat.le_refl _, fun original x hx => ?_⟩
    simp only [Expr.nodes_leaf _ he, List.mem_singleton] at hx
    subst hx
    refine ⟨(original _ List.mem_cons_self).mono fun name plain generated => ?_, trivial⟩
    exact (plain generated).elim
  relation := by
    rintro env n j k a a' b ha ⟨le, h⟩ hy
    obtain ⟨rfl, rfl⟩ := Outcomes.yields_pure.1 hy
    refine ⟨le, fun original x hx => ?_⟩
    simp only [Relation.nodes_eq, List.forall_mem_cons] at original
    simp only [Relation.nodes_eq, List.mem_cons] at hx
    rcases hx with rfl | hx
    · exact ⟨trivial, trivial⟩
    · exact h original.2 x hx
  select := by
    rintro env n j k a a' b inner ha ⟨le, h⟩ hy
    have left := yields_leaveSelect hy
    refine ⟨Nat.le_trans le left.le, fun original x hx => ?_⟩
    simp only [Select.nodes_eq, List.forall_mem_cons] at original
    have parts := h original.2
    simp only [Select.nodes_eq, List.mem_cons] at hx
    rcases hx with rfl | hx
    · exact ⟨trivial, .inr (left.no_semiJoin fun x hx => (parts x hx).1)⟩
    · exact left.freshlyNamed parts x hx
  query := by
    rintro env n j k a a' b inner ha ⟨le, h⟩ hy
    obtain ⟨rfl, rfl⟩ := Outcomes.yields_pure.1 hy
    refine ⟨le, fun original x hx => ?_⟩
    simp only [Query.nodes_eq, List.forall_mem_cons] at original
    simp only [Query.nodes_eq, List.mem_cons] at hx
    rcases hx with rfl | hx
    · exact ⟨trivial, trivial⟩
    · exact h original.2 x hx

end

end QueryBridge.Passes
