import QueryBridge.Passes.Aliases
import QueryBridge.Proofs.Passes.Projections
import QueryBridge.Proofs.Tree.Keeping
import QueryBridge.Proofs.Tree.Resting

set_option autoImplicit false

namespace QueryBridge

def Relation.path? : Relation → Option (List String)
  | .table path _ => some path
  | _ => none

theorem tablePaths_eq (sources : List FromItem) :
    tablePaths sources = (sources.flatMap (·.relations)).filterMap Relation.path? := rfl

section

variable {m : Type → Type} [Monad m] {σ : Type} [Outcomes m σ] {ρ : Type}

/-- The hooks keep which tables a FROM clause names. -/
structure Rewrite.KeepsPaths (r : Rewrite m ρ) : Prop where
  relation : ∀ {env n k} {a b : Relation}, Yields (r.leaveRelation env a) n b k → b.path? = a.path?
  select : ∀ {env n k} {a b : Select}, Yields (r.leaveSelect env a) n b k →
    tablePaths b.sources = tablePaths a.sources

variable {r : Rewrite m ρ} (h : r.KeepsPaths) {n k : σ}

include h

theorem Relation.path?_rewrite {env : ρ} {a b : Relation} (hy : Yields (a.rewrite r env) n b k) :
    b.path? = a.path? := by
  obtain ⟨a', j, ha, hb⟩ := Relation.yields_rewrite.1 hy
  rw [h.relation hb]
  cases a with
  | table path label =>
    obtain ⟨rfl, -⟩ := Outcomes.yields_pure.1 ha
    rfl
  | derived q label =>
    obtain ⟨q', i, -, rest⟩ := Outcomes.yields_bind.1 ha
    obtain ⟨rfl, -⟩ := Outcomes.yields_pure.1 rest
    rfl
  | unnest es label =>
    obtain ⟨es', i, -, rest⟩ := Outcomes.yields_bind.1 ha
    obtain ⟨rfl, -⟩ := Outcomes.yields_pure.1 rest
    rfl

theorem tablePaths_rewriteParts {inner : ρ} {a b : Select} (hy : Yields (a.rewriteParts r inner) n b k) :
    tablePaths b.sources = tablePaths a.sources := by
  have relations := Select.relations_correspond hy
  rw [tablePaths_eq, tablePaths_eq]
  change b.relations.filterMap _ = a.relations.filterMap _
  generalize a.relations = as at relations ⊢
  generalize b.relations = bs at relations ⊢
  induction relations with
  | nil => rfl
  | cons one _ ih =>
    obtain ⟨i, j, hx⟩ := one
    rw [List.filterMap_cons, List.filterMap_cons, Relation.path?_rewrite h hx, ih]

theorem tablePaths_body {inner : ρ} {a b : Query} (hy : Yields (a.rewriteParts r inner) n b k) :
    b.select?.map (fun s => tablePaths s.sources) = a.select?.map fun s => tablePaths s.sources := by
  simp only [Query.rewriteParts, Outcomes.yields_bind, Outcomes.yields_pure] at hy
  obtain ⟨_, _, -, body', _, hbody, _, _, -, _, _, -, _, _, -, rfl, -⟩ := hy
  unfold Query.select?
  cases present : a.body with
  | select s =>
    rw [present, Body.rewrite] at hbody
    simp only [Outcomes.yields_bind, Outcomes.yields_pure] at hbody
    obtain ⟨s'', _, hs, rfl, -⟩ := hbody
    obtain ⟨s', _, parts, leave⟩ := Select.yields_rewrite.1 hs
    simp only [Option.map_some, h.select leave, tablePaths_rewriteParts h parts]
  | setOp op all left right =>
    rw [present, Body.rewrite] at hbody
    simp only [Outcomes.yields_bind, Outcomes.yields_pure] at hbody
    obtain ⟨_, _, -, _, _, -, rfl, -⟩ := hbody
    rfl
  | query q =>
    rw [present, Body.rewrite] at hbody
    simp only [Outcomes.yields_bind, Outcomes.yields_pure] at hbody
    obtain ⟨_, _, -, rfl, -⟩ := hbody
    rfl

end

namespace Passes

section

variable {m : Type → Type} [Monad m] {σ : Type} [Outcomes m σ] {ρ : Type} {r : Rewrite m ρ}
  (h : r.KeepsPaths)

include h

theorem keepsScopes_paths : r.KeepsScopes pathsInScope where
  select {inner n k t a a'} hy := by
    change t ++ _ = t ++ _
    rw [tablePaths_rewriteParts h hy]
  query {inner n k t a a'} hy := by
    change t ++ _ = t ++ _
    rw [tablePaths_body h hy]

end

def Short : Node (List (List String)) → Prop := Node.onLeaves fun paths e => shortenLeaf paths e = e

theorem shorten_shorten (paths : List (List String)) (qualifier : List String) :
    shorten paths (shorten paths qualifier) = shorten paths qualifier := by
  have single : ∀ q : List String, q.length ≤ 1 → shorten paths q = q := fun q hq => by
    rw [shorten, spellsTable, decide_eq_false (by omega)]
    rfl
  by_cases spelled : spellsTable paths qualifier
  · have cut : shorten paths qualifier = qualifier.drop (qualifier.length - 1) := if_pos spelled
    rw [cut]
    exact single _ (by rw [List.length_drop]; omega)
  · have same : shorten paths qualifier = qualifier := if_neg spelled
    rw [same, same]

theorem shortenLeaf_shortenLeaf (paths : List (List String)) (e : Expr) :
    shortenLeaf paths (shortenLeaf paths e) = shortenLeaf paths e := by
  cases e <;> simp [shortenLeaf, shorten_shorten]

theorem isLeaf_shortenLeaf (paths : List (List String)) {e : Expr} (he : e.isLeaf) :
    (shortenLeaf paths e).isLeaf := by
  cases e <;> first | rfl | cases he

theorem shorten_eq_self {paths : List (List String)} {qualifier : List String} :
    shorten paths qualifier = qualifier ↔ spellsTable paths qualifier = false := by
  rw [shorten]
  split
  · rename_i spelled
    refine iff_of_false (fun same => ?_) (by simp [spelled])
    rw [spellsTable, Bool.and_eq_true, decide_eq_true_iff] at spelled
    have := congrArg List.length same
    rw [List.length_drop] at this
    omega
  · rename_i spelled
    exact iff_of_true rfl (by simpa using spelled)

theorem spellsTable_mono {paths paths' : List (List String)} (sub : paths' ⊆ paths)
    {qualifier : List String} (h : spellsTable paths qualifier = false) :
    spellsTable paths' qualifier = false := by
  rw [spellsTable, Bool.and_eq_false_iff, List.any_eq_false] at h ⊢
  exact h.imp id fun none p hp => none p (sub hp)

theorem Short.mono {paths paths' : List (List String)} (sub : paths' ⊆ paths) {e : Expr}
    (h : Short (.leaf paths e)) : Short (.leaf paths' e) := by
  cases e with
  | column qualifier name | star qualifier =>
    simp only [Short, Node.onLeaves, shortenLeaf, Expr.column.injEq, Expr.star.injEq, and_true, shorten_eq_self] at h ⊢
    exact spellsTable_mono sub h
  | _ => rfl

theorem shortQualifiers_keepsPaths : shortQualifiers.KeepsPaths where
  relation hy := by rw [(Outcomes.yields_pure.1 hy).1]
  select hy := by rw [(Outcomes.yields_pure.1 hy).1]

theorem shortQualifiers_keepsScopes : shortQualifiers.KeepsScopes pathsInScope :=
  keepsScopes_paths shortQualifiers_keepsPaths

theorem shortQualifiers_short : shortQualifiers.Keeps pathsInScope
    (fun paths _ _ _ L' => ∀ x ∈ L' paths, Short x) where
  nil := by simp
  append hL hM := by
    rw [List.forall_mem_append]
    exact ⟨hL, hM⟩
  leaf {env n k e e'} he hy := by
    obtain rfl : shortenLeaf env e = e' := hy
    simp only [Expr.nodes_leaf _ (isLeaf_shortenLeaf env he), List.forall_mem_singleton]
    exact shortenLeaf_shortenLeaf env e
  relation ha parts hy := by
    obtain ⟨rfl, -⟩ := Outcomes.yields_pure.1 hy
    simp only [Relation.nodes_eq, List.forall_mem_cons]
    exact ⟨trivial, parts⟩
  select ha parts hy := by
    obtain ⟨rfl, -⟩ := Outcomes.yields_pure.1 hy
    simp only [Select.nodes_eq, List.forall_mem_cons, shortQualifiers_keepsScopes.select ha]
    exact ⟨trivial, parts⟩
  query ha parts hy := by
    obtain ⟨rfl, -⟩ := Outcomes.yields_pure.1 hy
    simp only [Query.nodes_eq, List.forall_mem_cons, shortQualifiers_keepsScopes.query ha]
    exact ⟨trivial, parts⟩

theorem removeCatalogPrefix_yields (q : Query) :
    Yields (q.rewrite shortQualifiers []) () (removeCatalogPrefix q) () := rfl

theorem removeCatalogPrefix_short (q : Query) :
    ∀ x ∈ (removeCatalogPrefix q).nodes pathsInScope [], Short x :=
  shortQualifiers_short.ascends.pieces.query_holds q (removeCatalogPrefix_yields q)

theorem shortQualifiers_rests : shortQualifiers.Rests Short where
  leaf hy := ⟨le_refl _, fun short _ => by rw [← yields_id.1 hy]; exact short⟩
  relation hy := ⟨le_refl _, fun _ _ => (Outcomes.yields_pure.1 hy).1⟩
  select hy := ⟨le_refl _, fun _ _ => (Outcomes.yields_pure.1 hy).1⟩
  query hy := ⟨le_refl _, fun _ _ same => by rw [← same]; exact (Outcomes.yields_pure.1 hy).1⟩

theorem removeCatalogPrefix_eq_self {q : Query} (h : ∀ x ∈ q.nodes pathsInScope [], Short x) :
    removeCatalogPrefix q = q :=
  (shortQualifiers_rests.ascends.pieces.query_holds q (removeCatalogPrefix_yields q)).2 h (le_refl ())

theorem shortQualifiers_preserves {F : Node Unit → Prop}
    (leaf : ∀ {t e} paths, F (.leaf t e) → F (.leaf t (shortenLeaf paths e)))
    (relation : ∀ t a, F (.relation t a)) (query : ∀ t q, F (.query t q))
    (select : ∀ {inner n k t} {a a' : Select}, Yields (a.rewriteParts shortQualifiers inner) n a' k →
      F (.select t a) → F (.select t a')) : shortQualifiers.Preserves .unscoped F where
  scopes := Rewrite.keepsScopes_unscoped _
  leaf {env n k t e e'} he hy hx := by
    obtain rfl : shortenLeaf env e = e' := hy
    rw [Expr.nodes_leaf _ (isLeaf_shortenLeaf env he), List.forall_mem_singleton]
    exact leaf env hx
  relation _ _ := relation _ _
  select := select
  query _ _ := query _ _
  leaveRelation hy hx := by rwa [(Outcomes.yields_pure.1 hy).1]
  leaveSelect hy hx := by rwa [(Outcomes.yields_pure.1 hy).1]
  leaveQuery hy hx := by rwa [(Outcomes.yields_pure.1 hy).1]

theorem shorten_isEmpty (paths : List (List String)) (qualifier : List String) :
    (shorten paths qualifier).isEmpty = qualifier.isEmpty := by
  by_cases same : spellsTable paths qualifier = false
  · rw [shorten_eq_self.2 same]
  · rw [shorten, if_pos (by simpa using same)]
    rw [Bool.not_eq_false, spellsTable, Bool.and_eq_true, decide_eq_true_iff] at same
    rw [Bool.eq_iff_iff, List.isEmpty_iff_length_eq_zero, List.isEmpty_iff_length_eq_zero, List.length_drop]
    omega

theorem shortQualifiers_keepsProjections : KeepsProjections shortQualifiers where
  leaves {env n k e e'} he hy := by
    obtain rfl : shortenLeaf _ e = e' := hy
    exact isLeaf_shortenLeaf _ he
  star {env n k e e'} hy := by
    obtain rfl : shortenLeaf env e = e' := hy
    cases e <;> simp [shortenLeaf, starKind, shorten_isEmpty]
  select hy := by rw [(Outcomes.yields_pure.1 hy).1]
  query hy := by rw [(Outcomes.yields_pure.1 hy).1]

theorem shortQualifiers_starFree : shortQualifiers.Preserves .unscoped StarFreeNode :=
  shortQualifiers_preserves (fun _ _ => trivial) (fun _ _ => trivial) (fun _ _ => trivial)
    (fun ha hx => StarFree.rewriteParts shortQualifiers_keepsProjections ha hx)

theorem identity_keepsPaths : (Rewrite.identity Id Scoping.unscoped).KeepsPaths where
  relation hy := by rw [(Outcomes.yields_pure.1 hy).1]
  select hy := by rw [(Outcomes.yields_pure.1 hy).1]

theorem identity_short : (Rewrite.identity Id Scoping.unscoped).Keeps pathsInScope
    (fun _ _ _ L L' => ∀ t t', t' ⊆ t → (∀ x ∈ L t, Short x) → ∀ x ∈ L' t', Short x) where
  nil := by simp
  append hL hM t t' sub hx := by
    rw [List.forall_mem_append] at hx ⊢
    exact ⟨hL t t' sub hx.1, hM t t' sub hx.2⟩
  leaf {env n k e e'} he hy t t' sub hx := by
    obtain ⟨rfl, -⟩ := Outcomes.yields_pure.1 hy
    simp only [Expr.nodes_leaf _ he, List.forall_mem_singleton] at hx ⊢
    exact hx.mono sub
  relation ha parts hy t t' sub hx := by
    obtain ⟨rfl, -⟩ := Outcomes.yields_pure.1 hy
    simp only [Relation.nodes_eq, List.forall_mem_cons] at hx ⊢
    exact ⟨trivial, parts t t' sub hx.2⟩
  select {env n j k a a' b} ha parts hy t t' sub hx := by
    obtain ⟨rfl, -⟩ := Outcomes.yields_pure.1 hy
    simp only [Select.nodes_eq, List.forall_mem_cons] at hx ⊢
    refine ⟨trivial, parts _ _ ?_ hx.2⟩
    rw [(keepsScopes_paths identity_keepsPaths).select ha]
    exact List.append_subset.2
      ⟨fun _ hp => List.mem_append_left _ (sub hp), List.subset_append_right _ _⟩
  query {env n j k a a' b} ha parts hy t t' sub hx := by
    obtain ⟨rfl, -⟩ := Outcomes.yields_pure.1 hy
    simp only [Query.nodes_eq, List.forall_mem_cons] at hx ⊢
    refine ⟨trivial, parts _ _ ?_ hx.2⟩
    rw [(keepsScopes_paths identity_keepsPaths).query ha]
    exact List.append_subset.2
      ⟨fun _ hp => List.mem_append_left _ (sub hp), List.subset_append_right _ _⟩

theorem Expr.short_mono {e : Expr} {t t' : List (List String)} (sub : t' ⊆ t)
    (h : ∀ x ∈ e.nodes pathsInScope t, Short x) : ∀ x ∈ e.nodes pathsInScope t', Short x := by
  have run := yields_self (e.rewrite (Rewrite.identity Id Scoping.unscoped) ())
  have still := (Rewrite.identity_rests Scoping.unscoped).ascends.pieces.expr_holds e run
  have same := still.2 (fun _ _ => trivial) (le_refl ())
  have related := identity_short.ascends.pieces.expr_holds e run t t' sub h
  rwa [same] at related

end Passes

end QueryBridge
