import QueryBridge.Passes.Aliases
import QueryBridge.Proofs.Passes.ColumnAliases

set_option autoImplicit false

namespace QueryBridge.Passes

section

variable {m : Type → Type} [Monad m] {σ : Type} [Outcomes m σ] {ρ : Type} {r : Rewrite m ρ} {n k : σ}

theorem elementName?_unnest {es es' : List Expr} (h : es'.length = es.length) (label : Option TableAlias) :
    elementName? (.unnest es' label) = elementName? (.unnest es label) := by
  match es, es', h with
  | [], [], _ => rfl
  | [_], [_], _ =>
    unfold elementName?
    rcases label with _ | ⟨name, _ | ⟨column, _ | _⟩⟩ <;> rfl
  | _ :: _ :: _, _ :: _ :: _, _ => rfl

theorem elementName?_rewriteParts {env : ρ} {a b : Relation} (h : Yields (a.rewriteParts r env) n b k) :
    elementName? b = elementName? a := by
  cases a with
  | table path label => rw [(Outcomes.yields_pure.1 h).1]
  | derived q label =>
    obtain ⟨_, _, -, rest⟩ := Outcomes.yields_bind.1 h
    rw [(Outcomes.yields_pure.1 rest).1]
    rfl
  | unnest es label =>
    obtain ⟨es', _, hes, rest⟩ := Outcomes.yields_bind.1 h
    rw [(Outcomes.yields_pure.1 rest).1, elementName?_unnest (length_rewriteExprs hes)]

theorem elementNames_rewriteParts {inner : ρ} {a b : Select}
    (hook : ∀ {env n k} {x y : Relation}, Yields (r.leaveRelation env x) n y k →
      elementName? y = elementName? x)
    (h : Yields (a.rewriteParts r inner) n b k) : elementNames b = elementNames a := by
  have relations := Select.relations_correspond h
  unfold elementNames
  generalize a.relations = as at relations ⊢
  generalize b.relations = bs at relations ⊢
  induction relations with
  | nil => rfl
  | cons one _ ih =>
    obtain ⟨i, j, hx⟩ := one
    obtain ⟨x', _, parts, leave⟩ := Relation.yields_rewrite.1 hx
    rw [List.filterMap_cons, List.filterMap_cons, hook leave, elementName?_rewriteParts parts, ih]

end

theorem renameRelation_cases (names : List ElementName) (a : Relation) :
    (renameRelation names a = a ∧ ∀ name, elementName? a = some name → name ∉ names) ∨
      ∃ e name column, a = .unnest [e] (some ⟨name, [column]⟩) ∧
        renameRelation names a = .unnest [e] (some ⟨column, []⟩) := by
  unfold renameRelation
  split
  · rename_i e name column
    split
    · exact .inr ⟨e, name, column, rfl, rfl⟩
    · rename_i absent
      refine .inl ⟨rfl, fun element same => ?_⟩
      cases same
      simpa using absent
  · rename_i other
    refine .inl ⟨rfl, fun element same => ?_⟩
    unfold elementName? at same
    split at same
    · exact (other _ _ _ rfl).elim
    · cases same

theorem parts_renameRelation {τ : Type} (v : Scoping τ) (t : τ) (names : List ElementName) (a : Relation) :
    (renameRelation names a).parts v t = a.parts v t := by
  rcases renameRelation_cases names a with ⟨same, -⟩ | ⟨e, name, column, rfl, same⟩
  · rw [same]
  · rw [same]
    rfl

section

variable (names : List ElementName)

theorem renamed_keepsLeaves : (renamed names).KeepsLeaves := by
  intro env n k e e' he hy
  obtain rfl : renameLeaf names e = e' := hy
  unfold renameLeaf
  split
  · split <;> rfl
  · exact he

theorem renamed_keepsPaths : (renamed names).KeepsPaths where
  relation {env n k a b} hy := by
    obtain rfl : renameRelation names a = b := hy
    rcases renameRelation_cases names a with ⟨same, -⟩ | ⟨e, name, column, rfl, same⟩
    · rw [same]
    · rw [same]
      rfl
  select hy := by rw [(Outcomes.yields_pure.1 hy).1]

theorem renamed_keepsProjections : KeepsProjections (renamed names) where
  leaves := renamed_keepsLeaves names
  star {env n k e e'} hy := by
    obtain rfl : renameLeaf names e = e' := hy
    unfold renameLeaf
    split
    · split <;> rfl
    · rfl
  select hy := by rw [(Outcomes.yields_pure.1 hy).1]
  query hy := by rw [(Outcomes.yields_pure.1 hy).1]

theorem renamed_preserves {τ : Type} {v : Scoping τ} (scopes : (renamed names).KeepsScopes v)
    {F : Node τ → Prop} (leaf : ∀ {t e}, F (.leaf t e) → F (.leaf t (renameLeaf names e)))
    (rename : ∀ {t a}, F (.relation t a) → F (.relation t (renameRelation names a)))
    (relation : ∀ {env n k t} {a a' : Relation}, Yields (a.rewriteParts (renamed names) env) n a' k →
      F (.relation t a) → F (.relation t a'))
    (select : ∀ {inner n k t} {a a' : Select}, Yields (a.rewriteParts (renamed names) inner) n a' k →
      F (.select t a) → F (.select t a'))
    (query : ∀ {inner n k t} {a a' : Query}, Yields (a.rewriteParts (renamed names) inner) n a' k →
      F (.query t a) → F (.query t a')) : (renamed names).Preserves v F where
  scopes := scopes
  leaf {env n k t e e'} he hy hx := by
    have still := renamed_keepsLeaves names he hy
    obtain rfl : renameLeaf names e = e' := hy
    rw [Expr.nodes_leaf _ still, List.forall_mem_singleton]
    exact leaf hx
  relation := relation
  select := select
  query := query
  leaveRelation {env n k t a b} hy hx := by
    obtain rfl : renameRelation names a = b := hy
    rw [Relation.nodes_eq, List.forall_mem_cons] at hx ⊢
    rw [parts_renameRelation]
    exact ⟨rename hx.1, hx.2⟩
  leaveSelect hy hx := by rwa [(Outcomes.yields_pure.1 hy).1]
  leaveQuery hy hx := by rwa [(Outcomes.yields_pure.1 hy).1]

theorem renamed_leaves {τ : Type} {v : Scoping τ} (scopes : (renamed names).KeepsScopes v)
    {G : τ → Expr → Prop} (closed : ∀ t e, G t e → G t (renameLeaf names e)) :
    (renamed names).Preserves v (Node.onLeaves G) :=
  renamed_preserves names scopes (closed _ _) (fun _ => trivial) (fun _ _ => trivial)
    (fun _ _ => trivial) (fun _ _ => trivial)

theorem renamed_pushed : (renamed names).Preserves .unscoped Pushed := by
  refine renamed_preserves names (Rewrite.keepsScopes_unscoped _) (fun _ => trivial) ?_
    (fun ha hx => pushed_rewriteParts (renamed_keepsProjections names) ha hx) (fun _ _ => trivial)
    (fun _ _ => trivial)
  intro t a hx
  rcases renameRelation_cases names a with ⟨same, -⟩ | ⟨e, name, column, rfl, same⟩
  · rwa [same]
  · rw [same]
    rfl

theorem renamed_starFree : (renamed names).Preserves .unscoped StarFreeNode :=
  renamed_preserves names (Rewrite.keepsScopes_unscoped _) (fun _ => trivial) (fun _ => trivial)
    (fun _ _ => trivial) (fun ha hx => StarFree.rewriteParts (renamed_keepsProjections names) ha hx)
    (fun _ _ => trivial)

def Renamed : Node Unit → Prop
  | .select _ s => elementNames s = []
  | _ => True

theorem elementNames_renamed {names : List ElementName} {n k : Unit} {a b : Select}
    (all : ∀ name ∈ elementNames a, name ∈ names)
    (h : Yields (a.rewriteParts (renamed names) ()) n b k) : elementNames b = [] := by
  have relations := Select.relations_correspond h
  unfold elementNames at all ⊢
  generalize a.relations = as at relations all
  generalize b.relations = bs at relations ⊢
  induction relations with
  | nil => rfl
  | @cons x y as bs one _ ih =>
    obtain ⟨i, j, hx⟩ := one
    obtain ⟨x', _, parts, leave⟩ := Relation.yields_rewrite.1 hx
    have name := elementName?_rewriteParts parts
    have none : elementName? y = none := by
      obtain rfl : renameRelation names x' = y := leave
      rcases renameRelation_cases names x' with ⟨same, absent⟩ | ⟨e, _, column, rfl, same⟩
      · rw [same]
        cases present : elementName? x' with
        | none => rfl
        | some element =>
          have inNames := all element (List.mem_filterMap.2 ⟨x, List.mem_cons_self, by rw [← name, present]⟩)
          exact (absent element present inNames).elim
      · rw [same]
        rfl
    rw [List.filterMap_cons, none]
    refine ih fun element he => all element ?_
    rw [List.filterMap_cons]
    split
    · exact he
    · exact List.mem_cons_of_mem _ he

theorem renamed_renamed : (renamed names).Preserves .unscoped Renamed := by
  refine renamed_preserves names (Rewrite.keepsScopes_unscoped _) (fun _ => trivial) (fun _ => trivial)
    (fun _ _ => trivial) ?_ (fun _ _ => trivial)
  intro inner n k t a a' ha hx
  refine elementNames_renamed (fun name present => ?_) ha
  have none : elementNames a = [] := hx
  rw [none] at present
  cases present

end

theorem body_renameOrder (names : List ElementName) (q : Query) : (renameOrder names q).body = q.body := by
  unfold renameOrder
  split <;> rfl

theorem renameSelect_yields (names : List ElementName) (s : Select) :
    (names = [] ∧ renameSelect names s = s) ∨
      Yields (s.rewriteParts (renamed names) ()) () (renameSelect names s) () := by
  unfold renameSelect
  split
  · rename_i none
    exact .inl ⟨List.isEmpty_iff.1 none, rfl⟩
  · obtain ⟨s', k, parts, leave⟩ := Select.yields_rewrite.1 (yields_self (s.rewrite (renamed names) ()))
    obtain ⟨same, -⟩ := Outcomes.yields_pure.1 leave
    change _ = s' at same
    rw [← same] at parts
    exact .inr parts

theorem renamedElements_keepsPaths : renamedElements.KeepsPaths where
  relation hy := by rw [(Outcomes.yields_pure.1 hy).1]
  select {env n k a b} hy := by
    obtain rfl : renameSelect (elementNames a) a = b := hy
    rcases renameSelect_yields (elementNames a) a with ⟨-, same⟩ | parts
    · rw [same]
    · exact tablePaths_rewriteParts (renamed_keepsPaths _) parts

theorem renamedElements_keepsProjections : KeepsProjections renamedElements where
  leaves he hy := by rwa [(Outcomes.yields_pure.1 hy).1]
  star hy := by rw [(Outcomes.yields_pure.1 hy).1]
  select {env n k a b} hy := by
    obtain rfl : renameSelect (elementNames a) a = b := hy
    rcases renameSelect_yields (elementNames a) a with ⟨-, same⟩ | parts
    · rw [same]
    · exact starColumns_rewriteParts (renamed_keepsProjections _) parts
  query {env n k before a b} hy := by
    obtain rfl : renameOrder ((before.select?.map elementNames).getD []) a = b := hy
    exact body_renameOrder _ a

section

variable {τ : Type} {v : Scoping τ} {F : Node τ → Prop}

theorem allNodes_renameSelect {names : List ElementName} (h : (renamed names).Preserves v F) {t : τ}
    {s : Select} (hx : ∀ x ∈ s.nodes v t, F x) : ∀ x ∈ (renameSelect names s).nodes v t, F x := by
  unfold renameSelect
  split
  · exact hx
  · exact h.keeps.ascends.pieces.select_holds s (yields_self _) t hx

theorem allNodes_renameOrder (hv : v.SeesSources) {names : List ElementName}
    (h : (renamed names).Preserves v F) {t : τ} {q : Query} (free : ∀ t q, F (.query t q))
    (hx : ∀ x ∈ q.nodes v t, F x) : ∀ x ∈ (renameOrder names q).nodes v t, F x := by
  have scope := hv.query t (renameOrder names q) q (by rw [Query.select?, body_renameOrder]; rfl)
  rw [Query.nodes_eq, List.forall_mem_cons] at hx ⊢
  rw [scope]
  refine ⟨free _ _, ?_⟩
  unfold renameOrder
  split
  · exact hx.2
  · simp only [Query.parts, List.forall_mem_append] at hx ⊢
    have run := yields_self (rewriteOrder (m := Id) (renamed names) () q.orderBy)
    have orders := h.keeps.ascends.pieces.orders_hold q.orderBy run _ hx.2.2.2.1
    exact ⟨hx.2.1, hx.2.2.1, orders, hx.2.2.2.2⟩

theorem renamedElements_preserves (hv : v.SeesSources) (scopes : renamedElements.KeepsScopes v)
    (walks : ∀ names, (renamed names).Preserves v F) (free : ∀ t q, F (.query t q))
    (relation : ∀ {env n k t} {a a' : Relation}, Yields (a.rewriteParts renamedElements env) n a' k →
      F (.relation t a) → F (.relation t a'))
    (select : ∀ {inner n k t} {a a' : Select}, Yields (a.rewriteParts renamedElements inner) n a' k →
      F (.select t a) → F (.select t a')) : renamedElements.Preserves v F where
  scopes := scopes
  leaf {env n k t e e'} he hy hx := by
    rw [(Outcomes.yields_pure.1 hy).1, Expr.nodes_leaf _ he, List.forall_mem_singleton]
    exact hx
  relation := relation
  select := select
  query _ _ := free _ _
  leaveRelation hy hx := by rwa [(Outcomes.yields_pure.1 hy).1]
  leaveSelect {inner n k t a b} hy hx := by
    obtain rfl : renameSelect (elementNames a) a = b := hy
    exact allNodes_renameSelect (walks _) hx
  leaveQuery {inner n k t before a b} hy hx := by
    obtain rfl : renameOrder ((before.select?.map elementNames).getD []) a = b := hy
    exact allNodes_renameOrder hv (walks _) free hx

end

theorem renamedElements_leaves {τ : Type} {v : Scoping τ} (hv : v.SeesSources)
    (scopes : renamedElements.KeepsScopes v) (scopes' : ∀ names, (renamed names).KeepsScopes v)
    {G : τ → Expr → Prop} (closed : ∀ names t e, G t e → G t (renameLeaf names e)) :
    renamedElements.Preserves v (Node.onLeaves G) :=
  renamedElements_preserves hv scopes (fun names => renamed_leaves names (scopes' names) (closed names))
    (fun _ _ => trivial) (fun _ _ => trivial) (fun _ _ => trivial)

theorem renamedElements_pushed : renamedElements.Preserves .unscoped Pushed :=
  renamedElements_preserves unscoped_seesSources (Rewrite.keepsScopes_unscoped _) renamed_pushed
    (fun _ _ => trivial) (fun ha hx => pushed_rewriteParts renamedElements_keepsProjections ha hx)
    (fun _ _ => trivial)

theorem renamedElements_starFree : renamedElements.Preserves .unscoped StarFreeNode :=
  renamedElements_preserves unscoped_seesSources (Rewrite.keepsScopes_unscoped _) renamed_starFree
    (fun _ _ => trivial) (fun _ _ => trivial)
    (fun ha hx => StarFree.rewriteParts renamedElements_keepsProjections ha hx)

theorem renamedElements_renamed : renamedElements.Keeps .unscoped
    (fun _ _ _ _ L' => ∀ x ∈ L' (), Renamed x) where
  nil := by simp
  append hL hM := by
    rw [List.forall_mem_append]
    exact ⟨hL, hM⟩
  leaf he hy := by
    obtain ⟨rfl, -⟩ := Outcomes.yields_pure.1 hy
    simp only [Expr.nodes_leaf _ he, List.forall_mem_singleton]
    trivial
  relation ha parts hy := by
    obtain ⟨rfl, -⟩ := Outcomes.yields_pure.1 hy
    simp only [Relation.nodes_eq, List.forall_mem_cons]
    exact ⟨trivial, parts⟩
  select {env n j k a a' b} ha parts hy := by
    obtain rfl : renameSelect (elementNames a') a' = b := hy
    simp only [Select.nodes_eq, List.forall_mem_cons]
    rcases renameSelect_yields (elementNames a') a' with ⟨none, same⟩ | walk
    · rw [same]
      exact ⟨none, parts⟩
    · exact ⟨elementNames_renamed (fun _ present => present) walk,
        (renamed_renamed _).keeps.selectParts walk _ parts⟩
  query {env n j k a a' b} ha parts hy := by
    obtain rfl : renameOrder ((a.select?.map elementNames).getD []) a' = b := hy
    refine allNodes_renameOrder unscoped_seesSources (renamed_renamed _) (fun _ _ => trivial) ?_
    rw [Query.nodes_eq, List.forall_mem_cons]
    exact ⟨trivial, parts⟩

theorem renameUnnested_yields (q : Query) :
    Yields (q.rewrite renamedElements ()) () (renameUnnested q) () := rfl

theorem renameUnnested_renamed (q : Query) :
    ∀ x ∈ (renameUnnested q).nodes .unscoped (), Renamed x :=
  renamedElements_renamed.ascends.pieces.query_holds q (renameUnnested_yields q)

def Undisturbed : Node Unit → Prop
  | .select _ s => elementNames s = []
  | .query _ q => (q.select?.map elementNames).getD [] = []
  | _ => True

theorem renamedElements_rests : renamedElements.Rests Undisturbed where
  leaf hy := ⟨le_refl _, fun _ _ => (Outcomes.yields_pure.1 hy).1⟩
  relation hy := ⟨le_refl _, fun _ _ => (Outcomes.yields_pure.1 hy).1⟩
  select {env n k a b} hy := by
    refine ⟨le_refl _, fun none _ => ?_⟩
    obtain rfl : renameSelect (elementNames a) a = b := hy
    rw [show elementNames a = [] from none]
    rfl
  query {env n k a a' b} hy := by
    refine ⟨le_refl _, fun none _ same => ?_⟩
    obtain rfl : renameOrder ((a.select?.map elementNames).getD []) a' = b := hy
    rw [show (a.select?.map elementNames).getD [] = [] from none]
    exact same

theorem mem_parts_of_select? {q : Query} {s : Select} (h : q.select? = some s) :
    .select () s ∈ q.parts .unscoped () := by
  unfold Query.select? at h
  split at h
  · rename_i s' body
    cases h
    simp [Query.parts, body, Body.nodes, Select.nodes_eq]
  · cases h

def SelectsIncluded (L : List (Node Unit)) : Prop :=
  ∀ env q s, .query env q ∈ L → q.select? = some s → ∃ env, .select env s ∈ L

theorem identity_selectsIncluded : (Rewrite.identity Id Scoping.unscoped).Keeps .unscoped
    (fun _ _ _ _ L' => SelectsIncluded (L' ())) where
  nil := by simp [SelectsIncluded]
  append hL hM env q s hq hs := by
    rcases List.mem_append.1 hq with hq | hq
    · obtain ⟨env', h⟩ := hL env q s hq hs
      exact ⟨env', List.mem_append_left _ h⟩
    · obtain ⟨env', h⟩ := hM env q s hq hs
      exact ⟨env', List.mem_append_right _ h⟩
  leaf he hy env q s hq hs := by
    obtain ⟨rfl, -⟩ := Outcomes.yields_pure.1 hy
    simp only [Expr.nodes_leaf _ he, List.mem_singleton] at hq
    cases hq
  relation {env n j k a a' b} ha parts hy env' q s hq hs := by
    obtain ⟨rfl, -⟩ := Outcomes.yields_pure.1 hy
    simp only [Relation.nodes_eq, List.mem_cons] at hq ⊢
    obtain ⟨env', h⟩ := parts env' q s (hq.resolve_left (by simp)) hs
    exact ⟨env', .inr h⟩
  select {env n j k a a' b} ha parts hy env' q s hq hs := by
    obtain ⟨rfl, -⟩ := Outcomes.yields_pure.1 hy
    simp only [Select.nodes_eq, List.mem_cons] at hq ⊢
    obtain ⟨env', h⟩ := parts env' q s (hq.resolve_left (by simp)) hs
    exact ⟨env', .inr h⟩
  query {env n j k a a' b} ha parts hy env' q s hq hs := by
    obtain ⟨rfl, -⟩ := Outcomes.yields_pure.1 hy
    simp only [Query.nodes_eq, List.mem_cons] at hq ⊢
    rcases hq with same | hq
    · rw [(Node.query.inj same).2] at hs
      exact ⟨(), .inr (mem_parts_of_select? hs)⟩
    · obtain ⟨env', h⟩ := parts env' q s hq hs
      exact ⟨env', .inr h⟩

theorem renameUnnested_eq_self {q : Query} (h : ∀ x ∈ q.nodes .unscoped (), Renamed x) :
    renameUnnested q = q := by
  have run := yields_self (q.rewrite (Rewrite.identity Id Scoping.unscoped) ())
  have same := ((Rewrite.identity_rests Scoping.unscoped).ascends.pieces.query_holds q run).2
    (fun _ _ => trivial) (le_refl ())
  have included := identity_selectsIncluded.ascends.pieces.query_holds q run
  rw [same] at included
  refine (renamedElements_rests.ascends.pieces.query_holds q (renameUnnested_yields q)).2 ?_ (le_refl ())
  intro x hx
  cases x with
  | select env s => exact h _ hx
  | query env q' =>
    cases hs : q'.select? with
    | none => simp [Undisturbed, hs]
    | some s =>
      obtain ⟨env', hs'⟩ := included env q' s hx hs
      have none : elementNames s = [] := h _ hs'
      simpa [Undisturbed, hs] using none
  | _ => trivial

end QueryBridge.Passes
