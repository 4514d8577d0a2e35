import QueryBridge.Passes.Aliases
import QueryBridge.Proofs.Passes.Projections
import QueryBridge.Proofs.Passes.ShortQualifiers

set_option autoImplicit false

namespace QueryBridge

section

variable {τ : Type}

/-- The SELECT differs in its labels only. -/
structure Relabels (v : Scoping τ) (f : Select → Select) (s : Select) : Prop where
  sources : (f s).sources = s.sources
  parts : ∀ t, (f s).parts v t = s.parts v t

/-- The property of nodes does not depend on the labels of a leftmost SELECT. -/
structure Unlabelled (f : Select → Select) (F : Node τ → Prop) : Prop where
  select : ∀ {t s}, F (.select t s) → F (.select t (f s))
  query : ∀ {t q}, F (.query t q) → F (.query t (q.mapLeftmost f))

variable {v : Scoping τ} {f : Select → Select} {F : Node τ → Prop}

theorem sources_mapLeftmost {q : Query} (h : Relabels v f q.leftmost) :
    (q.mapLeftmost f).select?.map (·.sources) = q.select?.map (·.sources) := by
  obtain ⟨ctes, recursive, body, orderBy, limit, offset⟩ := q
  cases body with
  | select s => exact congrArg some h.sources
  | _ => rfl

theorem allNodes_mapLeftmost (hv : v.SeesSources) (hF : Unlabelled f F) :
    (∀ b : Body, Relabels v f b.leftmost → ∀ t, (∀ x ∈ b.nodes v t, F x) →
      ∀ x ∈ (b.mapLeftmost f).nodes v t, F x) ∧
    (∀ q : Query, Relabels v f q.leftmost → ∀ t, (∀ x ∈ q.nodes v t, F x) →
      ∀ x ∈ (q.mapLeftmost f).nodes v t, F x) := by
  refine leftEnd_induction ?select ?setOp ?query ?body
  case select =>
    intro s (h : Relabels v f s) t hx
    rw [Body.nodes, Select.nodes_eq, List.forall_mem_cons] at hx
    rw [Body.mapLeftmost, Body.nodes, Select.nodes_eq, hv.select t _ _ h.sources, h.parts,
      List.forall_mem_cons]
    exact ⟨hF.select hx.1, hx.2⟩
  case setOp =>
    intro op all left right ih h t hx
    rw [Body.nodes, List.forall_mem_append] at hx
    rw [Body.mapLeftmost, Body.nodes, List.forall_mem_append]
    exact ⟨ih h t hx.1, hx.2⟩
  case query => exact fun q ih h t hx => ih h t hx
  case body =>
    intro ctes recursive body orderBy limit offset ih h t hx
    rw [Query.nodes_eq, List.forall_mem_cons] at hx ⊢
    rw [hv.query t _ _ (sources_mapLeftmost h)]
    refine ⟨hF.query hx.1, ?_⟩
    simp only [Query.parts, Query.mapLeftmost, List.forall_mem_append] at hx ⊢
    exact ⟨hx.2.1, ih h _ hx.2.2.1, hx.2.2.2⟩

end

namespace Passes

theorem nodes_aliasItems {τ : Type} (v : Scoping τ) (t : τ) {is : List SelectItem} {columns : List String}
    (h : is.length = columns.length) :
    nodesOfItems v t (List.zipWith (fun item column => ⟨item.expr, some column⟩) is columns) =
      nodesOfItems v t is := by
  induction is generalizing columns with
  | nil => rfl
  | cons item is ih =>
    cases columns with
    | nil => cases h
    | cons column columns =>
      rw [List.zipWith_cons_cons, nodesOfItems, nodesOfItems, ih (by simpa using h)]
      cases item
      rfl

theorem aliasItems_relabels {τ : Type} (v : Scoping τ) {columns : List String} {s : Select}
    (h : namesColumns s columns) : Relabels v (aliasItems columns) s where
  sources := rfl
  parts t := by
    rw [namesColumns, Bool.and_eq_true, beq_iff_eq] at h
    simp only [Select.parts, aliasItems, nodes_aliasItems v t h.1]

theorem pushAliases_cases (a : Relation) : pushAliases a = a ∨
    ∃ q name columns, a = .derived q (some ⟨name, columns⟩) ∧ namesColumns q.leftmost columns ∧
      pushAliases a = .derived (q.mapLeftmost (aliasItems columns)) (some ⟨name, []⟩) := by
  unfold pushAliases
  split
  · rename_i q name columns
    split
    · rename_i h
      exact .inr ⟨q, name, columns, rfl, (Bool.and_eq_true_iff.1 h).2, rfl⟩
    · exact .inl rfl
  · exact .inl rfl

theorem allNodes_pushAliases {τ : Type} {v : Scoping τ} (hv : v.SeesSources) {F : Node τ → Prop}
    (hF : ∀ columns, Unlabelled (aliasItems columns) F) {t : τ} {a : Relation}
    (hx : ∀ x ∈ a.parts v t, F x) : ∀ x ∈ (pushAliases a).parts v t, F x := by
  rcases pushAliases_cases a with same | ⟨q, name, columns, rfl, h, same⟩
  · rwa [same]
  · rw [same]
    exact (allNodes_mapLeftmost hv (hF columns)).2 q (aliasItems_relabels v h) t hx

theorem pushedAliases_keepsPaths : pushedAliases.KeepsPaths where
  relation {env n k a b} hy := by
    obtain rfl : pushAliases a = b := hy
    rcases pushAliases_cases a with same | ⟨q, name, columns, rfl, -, same⟩
    · rw [same]
    · rw [same]
      rfl
  select hy := by rw [(Outcomes.yields_pure.1 hy).1]

theorem pushedAliases_preserves {τ : Type} {v : Scoping τ} (hv : v.SeesSources)
    (scopes : pushedAliases.KeepsScopes v) {F : Node τ → Prop}
    (hF : ∀ columns, Unlabelled (aliasItems columns) F) (free : ∀ t a, F (.relation t a))
    (select : ∀ {inner n k t} {a a' : Select}, Yields (a.rewriteParts pushedAliases inner) n a' k →
      F (.select t a) → F (.select t a'))
    (query : ∀ {inner n k t} {a a' : Query}, Yields (a.rewriteParts pushedAliases inner) n a' k →
      F (.query t a) → F (.query t a')) : pushedAliases.Preserves v F where
  scopes := scopes
  leaf {env n k t e e'} he hy hx := by
    rw [(Outcomes.yields_pure.1 hy).1, Expr.nodes_leaf _ he, List.forall_mem_singleton]
    exact hx
  relation _ _ := free _ _
  select := select
  query := query
  leaveRelation {env n k t a b} hy hx := by
    obtain rfl : pushAliases a = b := hy
    rw [Relation.nodes_eq, List.forall_mem_cons] at hx ⊢
    exact ⟨free _ _, allNodes_pushAliases hv hF hx.2⟩
  leaveSelect hy hx := by rwa [(Outcomes.yields_pure.1 hy).1]
  leaveQuery hy hx := by rwa [(Outcomes.yields_pure.1 hy).1]

theorem pushedAliases_leaves {τ : Type} {v : Scoping τ} (hv : v.SeesSources)
    (scopes : pushedAliases.KeepsScopes v) (G : τ → Expr → Prop) :
    pushedAliases.Preserves v (Node.onLeaves G) :=
  pushedAliases_preserves hv scopes (fun _ => ⟨fun _ => trivial, fun _ => trivial⟩) (fun _ _ => trivial)
    (fun _ _ => trivial) (fun _ _ => trivial)

def Pushed : Node Unit → Prop
  | .relation _ a => pushAliases a = a
  | _ => True

theorem pushAliases_pushAliases (a : Relation) : pushAliases (pushAliases a) = pushAliases a := by
  rcases pushAliases_cases a with same | ⟨q, name, columns, rfl, -, same⟩
  · rw [same, same]
  · rw [same]
    simp [pushAliases]

theorem pushedAliases_pushed : pushedAliases.Keeps .unscoped
    (fun _ _ _ _ L' => ∀ x ∈ L' (), Pushed x) where
  nil := by simp
  append hL hM := by
    rw [List.forall_mem_append]
    exact ⟨hL, hM⟩
  leaf he hy := by
    obtain ⟨rfl, -⟩ := Outcomes.yields_pure.1 hy
    simp only [Expr.nodes_leaf _ he, List.forall_mem_singleton]
    trivial
  relation {env n j k a a' b} ha parts hy := by
    obtain rfl : pushAliases a' = b := hy
    simp only [Relation.nodes_eq, List.forall_mem_cons]
    refine ⟨pushAliases_pushAliases a', ?_⟩
    exact allNodes_pushAliases unscoped_seesSources (fun _ => ⟨fun _ => trivial, fun _ => trivial⟩) parts
  select ha parts hy := by
    obtain ⟨rfl, -⟩ := Outcomes.yields_pure.1 hy
    simp only [Select.nodes_eq, List.forall_mem_cons]
    exact ⟨trivial, parts⟩
  query ha parts hy := by
    obtain ⟨rfl, -⟩ := Outcomes.yields_pure.1 hy
    simp only [Query.nodes_eq, List.forall_mem_cons]
    exact ⟨trivial, parts⟩

theorem removeColumnAliases_yields (q : Query) :
    Yields (q.rewrite pushedAliases ()) () (removeColumnAliases q) () := rfl

theorem removeColumnAliases_pushed (q : Query) :
    ∀ x ∈ (removeColumnAliases q).nodes .unscoped (), Pushed x :=
  pushedAliases_pushed.ascends.pieces.query_holds q (removeColumnAliases_yields q)

theorem pushedAliases_rests : pushedAliases.Rests Pushed where
  leaf hy := ⟨le_refl _, fun _ _ => (Outcomes.yields_pure.1 hy).1⟩
  relation hy := ⟨le_refl _, fun pushed _ => by rw [← yields_id.1 hy]; exact pushed⟩
  select hy := ⟨le_refl _, fun _ _ => (Outcomes.yields_pure.1 hy).1⟩
  query hy := ⟨le_refl _, fun _ _ same => same ▸ (Outcomes.yields_pure.1 hy).1⟩

theorem removeColumnAliases_eq_self {q : Query} (h : ∀ x ∈ q.nodes .unscoped (), Pushed x) :
    removeColumnAliases q = q :=
  (pushedAliases_rests.ascends.pieces.query_holds q (removeColumnAliases_yields q)).2 h (le_refl ())

theorem namesColumns_eq (s : Select) (columns : List String) :
    namesColumns s columns =
      ((starColumns s).length == columns.length && !(starColumns s).any (·.isSome)) := by
  have star (e : Expr) : (starKind e).isSome = isStar e := by cases e <;> rfl
  simp [namesColumns, starColumns, List.any_map, Function.comp_def, star]

def isPushable : Relation → Bool
  | .derived q (some label) => !label.columns.isEmpty && namesColumns q.leftmost label.columns
  | _ => false

theorem pushAliases_eq_self {a : Relation} : pushAliases a = a ↔ isPushable a = false := by
  cases a with
  | derived q label =>
    cases label with
    | none => exact iff_of_true rfl rfl
    | some label =>
      obtain ⟨name, columns⟩ := label
      rw [pushAliases, isPushable]
      by_cases pushable : (!columns.isEmpty && namesColumns q.leftmost columns) = true
      · rw [if_pos pushable]
        refine iff_of_false (fun same => ?_) (by simp [pushable])
        have none : [] = columns := by simpa using (Relation.derived.inj same).2
        simp [← none] at pushable
      · rw [if_neg pushable]
        exact iff_of_true rfl (Bool.eq_false_iff.2 pushable)
  | _ => exact iff_of_true rfl rfl

section

variable {m : Type → Type} [Monad m] {σ : Type} [Outcomes m σ] {ρ : Type} {r : Rewrite m ρ}
  (h : KeepsProjections r) {n k : σ}

include h

theorem isPushable_rewriteParts {env : ρ} {a b : Relation} (hy : Yields (a.rewriteParts r env) n b k) :
    isPushable b = isPushable a := by
  cases a with
  | table path label => rw [(Outcomes.yields_pure.1 hy).1]
  | unnest es label =>
    obtain ⟨_, _, -, rest⟩ := Outcomes.yields_bind.1 hy
    rw [(Outcomes.yields_pure.1 rest).1]
    rfl
  | derived q label =>
    obtain ⟨q', _, hq, rest⟩ := Outcomes.yields_bind.1 hy
    rw [(Outcomes.yields_pure.1 rest).1]
    cases label with
    | none => rfl
    | some label =>
      simp only [isPushable, namesColumns_eq, (starColumns_leftmost h).2 q hq]

theorem pushed_rewriteParts {env : ρ} {a b : Relation} (hy : Yields (a.rewriteParts r env) n b k) {t : Unit}
    (pushed : Pushed (.relation t a)) : Pushed (.relation t b) := by
  rw [Pushed, pushAliases_eq_self] at pushed ⊢
  rw [isPushable_rewriteParts h hy, pushed]

end

theorem pushedAliases_keepsProjections : KeepsProjections pushedAliases where
  leaves he hy := by rwa [(Outcomes.yields_pure.1 hy).1]
  star hy := by rw [(Outcomes.yields_pure.1 hy).1]
  select hy := by rw [(Outcomes.yields_pure.1 hy).1]
  query hy := by rw [(Outcomes.yields_pure.1 hy).1]

theorem pushedAliases_starFree : pushedAliases.Preserves .unscoped StarFreeNode :=
  pushedAliases_preserves unscoped_seesSources (Rewrite.keepsScopes_unscoped _)
    (fun _ => ⟨fun hs => hs, fun _ => trivial⟩) (fun _ _ => trivial)
    (fun ha hx => StarFree.rewriteParts pushedAliases_keepsProjections ha hx) (fun _ _ => trivial)

end Passes

end QueryBridge
