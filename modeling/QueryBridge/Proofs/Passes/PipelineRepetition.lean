import QueryBridge.Passes.Pipeline
import QueryBridge.Proofs.Passes.ConvertedConjuncts
import QueryBridge.Proofs.Passes.ElementNames
import QueryBridge.Proofs.Passes.Repetition
import QueryBridge.Proofs.Tree.Positions

set_option autoImplicit false

/-! Decorrelation undoes nothing of the passes before it. A second run of the pipeline therefore changes
what a second decorrelation changes, which is the SELECTs of keys that have a semi-join of their
own. -/

namespace QueryBridge.Passes

section

variable {τ : Type}

/-- A property of nodes that holds of what a join brings, given that it holds of the subquery. -/
structure Joinable (v : Scoping τ) (F : Node τ → Prop) : Prop where
  scope : ∀ {n k a b} (t : τ), Left n a b k → v.enterSelect t b = v.enterSelect t a
  select : ∀ {n k a b} {t : τ}, Left n a b k → F (.select t a) → F (.select t b)
  ofKeys : ∀ {t : τ} {outer s}, F (.select t s) → F (.select t (keySelect outer s))
  queryOfKeys : ∀ {t : τ} {outer s}, F (.query t (keyTable outer s))
  relationOfKeys : ∀ {t : τ} {outer s label}, F (.relation t (.derived (keyTable outer s) (some ⟨label, []⟩)))
  innerKey : ∀ {t : τ} {label column}, F (.leaf t (.qualified label column))
  outerKey : ∀ {t : τ} {q : Query} {s : Select} {e : Expr},
    (∀ x ∈ e.nodes v (v.enterSelect (v.enterQuery t q) s), F x) → ∀ x ∈ e.nodes v t, F x

variable {v : Scoping τ} {F : Node τ → Prop} (hv : v.SeesSources) (h : Joinable v F)

include hv h

theorem Left.allNodes {n k : Nat} {a b : Select} (left : Left n a b k) {t : τ}
    (hx : ∀ x ∈ a.nodes v t, F x) : ∀ x ∈ b.nodes v t, F x := by
  rw [Select.nodes_eq, List.forall_mem_cons] at hx ⊢
  rw [h.scope t left]
  refine ⟨h.select left hx.1, fun x inside => ?_⟩
  rcases left.mem_parts hv inside with inside | ⟨i, q, s, -, -, hq, hs, brought⟩
  · exact hx.2 x inside
  · have old : ∀ x ∈ s.nodes v (v.enterQuery (v.enterSelect t a) q), F x :=
      fun x hs' => hx.2 x (subquery_nodes hq hs x hs')
    rw [Select.nodes_eq, List.forall_mem_cons] at old
    cases brought with
    | relation => exact h.relationOfKeys
    | query => exact h.queryOfKeys
    | select => exact h.ofKeys old.1
    | part hy => exact old.2 x hy
    | outerKey hk hy => exact h.outerKey (fun y hy => old.2 y (mem_key_nodes v _ hk (.inr hy))) x hy
    | innerKey => exact h.innerKey

theorem decorrelated_preserves (scopes : decorrelated.KeepsScopes v)
    (relation : ∀ {env n k t} {a a' : Relation}, Yields (a.rewriteParts decorrelated env) n a' k →
      F (.relation t a) → F (.relation t a'))
    (select : ∀ {inner n k t} {a a' : Select}, Yields (a.rewriteParts decorrelated inner) n a' k →
      F (.select t a) → F (.select t a'))
    (free : ∀ t q, F (.query t q)) : decorrelated.Preserves v F where
  scopes := scopes
  leaf {env n k t e e'} he hy hx := by
    rw [(Outcomes.yields_pure.1 hy).1, Expr.nodes_leaf _ he, List.forall_mem_singleton]
    exact hx
  relation := relation
  select := select
  query _ _ := free _ _
  leaveRelation hy hx := by rwa [(Outcomes.yields_pure.1 hy).1]
  leaveSelect hy hx := Left.allNodes hv h (decorrelateSelect_left hy) hx
  leaveQuery hy hx := by rwa [(Outcomes.yields_pure.1 hy).1]

end

theorem pathsInScope_seesSources : pathsInScope.SeesSources := collecting_seesSources (g := tablePaths)

theorem Left.relations {n k : Nat} {a b : Select} (h : Left n a b k) :
    ∃ added, b.relations = a.relations ++ added ∧
      ∀ x ∈ added, ∃ outer s label, x = .derived (keyTable outer s) (some ⟨label, []⟩) := by
  cases h with
  | same => exact ⟨[], by simp⟩
  | joined hs hw star busy conv =>
    rename_i item condition joins kept
    refine ⟨joins.map (·.relation), by simp [Select.relations, hs, FromItem.relations], ?_⟩
    intro x hx
    obtain ⟨join, hj, rfl⟩ := List.mem_map.1 hx
    obtain ⟨q, i, -, -, -, hi⟩ := conv.joins join hj
    obtain ⟨s, condition, -, -, -, rfl⟩ := semiJoin?_eq_some.1 hi
    exact ⟨_, s, existsName i, rfl⟩

theorem Left.filterMap_relations {β : Type} {f : Relation → Option β}
    (none : ∀ q label, f (.derived q label) = none) {n k : Nat} {a b : Select} (h : Left n a b k) :
    b.relations.filterMap f = a.relations.filterMap f := by
  obtain ⟨added, same, derived⟩ := h.relations
  have nothing : added.filterMap f = [] := by
    rw [List.filterMap_eq_nil_iff]
    intro x hx
    obtain ⟨outer, s, label, rfl⟩ := derived x hx
    exact none _ _
  rw [same, List.filterMap_append, nothing, List.append_nil]

theorem decorrelated_keepsPaths : decorrelated.KeepsPaths where
  relation hy := by rw [(Outcomes.yields_pure.1 hy).1]
  select hy := (decorrelateSelect_left hy).filterMap_relations fun _ _ => rfl

theorem decorrelated_short : decorrelated.Preserves pathsInScope Short := by
  refine decorrelated_preserves pathsInScope_seesSources ?_ (keepsScopes_paths decorrelated_keepsPaths)
    (fun _ _ => trivial) (fun _ _ => trivial) (fun _ _ => trivial)
  refine ⟨?_, fun _ _ => trivial, fun _ => trivial, trivial, trivial, rfl, ?_⟩
  · intro n k a b t left
    change t ++ _ = t ++ _
    rw [tablePaths_eq, tablePaths_eq]
    exact congrArg _ (left.filterMap_relations fun _ _ => rfl)
  · intro t q s e hx
    refine Expr.short_mono ?_ hx
    change t ⊆ (t ++ _) ++ _
    rw [List.append_assoc]
    exact List.subset_append_left _ _

theorem decorrelated_pushed : decorrelated.Preserves .unscoped Pushed := by
  refine decorrelated_preserves unscoped_seesSources ?_ (Rewrite.keepsScopes_unscoped _)
    (fun ha hx => pushed_rewriteParts decorrelated_keepsProjections ha hx) (fun _ _ => trivial)
    (fun _ _ => trivial)
  exact ⟨fun _ _ => rfl, fun _ _ => trivial, fun _ => trivial, trivial, rfl, trivial, fun hx => hx⟩

theorem decorrelated_renamed : decorrelated.Preserves .unscoped Renamed := by
  refine decorrelated_preserves unscoped_seesSources ?_ (Rewrite.keepsScopes_unscoped _)
    (fun _ _ => trivial) ?_ (fun _ _ => trivial)
  · refine ⟨fun _ _ => rfl, ?_, fun hs => hs, trivial, trivial, trivial, fun hx => hx⟩
    intro n k a b t left none
    exact (left.filterMap_relations fun _ _ => rfl).trans none
  · intro inner n k t a a' ha none
    refine (elementNames_rewriteParts ?_ ha).trans none
    intro env n k x y hy
    rw [(Outcomes.yields_pure.1 hy).1]

section

variable (q : Query)

def prepared : Query := renameUnnested (removeColumnAliases (removeCatalogPrefix q))

theorem pipeline_eq : (Pipeline.forDialect .bigquery).apply q = decorrelate (prepared q) := rfl

theorem renameLeaf_short (names : List ElementName) (t : List (List String)) (e : Expr)
    (h : shortenLeaf t e = e) : shortenLeaf t (renameLeaf names e) = renameLeaf names e := by
  unfold renameLeaf
  split
  · split
    · rfl
    · exact h
  · exact h

theorem pipeline_short : ∀ x ∈ ((Pipeline.forDialect .bigquery).apply q).nodes pathsInScope [], Short x := by
  have first := removeCatalogPrefix_short q
  have second := (pushedAliases_leaves pathsInScope_seesSources (keepsScopes_paths pushedAliases_keepsPaths)
    fun paths e => shortenLeaf paths e = e).allNodes_query (removeColumnAliases_yields _) [] first
  have third := (renamedElements_leaves pathsInScope_seesSources
    (keepsScopes_paths renamedElements_keepsPaths) (fun names => keepsScopes_paths (renamed_keepsPaths names))
    renameLeaf_short).allNodes_query (renameUnnested_yields _) [] second
  obtain ⟨k, run⟩ := decorrelate_yields (prepared q)
  exact decorrelated_short.allNodes_query run [] third

theorem pipeline_pushed : ∀ x ∈ ((Pipeline.forDialect .bigquery).apply q).nodes .unscoped (), Pushed x := by
  have second := removeColumnAliases_pushed (removeCatalogPrefix q)
  have third := renamedElements_pushed.allNodes_query (renameUnnested_yields _) () second
  obtain ⟨k, run⟩ := decorrelate_yields (prepared q)
  exact decorrelated_pushed.allNodes_query run () third

theorem pipeline_renamed : ∀ x ∈ ((Pipeline.forDialect .bigquery).apply q).nodes .unscoped (), Renamed x := by
  obtain ⟨k, run⟩ := decorrelate_yields (prepared q)
  exact decorrelated_renamed.allNodes_query run ()
    (renameUnnested_renamed (removeColumnAliases (removeCatalogPrefix q)))

theorem pipeline_twice : (Pipeline.forDialect .bigquery).apply ((Pipeline.forDialect .bigquery).apply q) =
    decorrelate ((Pipeline.forDialect .bigquery).apply q) := by
  have short := removeCatalogPrefix_eq_self (pipeline_short q)
  have pushed := removeColumnAliases_eq_self (pipeline_pushed q)
  have renamed := renameUnnested_eq_self (pipeline_renamed q)
  rw [pipeline_eq ((Pipeline.forDialect .bigquery).apply q), prepared, short, pushed, renamed]

variable {q}

theorem plain_shortenLeaf {p : String → Prop} {e : Expr} (paths : List (List String))
    (h : MentionsOnly p (.leaf () e)) : MentionsOnly p (.leaf () (shortenLeaf paths e)) := by
  cases e with
  | column qualifier name =>
    intro part hp
    unfold shorten at hp
    split at hp
    · exact h part (List.mem_of_mem_drop hp)
    · exact h part hp
  | _ => trivial

theorem plain_renameLeaf {p : String → Prop} (names : List ElementName) (t : Unit) (e : Expr)
    (h : MentionsOnly p (.leaf t e)) : MentionsOnly p (.leaf t (renameLeaf names e)) := by
  unfold renameLeaf
  split
  · split
    · exact fun part hp => by cases hp
    · exact h
  · exact h

theorem prepared_plain (hq : Plain q) : Plain (prepared q) := by
  have first := (shortQualifiers_preserves (F := MentionsOnly (¬ isGenerated ·)) plain_shortenLeaf
    (fun _ _ => trivial) (fun _ _ => trivial) (fun _ _ => trivial)).allNodes_query
    (removeCatalogPrefix_yields q) () hq
  have second := (pushedAliases_leaves unscoped_seesSources (Rewrite.keepsScopes_unscoped _) _).allNodes_query
    (removeColumnAliases_yields _) () first
  exact (renamedElements_leaves unscoped_seesSources (Rewrite.keepsScopes_unscoped _)
    (fun _ => Rewrite.keepsScopes_unscoped _) plain_renameLeaf).allNodes_query
    (renameUnnested_yields _) () second

theorem prepared_starFree (free : ∀ s ∈ selectsOf q, StarFree s) :
    ∀ s ∈ selectsOf (prepared q), StarFree s := by
  have start : ∀ x ∈ q.nodes .unscoped (), StarFreeNode x := by
    intro x hx
    cases x with
    | select env s => exact free s (mem_selectsOf.2 hx)
    | _ => trivial
  have first := shortQualifiers_starFree.allNodes_query (removeCatalogPrefix_yields q) () start
  have second := pushedAliases_starFree.allNodes_query (removeColumnAliases_yields _) () first
  have third := renamedElements_starFree.allNodes_query (renameUnnested_yields _) () second
  exact fun s hs => third _ (mem_selectsOf.1 hs)

/-- Decorrelation and the pipeline are idempotent on exactly those queries in whose SELECTs of keys no condition
can give way to a join afterwards; those whose EXISTS project no bare star are among them. -/
theorem repetition_iff (hq : Plain q) :
    (decorrelate (decorrelate q) = decorrelate q ↔
      ∀ s ∈ selectsOf (decorrelate q), IsKeySelect s → NothingToReplace s) ∧
    ((Pipeline.forDialect .bigquery).apply ((Pipeline.forDialect .bigquery).apply q) =
        (Pipeline.forDialect .bigquery).apply q ↔
      ∀ s ∈ selectsOf ((Pipeline.forDialect .bigquery).apply q), IsKeySelect s → NothingToReplace s) ∧
    ((∀ s ∈ selectsOf q, StarFree s) →
      decorrelate (decorrelate q) = decorrelate q ∧
      (Pipeline.forDialect .bigquery).apply ((Pipeline.forDialect .bigquery).apply q) =
        (Pipeline.forDialect .bigquery).apply q) := by
  simp only [← hasSemiJoin_eq_false_iff]
  have once := decorrelate_twice hq
  have piped : (Pipeline.forDialect .bigquery).apply ((Pipeline.forDialect .bigquery).apply q) =
        (Pipeline.forDialect .bigquery).apply q ↔
      ∀ s ∈ selectsOf ((Pipeline.forDialect .bigquery).apply q), IsKeySelect s → hasSemiJoin s = false := by
    rw [pipeline_twice, pipeline_eq]
    exact decorrelate_twice (prepared_plain hq)
  refine ⟨once, piped, fun free => ⟨once.2 fun s hs _ => decorrelate_settles hq free s hs, ?_⟩⟩
  refine piped.2 fun s hs _ => ?_
  exact decorrelate_settles (prepared_plain hq) (prepared_starFree free) s hs

end

/-- An EXISTS with an EXISTS among its conditions; `projected` is what the outer subquery projects. -/
def nestedExists (projected : Expr) : Query :=
  let innermost : Query := .ofSelect { Select.empty with
    projection := [⟨.int 1, none⟩], sources := [⟨.named "c", []⟩]
    selection := some (.equals (.qualified "c" "j") (.qualified "b" "j")) }
  let subquery : Query := .ofSelect { Select.empty with
    projection := [⟨projected, none⟩], sources := [⟨.named "b", []⟩]
    selection := some ((Expr.equals (.qualified "b" "k") (.qualified "a" "k")).and
      (.exists innermost false)) }
  .ofSelect { Select.empty with
    projection := [⟨.qualified "a" "x", none⟩], sources := [⟨.named "a", []⟩]
    selection := some (.exists subquery false) }

/-- Both EXISTS are converted in the first run if the subquery projects no star. -/
theorem repetition_without_star :
    Plain (nestedExists (.int 1)) ∧
      (Pipeline.forDialect .bigquery).apply ((Pipeline.forDialect .bigquery).apply (nestedExists (.int 1))) =
        (Pipeline.forDialect .bigquery).apply (nestedExists (.int 1)) := by
  have plain : Plain (nestedExists (.int 1)) := by decide +kernel
  have settled : ∀ s ∈ selectsOf ((Pipeline.forDialect .bigquery).apply (nestedExists (.int 1))),
      hasSemiJoin s = false := by decide +kernel
  exact ⟨plain, (repetition_iff plain).2.1.2 fun s hs _ => hasSemiJoin_eq_false_iff.1 (settled s hs)⟩

/-- Under a bare star the inner EXISTS waits for the second run. -/
theorem repetition_under_star :
    Plain (nestedExists (.star [])) ∧
      decorrelate (decorrelate (nestedExists (.star []))) ≠ decorrelate (nestedExists (.star [])) ∧
      (Pipeline.forDialect .bigquery).apply ((Pipeline.forDialect .bigquery).apply (nestedExists (.star [])))
        ≠ (Pipeline.forDialect .bigquery).apply (nestedExists (.star [])) := by
  refine ⟨by decide +kernel, ?_, ?_⟩
  · rw [Ne, decorrelate_eq_self]
    decide +kernel
  · rw [pipeline_twice, Ne, decorrelate_eq_self]
    decide +kernel

end QueryBridge.Passes
