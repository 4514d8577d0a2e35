import QueryBridge.Proofs.Passes.PipelineRepetition

set_option autoImplicit false

namespace QueryBridge

open Passes

namespace Pass

/-- The normal form of a pass, a condition on the nodes that it changes. -/
def Settled : Pass → Query → Prop
  | catalogPrefix, q => ∀ x ∈ q.nodes pathsInScope [], Short x
  | columnAliases, q => ∀ x ∈ q.nodes .unscoped (), Pushed x
  | unnestAliases, q => ∀ x ∈ q.nodes .unscoped (), Renamed x
  | correlatedExists, q => ∀ s ∈ selectsOf q, hasSemiJoin s = false

/-- The passes that rename without moving anything. One run of each is enough. -/
def renames : Pass → Bool
  | correlatedExists => false
  | _ => true

theorem settled_apply {pass : Pass} (h : pass.renames) (q : Query) :
    pass.Settled (pass.apply q) := by
  cases pass with
  | catalogPrefix => exact removeCatalogPrefix_short q
  | columnAliases => exact removeColumnAliases_pushed q
  | unnestAliases => exact renameUnnested_renamed q
  | correlatedExists => cases h

theorem apply_of_settled {pass : Pass} {q : Query} (h : pass.Settled q) : pass.apply q = q := by
  cases pass with
  | catalogPrefix => exact removeCatalogPrefix_eq_self h
  | columnAliases => exact removeColumnAliases_eq_self h
  | unnestAliases => exact renameUnnested_eq_self h
  | correlatedExists => exact (decorrelate_eq_self q).2 h

theorem apply_twice (pass : Pass) (h : pass.renames) (q : Query) :
    pass.apply (pass.apply q) = pass.apply q :=
  apply_of_settled (settled_apply h q)

end Pass

theorem Pipeline.settled {pass : Pass} (h : pass.renames) (q : Query) :
    pass.Settled ((Pipeline.forDialect .bigquery).apply q) := by
  cases pass with
  | catalogPrefix => exact pipeline_short q
  | columnAliases => exact pipeline_pushed q
  | unnestAliases => exact pipeline_renamed q
  | correlatedExists => cases h

namespace Passes

/-- A second run of an alias pass finds nothing to do. -/
theorem aliasPasses_idempotent (q : Query) :
    removeCatalogPrefix (removeCatalogPrefix q) = removeCatalogPrefix q ∧
      removeColumnAliases (removeColumnAliases q) = removeColumnAliases q ∧
      renameUnnested (renameUnnested q) = renameUnnested q :=
  ⟨Pass.catalogPrefix.apply_twice rfl q, Pass.columnAliases.apply_twice rfl q,
    Pass.unnestAliases.apply_twice rfl q⟩

/-- Behind the whole pipeline none of the alias passes finds anything to do. -/
theorem pipeline_keepsAliases (q : Query) :
    let result := (Pipeline.forDialect .bigquery).apply q
    removeCatalogPrefix result = result ∧ removeColumnAliases result = result ∧
      renameUnnested result = result := by
  intro result
  have short : Pass.catalogPrefix.apply result = result := Pass.apply_of_settled (Pipeline.settled rfl q)
  have pushed : Pass.columnAliases.apply result = result := Pass.apply_of_settled (Pipeline.settled rfl q)
  have renamed : Pass.unnestAliases.apply result = result := Pass.apply_of_settled (Pipeline.settled rfl q)
  exact ⟨short, pushed, renamed⟩

end Passes

end QueryBridge
