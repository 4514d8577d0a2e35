import Mathlib.Data.List.TakeDrop
import QueryBridge.Proofs.Passes.ElementNames
import QueryBridge.Proofs.Tree.Erasure

set_option autoImplicit false

namespace QueryBridge.Passes

def withoutQualifiers : Erasure := { column := fun _ => [], star := fun _ => [] }

/-- The qualifier of a column or of a star is cut down to its last part, if it changes at all. -/
inductive CutToLast : Expr → Expr → Prop
  | same (e : Expr) : CutToLast e e
  | column {qualifier : List String} {last : String} (name : String) (h : qualifier.getLast? = some last) :
    CutToLast (.column qualifier name) (.column [last] name)
  | star {qualifier : List String} {last : String} (h : qualifier.getLast? = some last) :
    CutToLast (.star qualifier) (.star [last])

theorem CutToLast.trans {a b c : Expr} (h : CutToLast a b) (h' : CutToLast b c) : CutToLast a c := by
  cases h with
  | same => exact h'
  | column name h =>
    cases h' with
    | same => exact .column name h
    | column _ single =>
      cases single
      exact .column name h
  | star h =>
    cases h' with
    | same => exact .star h
    | star single =>
      cases single
      exact .star h

theorem shorten_cases (paths : List (List String)) (qualifier : List String) :
    shorten paths qualifier = qualifier ∨
      ∃ last, qualifier.getLast? = some last ∧ shorten paths qualifier = [last] := by
  by_cases spelled : spellsTable paths qualifier
  · have long : 1 < qualifier.length := by
      rw [spellsTable, Bool.and_eq_true, decide_eq_true_eq] at spelled
      exact spelled.1
    have some : qualifier ≠ [] := List.ne_nil_of_length_pos (by omega)
    refine .inr ⟨qualifier.getLast some, List.getLast?_eq_some_getLast some, ?_⟩
    rw [shorten, if_pos spelled, List.drop_length_sub_one some]
  · exact .inl (if_neg spelled)

theorem shortenLeaf_cut (paths : List (List String)) (e : Expr) : CutToLast e (shortenLeaf paths e) := by
  cases e with
  | column qualifier name =>
    rcases shorten_cases paths qualifier with same | ⟨last, h, same⟩
    · rw [shortenLeaf, same]
      exact .same _
    · rw [shortenLeaf, same]
      exact .column name h
  | star qualifier =>
    rcases shorten_cases paths qualifier with same | ⟨last, h, same⟩
    · rw [shortenLeaf, same]
      exact .same _
    · rw [shortenLeaf, same]
      exact .star h
  | _ => exact .same _

theorem CutToLast.erase {a b : Expr} (h : CutToLast a b) :
    b.erase withoutQualifiers = a.erase withoutQualifiers := by
  cases h <;> rfl

theorem shortQualifiers_spares : shortQualifiers.Spares withoutQualifiers where
  leaf {paths n k e e'} hy := by
    obtain rfl : shortenLeaf paths e = e' := hy
    exact (shortenLeaf_cut paths e).erase
  relation hy := by rw [(Outcomes.yields_pure.1 hy).1]
  select hy := by rw [(Outcomes.yields_pure.1 hy).1]
  query hy := by rw [(Outcomes.yields_pure.1 hy).1]

theorem shortQualifiers_relatesLeaves : shortQualifiers.RelatesLeaves CutToLast where
  leaf {paths n k e e'} he hy := by
    obtain rfl : shortenLeaf paths e = e' := hy
    exact ⟨isLeaf_shortenLeaf paths he, shortenLeaf_cut paths e⟩
  relation hy := .of_eq .same (by rw [(Outcomes.yields_pure.1 hy).1])
  select hy := .of_eq .same (by rw [(Outcomes.yields_pure.1 hy).1])
  query hy := .of_eq .same (by rw [(Outcomes.yields_pure.1 hy).1])

def withoutColumnAliases : Erasure := { label := fun _ => none, derived := fun a => { a with columns := [] } }

theorem eraseItems_aliased {E : Erasure} (nothing : ∀ label, E.label label = none) {is : List SelectItem}
    {columns : List String} (h : is.length = columns.length) :
    eraseItems E (List.zipWith (fun item column => ⟨item.expr, some column⟩) is columns) =
      eraseItems E is := by
  induction is generalizing columns with
  | nil => rfl
  | cons item is ih =>
    cases columns with
    | nil => cases h
    | cons column columns =>
      obtain ⟨e, label⟩ := item
      rw [List.zipWith_cons_cons, eraseItems, eraseItems, ih (by simpa using h), SelectItem.erase,
        SelectItem.erase, nothing, nothing]

theorem erase_aliasItems {columns : List String} {s : Select} (h : namesColumns s columns) :
    (aliasItems columns s).erase withoutColumnAliases = s.erase withoutColumnAliases := by
  rw [namesColumns, Bool.and_eq_true, beq_iff_eq] at h
  rw [Select.erase_eq, Select.erase_eq, aliasItems, eraseItems_aliased (fun _ => rfl) h.1]

theorem erase_pushAliases (a : Relation) :
    (pushAliases a).erase withoutColumnAliases = a.erase withoutColumnAliases := by
  rcases pushAliases_cases a with same | ⟨q, name, columns, rfl, h, same⟩
  · rw [same]
  · have inside := (erase_mapLeftmost withoutColumnAliases (aliasItems columns)).2 q (erase_aliasItems h)
    rw [same, Relation.erase, Relation.erase, inside]
    rfl

theorem pushedAliases_spares : pushedAliases.Spares withoutColumnAliases where
  leaf hy := by rw [(Outcomes.yields_pure.1 hy).1]
  relation {env n k a b} hy := by
    obtain rfl : pushAliases a = b := hy
    exact erase_pushAliases a
  select hy := by rw [(Outcomes.yields_pure.1 hy).1]
  query hy := by rw [(Outcomes.yields_pure.1 hy).1]

def withoutElementAliases : Erasure := { column := fun _ => [], unnest := fun _ => ⟨"", []⟩ }

/-- The only part of a column's qualifier is dropped, if the qualifier changes at all. -/
inductive Unqualified : Expr → Expr → Prop
  | same (e : Expr) : Unqualified e e
  | column (relation name : String) : Unqualified (.column [relation] name) (.column [] name)

theorem Unqualified.trans {a b c : Expr} (h : Unqualified a b) (h' : Unqualified b c) : Unqualified a c := by
  cases h with
  | same => exact h'
  | column relation name =>
    cases h'
    exact .column relation name

theorem Unqualified.erase {a b : Expr} (h : Unqualified a b) :
    b.erase withoutElementAliases = a.erase withoutElementAliases := by
  cases h <;> rfl

theorem renameLeaf_unqualified (names : List ElementName) (e : Expr) : Unqualified e (renameLeaf names e) := by
  unfold renameLeaf
  split
  · split
    · exact .column _ _
    · exact .same _
  · exact .same _

section

variable (names : List ElementName)

theorem renamed_spares : (renamed names).Spares withoutElementAliases where
  leaf {env n k e e'} hy := by
    obtain rfl : renameLeaf names e = e' := hy
    exact (renameLeaf_unqualified names e).erase
  relation {env n k a b} hy := by
    obtain rfl : renameRelation names a = b := hy
    rcases renameRelation_cases names a with ⟨same, -⟩ | ⟨e, name, column, rfl, same⟩
    · rw [same]
    · rw [same]
      rfl
  select hy := by rw [(Outcomes.yields_pure.1 hy).1]
  query hy := by rw [(Outcomes.yields_pure.1 hy).1]

theorem renamed_relatesLeaves : (renamed names).RelatesLeaves Unqualified where
  leaf {env n k e e'} he hy := by
    have still := renamed_keepsLeaves names he hy
    obtain rfl : renameLeaf names e = e' := hy
    exact ⟨still, renameLeaf_unqualified names e⟩
  relation {env n k a b} hy := by
    obtain rfl : renameRelation names a = b := hy
    rw [Relation.nodes_eq, Relation.nodes_eq, parts_renameRelation]
    exact .of_eq .same rfl
  select hy := .of_eq .same (by rw [(Outcomes.yields_pure.1 hy).1])
  query hy := .of_eq .same (by rw [(Outcomes.yields_pure.1 hy).1])

theorem erase_renameSelect (s : Select) :
    (renameSelect names s).erase withoutElementAliases = s.erase withoutElementAliases := by
  unfold renameSelect
  split
  · rfl
  · exact (renamed_spares names).select_alike (yields_self _)

theorem erase_renameOrder (q : Query) :
    (renameOrder names q).erase withoutElementAliases = q.erase withoutElementAliases := by
  unfold renameOrder
  split
  · rfl
  · have keys := (renamed_spares names).order_alike (yields_self (rewriteOrder (renamed names) () q.orderBy))
    rw [Query.erase_eq, Query.erase_eq]
    exact congrArg (Query.mk _ _ _ · _ _) keys

theorem leafwise_renameSelect (s : Select) :
    Leafwise Unqualified (s.nodes .unscoped ()) ((renameSelect names s).nodes .unscoped ()) := by
  unfold renameSelect
  split
  · exact .of_eq .same rfl
  · exact ((renamed_relatesLeaves names).keeps .trans).ascends.pieces.select_holds s (yields_self _)

theorem leafwise_renameOrder (q : Query) :
    Leafwise Unqualified (q.nodes .unscoped ()) ((renameOrder names q).nodes .unscoped ()) := by
  unfold renameOrder
  split
  · exact .of_eq .same rfl
  · have keys := ((renamed_relatesLeaves names).keeps .trans).ascends.pieces.orders_hold q.orderBy
      (yields_self (rewriteOrder (renamed names) () q.orderBy))
    have rest (xs : List (Node Unit)) : Leafwise Unqualified xs xs := .of_eq .same rfl
    rw [Query.nodes_eq, Query.nodes_eq]
    exact (rest _).append ((rest _).append (Leafwise.append keys (rest _)))

end

theorem renamedElements_spares : renamedElements.Spares withoutElementAliases where
  leaf hy := by rw [(Outcomes.yields_pure.1 hy).1]
  relation hy := by rw [(Outcomes.yields_pure.1 hy).1]
  select {env n k a b} hy := by
    obtain rfl : renameSelect (elementNames a) a = b := hy
    exact erase_renameSelect _ a
  query {env n k before a b} hy := by
    obtain rfl : renameOrder ((before.select?.map elementNames).getD []) a = b := hy
    exact erase_renameOrder _ a

theorem renamedElements_relatesLeaves : renamedElements.RelatesLeaves Unqualified where
  leaf he hy := by
    rw [(Outcomes.yields_pure.1 hy).1]
    exact ⟨he, .same _⟩
  relation hy := .of_eq .same (by rw [(Outcomes.yields_pure.1 hy).1])
  select {env n k a b} hy := by
    obtain rfl : renameSelect (elementNames a) a = b := hy
    exact leafwise_renameSelect _ a
  query {env n k before a b} hy := by
    obtain rfl : renameOrder ((before.select?.map elementNames).getD []) a = b := hy
    exact leafwise_renameOrder _ a

/-- Short qualifiers change nothing but qualifiers of columns and stars; moved column aliases nothing but
labels of projections and the column lists of derived tables; renamed elements nothing but single-part
qualifiers of columns and aliases of unnested arrays. -/
theorem aliasPasses_frame (q : Query) :
    ((removeCatalogPrefix q).erase withoutQualifiers = q.erase withoutQualifiers ∧
      List.Forall₂ CutToLast q.leaves (removeCatalogPrefix q).leaves) ∧
    (removeColumnAliases q).erase withoutColumnAliases = q.erase withoutColumnAliases ∧
    (renameUnnested q).erase withoutElementAliases = q.erase withoutElementAliases ∧
      List.Forall₂ Unqualified q.leaves (renameUnnested q).leaves := by
  refine ⟨⟨?_, ?_⟩, ?_, ?_, ?_⟩
  · exact shortQualifiers_spares.query_alike (removeCatalogPrefix_yields q)
  · exact shortQualifiers_relatesLeaves.query_leaves .trans (removeCatalogPrefix_yields q)
  · exact pushedAliases_spares.query_alike (removeColumnAliases_yields q)
  · exact renamedElements_spares.query_alike (renameUnnested_yields q)
  · exact renamedElements_relatesLeaves.query_leaves .trans (renameUnnested_yields q)

end QueryBridge.Passes
