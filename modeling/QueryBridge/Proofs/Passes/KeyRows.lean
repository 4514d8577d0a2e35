import QueryBridge.Proofs.Meaning.Bindings
import QueryBridge.Proofs.Meaning.Coincidence
import QueryBridge.Proofs.Meaning.PlainRows
import QueryBridge.Proofs.Passes.Decorrelation

set_option autoImplicit false

namespace QueryBridge.Passes

open Meaning

variable {α : Type}

def keyRecord (values : List (Value α)) : Record α := values.mapIdx fun i v => (corrName i, v)

theorem lookup_mapIdx {g : Nat → String} (inj : ∀ i j, g i = g j → i = j) (values : List (Value α))
    (i : Nat) : (values.mapIdx fun j v => (g j, v)).lookup (g i) = values[i]? := by
  induction values generalizing g i with
  | nil => rfl
  | cons v values ih =>
    rw [List.mapIdx_cons, List.lookup_cons]
    cases i with
    | zero => simp
    | succ i =>
      have other : (g (i + 1) == g 0) = false := by
        rw [beq_eq_false_iff_ne]
        exact fun same => absurd (inj _ _ same) (by omega)
      rw [other]
      exact ih (g := fun j => g (j + 1)) (fun i j h => by have := inj _ _ h; omega) i

theorem cell_keyRecord (values : List (Value α)) (i : Nat) :
    (keyRecord values).cell (corrName i) = values[i]?.getD .null := by
  rw [keyRecord, Record.cell, lookup_mapIdx fun _ _ => corrName_inj]

theorem keyRecord_inj {values values' : List (Value α)} (h : keyRecord values = keyRecord values') :
    values = values' := by
  have seconds (vs : List (Value α)) : (keyRecord vs).map (·.2) = vs := by
    refine List.ext_getElem? fun i => ?_
    simp [keyRecord, List.getElem?_mapIdx, Function.comp_def]
  rw [← seconds values, h, seconds]

variable [DecidableEq α] {I : Interpretation α} {c : Context α}

theorem evalItems_keyItems (keys : List Key) (wild : Record α) :
    evalItems I (keyItems keys) c wild = keyRecord (keys.map fun key => evalExpr I key.inner c) := by
  have numbered (g : Nat → String) :
      evalItems I (keys.mapIdx fun i key => key.inner.aliased (g i)) c wild =
        (keys.map fun key => evalExpr I key.inner c).mapIdx fun i v => (g i, v) := by
    induction keys generalizing g with
    | nil => rfl
    | cons key keys ih =>
      rw [List.mapIdx_cons, evalItems, ih fun i => g (i + 1), Expr.aliased, evalItem, List.map_cons,
        List.mapIdx_cons, List.singleton_append]
  exact numbered corrName

variable {outer : List String} {s : Select}

def innerValues (I : Interpretation α) (outer : List String) (s : Select) (c : Context α) :
    List (Value α) := (keysOf outer s).map fun key => evalExpr I key.inner c

def outerValues (I : Interpretation α) (outer : List String) (s : Select) (c : Context α) :
    List (Value α) := (keysOf outer s).map fun key => evalExpr I key.outer c

theorem isTrue_key {sides : Sides} {e : Expr} {key : Key} (h : sides.key? e = some key) :
    IsTrue I e c ↔ evalExpr I key.inner c = evalExpr I key.outer c ∧ evalExpr I key.outer c ≠ .null := by
  rcases (key?_eq_some h).1 with rfl | rfl
  · rw [isTrue_equals]
    exact and_congr_right fun same => by rw [same]
  · rw [isTrue_equals]
    exact and_congr_left' eq_comm

theorem whereConjuncts_true (outer : List String) : (∀ e ∈ whereConjuncts s, IsTrue I e c) ↔
    (∀ e ∈ othersOf outer s, IsTrue I e c) ∧
      innerValues I outer s c = outerValues I outer s c ∧ ∀ v ∈ outerValues I outer s c, v ≠ .null := by
  have keys : (innerValues I outer s c = outerValues I outer s c ∧ ∀ v ∈ outerValues I outer s c, v ≠ .null) ↔
      ∀ key ∈ keysOf outer s,
        evalExpr I key.inner c = evalExpr I key.outer c ∧ evalExpr I key.outer c ≠ .null := by
    rw [innerValues, outerValues, List.map_inj_left, List.forall_mem_map]
    exact ⟨fun h key hk => ⟨h.1 key hk, h.2 key hk⟩,
      fun h => ⟨fun key hk => (h key hk).1, fun key hk => (h key hk).2⟩⟩
  rw [keys]
  constructor
  · intro h
    refine ⟨fun e he => h e (List.mem_of_mem_filter he), fun key hk => ?_⟩
    obtain ⟨e, he, hkey⟩ := List.mem_filterMap.1 hk
    exact (isTrue_key hkey).1 (h e he)
  · rintro ⟨others, keys⟩ e he
    cases hkey : (Sides.mk outer (relationNames s.sources)).key? e with
    | none => exact others e (List.mem_filter.2 ⟨he, by simp [hkey]⟩)
    | some key => exact (isTrue_key hkey).2 (keys key (List.mem_filterMap.2 ⟨e, he, hkey⟩))

/-- What taking an EXISTS out of a WHERE clause relies on: keys that are no aggregates, conditions that do
not mention the surrounding relations, and keys that do not mention those of the subquery. -/
structure Separable (isAggregate : String → Bool) (outer : List String) (n : Nat) (s : Select) : Prop where
  ungrouped : isGrouped isAggregate s = false
  keys : ∀ key ∈ keysOf outer s, hasAggregate isAggregate key.inner = false
  closed : ∃ t, AllRefer (· ∉ outer) ((keySelect outer s).parts namesInScope t)
  outerKeys : ∀ key ∈ keysOf outer s, ∃ t,
    AllRefer (fun name => NamedBelow n name ∧ name ∉ relationNames s.sources)
      (key.outer.nodes namesInScope t)

namespace Separable

variable {n : Nat} {l : Scope α} (sep : Separable I.isAggregate outer n s)

include sep

omit [DecidableEq α] in
theorem keySelect_ungrouped : isGrouped I.isAggregate (keySelect outer s) = false := by
  have none : (keyItems (keysOf outer s)).any (fun item => hasAggregate I.isAggregate item.expr) = false := by
    rw [List.any_eq_false]
    intro item hi
    obtain ⟨i, h, rfl⟩ := List.mem_mapIdx.1 hi
    simpa [Expr.aliased] using sep.keys _ (List.getElem_mem h)
  simp [isGrouped, keySelect, Select.empty, none]

theorem mem_keyTable {x : Record α} : x ∈ (evalQuery I (keyTable outer s) c).rows ↔
    ∃ r ∈ (evalSources I s.sources (c.within []) .unit).rows,
      (∀ e ∈ othersOf outer s, IsTrue I e (c.within r.bindings)) ∧
        keyRecord (innerValues I outer s (c.within r.bindings)) = x := by
  have sources : (keySelect outer s).sources = s.sources := rfl
  have projection : (keySelect outer s).projection = keyItems (keysOf outer s) := rfl
  rw [keyTable_eq, mem_evalQuery_alone sep.keySelect_ungrouped]
  simp only [mem_keptRows, whereConjuncts_keySelect, sources, projection, evalItems_keyItems,
    within_within, and_assoc]
  rfl

theorem nodup_keyTable : (evalQuery I (keyTable outer s) c).rows.Nodup :=
  nodup_evalQuery_alone sep.keySelect_ungrouped rfl

theorem respects_outer : (∀ source, Respects (· ∉ outer) (evalSources I s.sources · source)) ∧
    (∀ e ∈ othersOf outer s, Respects (· ∉ outer) (evalExpr I e)) ∧
      ∀ key ∈ keysOf outer s, Respects (· ∉ outer) (evalExpr I key.inner) := by
  obtain ⟨t, closed⟩ := sep.closed
  rw [keySelect_parts, allRefer_append, allRefer_append] at closed
  obtain ⟨keys, sources, others⟩ := closed
  refine ⟨respecting_ascends.sources_hold s.sources t sources, fun e he => ?_, fun key hk => ?_⟩
  · exact respecting_ascends.expr_holds e t (others.mono (fun x hx => List.mem_flatMap.2 ⟨e, he, hx⟩) fun _ => id)
  · exact respecting_ascends.expr_holds key.inner t
      (keys.mono (fun x hx => List.mem_flatMap.2 ⟨key, hk, hx⟩) fun _ => id)

theorem outerValues_agree {c c' : Context α}
    (h : c.AgreeOn (fun name => NamedBelow n name ∧ name ∉ relationNames s.sources) c') :
    outerValues I outer s c = outerValues I outer s c' := by
  refine List.map_congr_left fun key hk => ?_
  obtain ⟨t, refer⟩ := sep.outerKeys key hk
  exact respecting_ascends.expr_holds key.outer t refer c c' h

theorem isTrue_exists_iff (hl : l.names = outer) (recursive : Bool) :
    IsTrue I (.exists (alone recursive s) false) (c.within l) ↔
      keyRecord (outerValues I outer s (c.within l)) ∈ (evalQuery I (keyTable outer s) c).rows ∧
        ∀ v ∈ outerValues I outer s (c.within l), v ≠ .null := by
  have hidden : ∀ name ∈ l.names, ¬ name ∉ outer := fun name hn => not_not.2 (hl ▸ hn)
  obtain ⟨sources, others, keys⟩ := sep.respects_outer
  have rows : evalSources I s.sources ((c.within l).within []) .unit =
      evalSources I s.sources (c.within []) .unit := sources _ _ _ (agreeOn_below hidden [])
  have conditions (b : Scope α) : (∀ e ∈ othersOf outer s, IsTrue I e ((c.within l).within b)) ↔
      ∀ e ∈ othersOf outer s, IsTrue I e (c.within b) := by
    refine forall₂_congr fun e he => ?_
    rw [IsTrue, IsTrue, others e he _ _ (agreeOn_below hidden b)]
  have inner (b : Scope α) : innerValues I outer s ((c.within l).within b) =
      innerValues I outer s (c.within b) :=
    List.map_congr_left fun key hk => keys key hk _ _ (agreeOn_below hidden b)
  have values {r : FromRow α} (hr : r ∈ (evalSources I s.sources (c.within []) .unit).rows) :
      outerValues I outer s ((c.within l).within r.bindings) = outerValues I outer s (c.within l) := by
    refine sep.outerValues_agree ⟨rfl, ?_, .none⟩
    have named := (evalSources_named I (c.within []) s.sources .unit).rows r hr
    exact Scope.agreeOn_skip [] (l ++ c.scope) fun name hn below => below.2 (by simpa [named] using hn)
  -- Both sides speak of the same rows now, under the same conditions and with the same values.
  simp only [isTrue_exists, mem_evalQuery_alone sep.ungrouped, mem_keptRows, rows, whereConjuncts_true outer,
    within_within, conditions, inner, sep.mem_keyTable]
  constructor
  · rintro ⟨x, r, ⟨hr, others', same, nonnull⟩, -⟩
    rw [values hr] at same nonnull
    exact ⟨⟨r, hr, others', by rw [same]⟩, nonnull⟩
  · rintro ⟨⟨r, hr, others', same⟩, nonnull⟩
    refine ⟨_, r, ⟨hr, others', ?_, ?_⟩, rfl⟩
    · rw [values hr, keyRecord_inj same]
    · rwa [values hr]

end Separable

end QueryBridge.Passes
