import QueryBridge.Proofs.Passes.KeyRows

set_option autoImplicit false

namespace QueryBridge.Passes

open Meaning

variable {α : Type} {n m : Nat}

theorem not_namedBelow {i : Nat} (h : n ≤ i) : ¬ NamedBelow n (existsName i) := by
  intro below
  obtain ⟨j, hj, same⟩ := below (isGenerated_existsName i)
  have := existsName_inj same
  omega

/-- The row `l'` has more relations than `l`, all of them joins from `n` up to `m`. -/
def Extends (n m : Nat) (l l' : FromRow α) : Prop := ∃ extra : Scope α, l'.bindings = l.bindings ++ extra ∧
  ∀ name ∈ extra.names, ∃ i, n ≤ i ∧ i < m ∧ name = existsName i

namespace Extends

variable {l l' : FromRow α} {c : Context α}

theorem refl (l : FromRow α) : Extends n n l l := ⟨[], by simp, by simp [Scope.names]⟩

theorem agree (h : Extends n m l l') :
    (c.within l'.bindings).AgreeOn (NamedBelow n) (c.within l.bindings) := by
  obtain ⟨extra, same, new⟩ := h
  rw [same]
  refine agreeOn_beyond (fun name hn => ?_) l.bindings
  obtain ⟨i, low, -, rfl⟩ := new name hn
  exact not_namedBelow low

theorem append (h : Extends n m l l') (hnm : n ≤ m) (r : Record α) :
    Extends n (m + 1) l (l'.append (.ofRecord (some (existsName m)) r)) := by
  obtain ⟨extra, same, new⟩ := h
  refine ⟨extra ++ [(existsName m, r)], ?_, fun name hn => ?_⟩
  · simp [FromRow.append, FromRow.ofRecord, same]
  · rw [Scope.names, List.map_append, List.mem_append] at hn
    rcases hn with hn | hn
    · obtain ⟨i, low, high, rfl⟩ := new name hn
      exact ⟨i, low, by omega, rfl⟩
    · exact ⟨m, hnm, by omega, by simpa using hn⟩

theorem fresh (h : Extends n m l l') (own : ∀ name ∈ l.bindings.names, ¬ isGenerated name) :
    existsName m ∉ l'.bindings.names := by
  obtain ⟨extra, same, new⟩ := h
  rw [same, Scope.names, List.map_append, List.mem_append]
  rintro (hn | hn)
  · exact own _ hn (isGenerated_existsName m)
  · obtain ⟨i, -, high, named⟩ := new _ hn
    have := existsName_inj named
    omega

end Extends

variable [DecidableEq α] {I : Interpretation α} {c : Context α}

theorem evalExpr_qualified {label column : String} {l : Scope α} (fresh : label ∉ l.names) (r : Record α) :
    evalExpr I (.qualified label column) (c.within (l ++ [(label, r)])) = r.cell column := by
  have owner : Scope.owner? (l ++ ((label, r) :: c.scope)) [label] = some (label, r) := by
    rw [Scope.owner?_append fun part hp => by rwa [List.mem_singleton.1 hp]]
    simp [Scope.owner?]
  simp only [Expr.qualified, evalExpr, Interpretation.column, Context.within, List.append_assoc,
    List.singleton_append, owner]
  simp [columnPath]

theorem holds_keyConditions {label : String} {keys : List Key} {condition : Expr} {l : Scope α}
    (fresh : label ∉ l.names) (hc : Expr.conjunction? (keyConditions label keys) = some condition)
    {values : List (Value α)} (len : values.length = keys.length) :
    I.holds (some (evalExpr I condition (c.within (l ++ [(label, keyRecord values)])))) = true ↔
      (keys.map fun key => evalExpr I key.outer (c.within (l ++ [(label, keyRecord values)]))) = values ∧
        ∀ v ∈ values, v ≠ .null := by
  set inner := c.within (l ++ [(label, keyRecord values)])
  have all := holds_conjunction (I := I) (c := inner) (keyConditions label keys)
  rw [hc, evalOption] at all
  rw [all]
  have each (i : Nat) (hi : i < keys.length) :
      IsTrue I (keys[i].outer.equals (.qualified label (corrName i))) inner ↔
        evalExpr I keys[i].outer inner = values[i] ∧ values[i] ≠ .null := by
    rw [Expr.equals, isTrue_equals, evalExpr_qualified fresh, cell_keyRecord,
      List.getElem?_eq_getElem (len ▸ hi), Option.getD_some]
    exact and_congr_right fun same => by rw [same]
  constructor
  · intro h
    have cells (i : Nat) (hi : i < keys.length) :=
      (each i hi).1 (h _ (List.mem_mapIdx.2 ⟨i, hi, rfl⟩))
    refine ⟨List.ext_getElem (by simpa using len.symm) fun i hi _ => ?_, fun v hv => ?_⟩
    · rw [List.getElem_map]
      exact (cells i (by simpa using hi)).1
    · obtain ⟨i, hi, rfl⟩ := List.getElem_of_mem hv
      exact (cells i (len ▸ hi)).2
  · rintro ⟨same, nonnull⟩ e he
    obtain ⟨i, hi, rfl⟩ := List.mem_mapIdx.1 he
    refine (each i hi).2 ⟨?_, nonnull _ (List.getElem_mem _)⟩
    simp only [← same, List.getElem_map]

variable {outer : List String} {s : Select} {l l' : FromRow α}

/-- Each row finds the one record of its keys if its EXISTS is TRUE, and nothing otherwise. -/
theorem Separable.matches (sep : Separable I.isAggregate outer n s) (recursive : Bool)
    (own : ∀ name ∈ outer, ¬ isGenerated name) (hnm : n ≤ m) {condition : Expr}
    (hc : Expr.conjunction? (keyConditions (existsName m) (keysOf outer s)) = some condition)
    (hl : l.bindings.names = outer) (ext : Extends n m l l') :
    ((evalQuery I (keyTable outer s) c).rows.filter fun x =>
        I.holds (some (evalExpr I condition (c.within (l'.bindings ++ [(existsName m, x)]))))) =
      if IsTrue I (.exists (alone recursive s) false) (c.within l.bindings) then
        {keyRecord (outerValues I outer s (c.within l.bindings))} else 0 := by
  -- Outer keys see neither the joins made so far nor the record that is compared.
  have outside (x : Record α) :
      outerValues I outer s (c.within (l'.bindings ++ [(existsName m, x)])) =
        outerValues I outer s (c.within l.bindings) := by
    have longer := (ext.append hnm x).agree (c := c)
    refine sep.outerValues_agree ⟨rfl, fun qualifier hq => ?_, .none⟩
    exact longer.scope qualifier fun part hp => (hq part hp).1
  have condition_iff : ∀ x ∈ (evalQuery I (keyTable outer s) c).rows,
      (I.holds (some (evalExpr I condition (c.within (l'.bindings ++ [(existsName m, x)])))) = true ↔
        x = keyRecord (outerValues I outer s (c.within l.bindings)) ∧
          ∀ v ∈ outerValues I outer s (c.within l.bindings), v ≠ .null) := by
    intro x hx
    obtain ⟨r, -, -, rfl⟩ := sep.mem_keyTable.1 hx
    rw [holds_keyConditions (ext.fresh (hl ▸ own)) hc (by simp [innerValues])]
    change outerValues I outer s _ = _ ∧ _ ↔ _
    rw [outside]
    constructor
    · rintro ⟨same, nonnull⟩
      exact ⟨by rw [same], same ▸ nonnull⟩
    · rintro ⟨same, nonnull⟩
      rw [keyRecord_inj same]
      exact ⟨rfl, nonnull⟩
  rw [Multiset.filter_congr condition_iff]
  simp only [sep.isTrue_exists_iff hl recursive]
  by_cases nonnull : ∀ v ∈ outerValues I outer s (c.within l.bindings), v ≠ .null
  · simp only [eq_true nonnull, and_true]
    rw [Multiset.filter_eq']
    -- The table of keys has no record twice.
    by_cases found : keyRecord (outerValues I outer s (c.within l.bindings)) ∈
        (evalQuery I (keyTable outer s) c).rows
    · rw [if_pos found, Multiset.count_eq_one_of_mem sep.nodup_keyTable found, Multiset.replicate_one]
    · rw [if_neg found, Multiset.count_eq_zero_of_notMem found, Multiset.replicate_zero]
  · simp only [eq_false nonnull, and_false, if_false, Multiset.filter_false]

/-- The rows of `source'` are the rows of `source` that are kept, with more relations. -/
structure Grown (n m : Nat) (keep : FromRow α → Bool) (source source' : Source α) : Prop where
  blank : Extends n m source.blank source'.blank
  rows : ∃ extend : FromRow α → FromRow α, (∀ l, Extends n m l (extend l)) ∧
    source'.rows = (source.rows.filter fun l => keep l = true).map extend

theorem bind_ite {β γ : Type} (p : β → Prop) [DecidablePred p] (f : β → γ) (s : Multiset β) :
    (s.bind fun a => if p a then {f a} else 0) = (s.filter p).map f := by
  induction s using Multiset.induction with
  | empty => rfl
  | cons a s ih =>
    rw [Multiset.cons_bind, ih]
    by_cases h : p a
    · rw [if_pos h, Multiset.filter_cons_of_pos _ h, Multiset.map_cons, Multiset.singleton_add]
    · rw [if_neg h, Multiset.filter_cons_of_neg _ h, zero_add]

omit [DecidableEq α] in
theorem aliasTable_named (name : String) (t : Table α) : aliasTable (some ⟨name, []⟩) t = t := by
  have same (r : Record α) : Record.rename [] r = r := by cases r <;> rfl
  simp [aliasTable, same]

section

variable {source source' : Source α} {keep : FromRow α → Bool}

theorem Grown.join (g : Grown n m keep source source') (named : source.Named outer)
    (own : ∀ name ∈ outer, ¬ isGenerated name) (hnm : n ≤ m)
    (sep : Separable I.isAggregate outer n s) (recursive : Bool) {condition : Expr}
    (hc : Expr.conjunction? (keyConditions (existsName m) (keysOf outer s)) = some condition) :
    Grown n (m + 1)
      (fun l => keep l && decide (IsTrue I (.exists (alone recursive s) false) (c.within l.bindings)))
      source
      (evalJoin I ⟨.inner, .derived (keyTable outer s) (some ⟨existsName m, []⟩), .on condition⟩ c []
        source') := by
  obtain ⟨extend, extends', rows⟩ := g.rows
  refine ⟨g.blank.append hnm _, fun l => (extend l).append
    (.ofRecord (some (existsName m)) (keyRecord (outerValues I outer s (c.within l.bindings)))),
    fun l => (extends' l).append hnm _, ?_⟩
  simp only [evalJoin, Source.join, Source.matching, evalRelation, Option.map_some, aliasTable_named, mergeOf,
    Source.ofTable, rows, Multiset.bind_map, Multiset.filter_map, Multiset.map_map, add_zero]
  -- With one match at most the join filters the rows and does not multiply them.
  have single : ∀ l ∈ source.rows.filter fun l => keep l = true,
      (((evalQuery I (keyTable outer s) c).rows.filter
          ((fun r => evalConstraint I (.on condition) c (extend l) r = true) ∘
            FromRow.ofRecord (some (existsName m)))).map
        ((extend l).append ∘ FromRow.ofRecord (some (existsName m)))) =
      if IsTrue I (.exists (alone recursive s) false) (c.within l.bindings) then
        {(extend l).append (.ofRecord (some (existsName m))
          (keyRecord (outerValues I outer s (c.within l.bindings))))} else 0 := by
    intro l hl
    have found := sep.matches (c := c) recursive own hnm hc
      (named.rows l (Multiset.mem_of_mem_filter hl)) (extends' l)
    change ((Multiset.filter (fun x => I.holds (some (evalExpr I condition
      (c.within ((extend l).bindings ++ [(existsName m, x)])))) = true) _).map _) = _
    rw [found]
    split <;> simp
  rw [Multiset.bind_congr single, bind_ite, Multiset.filter_filter]
  congr 1
  refine Multiset.filter_congr fun l _ => ?_
  rw [Bool.and_eq_true, decide_eq_true_iff, and_comm]

/-- The joins keep a row if and only if the conjuncts that they stand for do. -/
theorem Converted.grown {k : Nat} {es kept : List Expr} {joins : List Join}
    (conv : Converted outer m es joins kept k) (named : source.Named outer)
    (own : ∀ name ∈ outer, ¬ isGenerated name)
    (sep : ∀ q s, .exists q false ∈ es → isSemiJoin outer (.exists q false) → plainSelect? q = some s →
      hasUnboundQualifier (keyTable outer s) = false → Separable I.isAggregate outer n s)
    (hnm : n ≤ m) (g : Grown n m keep source source') :
    ∃ keep', Grown n k keep' source (evalJoins I joins c [] source') ∧ ∀ l,
      (keep' l = true ∧ ∀ e ∈ kept, IsTrue I e (c.within l.bindings)) ↔
        (keep l = true ∧ ∀ e ∈ es, IsTrue I e (c.within l.bindings)) := by
  induction conv generalizing keep source' with
  | nil => exact ⟨keep, by simpa only [evalJoins] using g, fun l => Iff.rfl⟩
  | @join m k q join es joins kept hj rest ih =>
    have joined := isSemiJoin_of_some hj
    obtain ⟨s, condition, hs, bound, hc, rfl⟩ := semiJoin?_eq_some.1 hj
    obtain ⟨⟨recursive, rfl⟩, -⟩ := plainSelect?_eq_some hs
    have first := g.join (c := c) named own hnm (sep _ s List.mem_cons_self joined hs bound) recursive hc
    obtain ⟨keep', grown, same⟩ := ih (fun q s hq => sep q s (List.mem_cons_of_mem _ hq)) (by omega) first
    refine ⟨keep', by simpa only [evalJoins] using grown, fun l => ?_⟩
    rw [same l, Bool.and_eq_true, decide_eq_true_iff, List.forall_mem_cons, and_assoc]
  | @keep m k e es joins kept hold rest ih =>
    obtain ⟨keep', grown, same⟩ := ih (fun q s hq => sep q s (List.mem_cons_of_mem _ hq)) hnm g
    refine ⟨keep', grown, fun l => ?_⟩
    rw [List.forall_mem_cons, List.forall_mem_cons, and_left_comm, same l, and_left_comm]

end

end QueryBridge.Passes
