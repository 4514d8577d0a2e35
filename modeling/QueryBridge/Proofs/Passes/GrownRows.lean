import QueryBridge.Proofs.Passes.SemiJoinRows

set_option autoImplicit false

namespace QueryBridge.Passes

open Meaning

variable {α : Type} [DecidableEq α] {I : Interpretation α} {c : Context α} {n m : Nat}

/-- The clauses but WHERE do not refer to joins from `n` on, nor to all columns at once. -/
structure Unaware (n : Nat) (k : Clauses α) : Prop where
  items : ∀ wild wild' c c', c.AgreeOn (NamedBelow n) c' → k.items c wild = k.items c' wild'
  key : Respects (NamedBelow n) k.key
  having : Respects (NamedBelow n) k.having
  order : Respects (NamedBelow n) k.order

section

variable {shape shape' : Scope α} {extend : FromRow α → FromRow α}

omit [DecidableEq α] in
theorem blend_extended (extends' : ∀ l, Extends n m l (extend l))
    (own : ∀ name ∈ shape.names, ¬ isGenerated name) (rows : Multiset (FromRow α)) :
    I.blend shape ((rows.map extend).map (·.bindings)) = I.blend shape (rows.map (·.bindings)) := by
  unfold Interpretation.blend
  refine List.map_congr_left fun b hb => ?_
  have looked (l : FromRow α) : (extend l).bindings.lookup b.1 = l.bindings.lookup b.1 := by
    obtain ⟨extra, same, new⟩ := extends' l
    have absent : List.lookup b.1 extra = none := by
      rw [List.lookup_eq_none_iff]
      intro x hx
      rw [bne_iff_ne]
      intro equal
      obtain ⟨i, -, -, named⟩ := new x.1 (List.mem_map.2 ⟨x, hx, rfl⟩)
      refine own b.1 (List.mem_map.2 ⟨b, hb, rfl⟩) ?_
      rw [equal, named]
      exact isGenerated_existsName i
    rw [same, List.lookup_append, absent, Option.or_none]
  simp only [Multiset.map_map, Function.comp_def, looked]

omit [DecidableEq α] in
theorem groupContext_agree (extends' : ∀ l, Extends n m l (extend l))
    (own : ∀ name ∈ shape.names, ¬ isGenerated name) {extra : Scope α} (grown : shape' = shape ++ extra)
    (new : ∀ name ∈ extra.names, ∃ i, n ≤ i ∧ i < m ∧ name = existsName i) (rows : Multiset (FromRow α)) :
    (I.groupContext c shape' (rows.map extend)).AgreeOn (NamedBelow n) (I.groupContext c shape rows) where
  tables := rfl
  scope := by
    have split (s : Multiset (Scope α)) : I.blend shape' s = I.blend shape s ++ I.blend extra s := by
      rw [grown]
      exact List.map_append
    simp only [Interpretation.groupContext, Context.withGroup, split, blend_extended extends' own,
      List.append_assoc]
    refine Scope.agreeOn_skip _ _ fun name hn => ?_
    obtain ⟨i, low, -, rfl⟩ := new name (by simpa [Interpretation.blend, Scope.names] using hn)
    exact not_namedBelow low
  group := by
    refine .some ?_
    rw [Multiset.map_map, Multiset.map_map, Multiset.map_map, Multiset.rel_map]
    refine Multiset.rel_refl_of_refl_on fun l _ => ?_
    exact ((extends' l).agree (c := c)).scope

theorem groups_extended {k : Clauses α} (extends' : ∀ l, Extends n m l (extend l))
    (hk : Respects (NamedBelow n) k.key) (rows : Multiset (FromRow α)) :
    k.groups c (rows.map extend) = (k.groups c rows).map (Multiset.map extend) := by
  have key (l : FromRow α) : k.key (c.within (extend l).bindings) = k.key (c.within l.bindings) :=
    hk _ _ (extends' l).agree
  unfold Clauses.groups
  cases k.whole with
  | true => simp
  | false => simp only [Multiset.map_map, Multiset.filter_map, Function.comp_def, key, Bool.false_eq_true,
      if_false]

theorem select_extended {k k' : Clauses α} (keeps : Context α → Bool) (same : k' = { k with keeps := keeps })
    (unaware : Unaware n k) {source source' : Source α} (extends' : ∀ l, Extends n m l (extend l))
    (blank : Extends n m source.blank source'.blank)
    (own : ∀ name ∈ source.blank.bindings.names, ¬ isGenerated name)
    (rows : (source'.rows.filter fun r => keeps (c.within r.bindings) = true) =
      (source.rows.filter fun r => k.keeps (c.within r.bindings) = true).map extend) :
    I.select k' c source' = I.select k c source := by
  subst same
  obtain ⟨extra, grown, new⟩ := id blank
  have items (l : FromRow α) (wild : Record α) :
      k.items (c.within (extend l).bindings) wild = k.items (c.within l.bindings) l.wild :=
    unaware.items _ _ _ _ (extends' l).agree
  have order (l : FromRow α) : k.order (c.within (extend l).bindings) = k.order (c.within l.bindings) :=
    unaware.order _ _ (extends' l).agree
  have context (g : Multiset (FromRow α)) := groupContext_agree (I := I) (c := c) extends' own grown new g
  have groupItems (g : Multiset (FromRow α)) :=
    unaware.items source'.blank.wild source.blank.wild _ _ (context g)
  have groupHaving (g : Multiset (FromRow α)) := unaware.having _ _ (context g)
  have groupOrder (g : Multiset (FromRow α)) := unaware.order _ _ (context g)
  have blankItems : k.items (c.within source'.blank.bindings) source'.blank.wild =
      k.items (c.within source.blank.bindings) source.blank.wild := unaware.items _ _ _ _ blank.agree
  have groups (rows : Multiset (FromRow α)) :
      ({ k with keeps := keeps } : Clauses α).groups c (rows.map extend) =
        (k.groups c rows).map (Multiset.map extend) := groups_extended extends' unaware.key rows
  simp only [Interpretation.select, rows, blankItems, groups, Multiset.filter_map, Multiset.map_map,
    Function.comp_def, items, order, groupItems, groupHaving, groupOrder]

end

variable {k : Nat} {a b : Select} {t : List String}

theorem evalItems_wild {is : List SelectItem} (bare : ∀ item ∈ is, item.expr ≠ .star []) (wild wild' : Record α) :
    evalItems I is c wild = evalItems I is c wild' := by
  induction is with
  | nil => rfl
  | cons item is ih =>
    obtain ⟨e, label⟩ := item
    rw [evalItems, evalItems, ih fun item hi => bare item (List.mem_cons_of_mem _ hi)]
    congr 1
    cases label with
    | some name => rfl
    | none =>
      have other : e ≠ .star [] := bare _ List.mem_cons_self
      rw [evalItem, evalItem]
      cases e with
      | star qualifier => cases qualifier <;> first | rfl | exact (other rfl).elim
      | _ => rfl

theorem hasBareStar_eq_false {s : Select} : hasBareStar s = false ↔ ∀ item ∈ s.projection, item.expr ≠ .star [] := by
  rw [hasBareStar, List.any_eq_false]
  refine forall₂_congr fun item _ => ?_
  split
  · rename_i star
    simp [star]
  · rename_i other
    simpa using other

theorem unaware_clauses (refer : AllRefer (NamedBelow n) (a.parts namesInScope t))
    (bare : hasBareStar a = false) {order : Context α → List (Value α)}
    (ordered : Respects (NamedBelow n) order) (distinct grouped whole : Bool) (keeps : Context α → Bool) :
    Unaware n
      { distinct := distinct, grouped := grouped, whole := whole
        items := fun c wild => evalItems I a.projection c wild, keeps := keeps
        key := fun c => evalExprs I a.groupBy c
        having := fun c => I.holds (evalOption I a.having c), order := order } := by
  rw [Select.parts, allRefer_append, allRefer_append, allRefer_append, allRefer_append] at refer
  obtain ⟨items, -, -, groupBy, having'⟩ := refer
  refine ⟨fun wild wild' c c' hc => ?_, respecting_ascends.exprs_hold a.groupBy t groupBy,
    fun c c' hc => ?_, ordered⟩
  · exact (evalItems_wild (hasBareStar_eq_false.1 bare) wild wild').trans
      (respecting_ascends.items_hold a.projection t items wild' c c' hc)
  · exact congrArg I.holds (respecting_ascends.option_holds a.having t having' c c' hc)

/-- A SELECT returns the same rows after its EXISTS have become joins. -/
theorem Left.evalSelect_eq (left : Left n a b k) (own : ∀ name ∈ relationNames a.sources, ¬ isGenerated name)
    (refer : AllRefer (NamedBelow n) (a.parts namesInScope t))
    (sep : ∀ q s, .exists q false ∈ whereConjuncts a →
      isSemiJoin (relationNames a.sources) (.exists q false) → plainSelect? q = some s →
      hasUnboundQualifier (keyTable (relationNames a.sources) s) = false →
      Separable I.isAggregate (relationNames a.sources) n s)
    {order : Context α → List (Value α)} (ordered : Respects (NamedBelow n) order) (c : Context α) :
    evalSelect I b c order = evalSelect I a c order := by
  cases left with
  | same => rfl
  | joined hs hw bare busy conv =>
    rename_i item condition joins kept
    have wheres : whereConjuncts a = condition.conjuncts := by simp [whereConjuncts, hw]
    have named : (evalFromItem I item c []).Named (relationNames a.sources) := by
      rw [hs]
      simpa [relationNames] using evalFromItem_named I c item []
    have start : Grown n n (fun _ => true) (evalFromItem I item c []) (evalFromItem I item c []) :=
      ⟨.refl _, id, fun l => .refl l, by simp⟩
    rw [wheres] at sep
    obtain ⟨keep, grown, kept_iff⟩ := conv.grown (I := I) (c := c) named own sep (Nat.le_refl n) start
    obtain ⟨extend, extends', rows⟩ := grown.rows
    -- The conjuncts that stay mention no join, so that a longer row makes them true just as often.
    have sameTruth : ∀ e ∈ kept, ∀ l, IsTrue I e (c.within (extend l).bindings) ↔
        IsTrue I e (c.within l.bindings) := by
      intro e he l
      have inWhere : e ∈ whereConjuncts a := wheres ▸ (conv.kept e he).1
      have refers : AllRefer (NamedBelow n) (e.nodes namesInScope t) :=
        refer.mono (fun x hx => mem_parts_of_whereConjunct inWhere hx) fun _ => id
      rw [IsTrue, IsTrue, respecting_ascends.expr_holds e t refers _ _ (extends' l).agree]
    have source : evalSources I a.sources c .unit = evalFromItem I item c [] := by
      rw [hs, evalSources_single]
    have source' : evalSources I [{ item with joins := item.joins ++ joins }] c .unit =
        evalJoins I joins c [] (evalFromItem I item c []) := by
      obtain ⟨relation, present⟩ := item
      rw [evalSources_single, evalFromItem, evalJoins_append, evalFromItem]
    -- The joins drop the rows that the removed conjuncts dropped, and WHERE the others as before.
    have same : (evalJoins I joins c [] (evalFromItem I item c [])).rows.filter (fun r =>
          I.holds (evalOption I (Expr.conjunction? kept) (c.within r.bindings)) = true) =
        ((evalFromItem I item c []).rows.filter fun r =>
          I.holds (evalOption I a.selection (c.within r.bindings)) = true).map extend := by
      rw [rows, Multiset.filter_map, Multiset.filter_filter]
      congr 1
      refine Multiset.filter_congr fun l _ => ?_
      rw [Function.comp_apply, holds_conjunction, holds_where, wheres, and_comm]
      rw [forall₂_congr fun e he => sameTruth e he l, kept_iff l]
      simp
    obtain ⟨distinct, projection, sources, selection, groupBy, having'⟩ := a
    simp only [evalSelect]
    rw [source', source]
    refine select_extended _ rfl (unaware_clauses refer bare ordered _ _ _ _) extends' grown.blank ?_ same
    rw [named.blank]
    exact own

end QueryBridge.Passes
