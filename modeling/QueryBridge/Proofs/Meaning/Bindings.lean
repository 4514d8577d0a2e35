import QueryBridge.Proofs.Meaning.Evaluation

set_option autoImplicit false

namespace QueryBridge.Meaning

variable {α : Type}

attribute [local simp] evalJoins evalJoin evalFromItem evalSources evalRelation

/-- The rows and the blank row have records for these relations. -/
structure Source.Named (names : List String) (source : Source α) : Prop where
  blank : source.blank.bindings.names = names
  rows : ∀ r ∈ source.rows, r.bindings.names = names

namespace Source.Named

theorem unit : (Source.unit : Source α).Named [] where
  blank := rfl
  rows r hr := by
    rw [Multiset.mem_singleton.1 hr]
    rfl

theorem ofTable (name? : Option String) (t : Table α) : (Source.ofTable name? t).Named name?.toList where
  blank := by cases name? <;> rfl
  rows r hr := by
    obtain ⟨x, -, rfl⟩ := Multiset.mem_map.1 hr
    cases name? <;> rfl

variable {names names' : List String} {left : Source α} {right : FromRow α → Source α}
  {on : FromRow α → FromRow α → Bool} {merge : FromRow α → FromRow α → FromRow α}

theorem join (type : JoinType) (hl : left.Named names) (hr : ∀ l, (right l).Named names')
    (hm : ∀ l r, (merge l r).bindings = l.bindings ++ r.bindings) :
    (left.join type right on merge).Named (names ++ names') := by
  have merged {l r : FromRow α} (h : l.bindings.names = names) (h' : r.bindings.names = names') :
      (merge l r).bindings.names = names ++ names' := by
    rw [hm, Scope.names, List.map_append]
    exact congrArg₂ _ h h'
  have matched : ∀ r ∈ left.matching right on merge, r.bindings.names = names ++ names' := by
    intro r hr'
    obtain ⟨l, hl', pairs⟩ := Multiset.mem_bind.1 hr'
    obtain ⟨r, partner, rfl⟩ := Multiset.mem_map.1 pairs
    exact merged (hl.rows l hl') ((hr l).rows r (Multiset.mem_of_mem_filter partner))
  have leftOver : ∀ r ∈ left.leftOver right on merge, r.bindings.names = names ++ names' := by
    intro r hr'
    obtain ⟨l, single, rfl⟩ := Multiset.mem_map.1 hr'
    exact merged (hl.rows l (Multiset.mem_of_mem_filter single)) (hr l).blank
  have rightOver : ∀ r ∈ left.rightOver right on merge, r.bindings.names = names ++ names' := by
    intro r hr'
    obtain ⟨r, single, rfl⟩ := Multiset.mem_map.1 hr'
    exact merged hl.blank ((hr _).rows r (Multiset.mem_of_mem_filter single))
  refine ⟨merged hl.blank (hr _).blank, fun r hr' => ?_⟩
  rcases Multiset.mem_add.1 hr' with h | h
  · exact matched r h
  · cases type with
    | inner | cross => cases Multiset.notMem_zero r h
    | left => exact leftOver r h
    | right => exact rightOver r h
    | full => exact (Multiset.mem_add.1 h).elim (leftOver r) (rightOver r)

end Source.Named

theorem mergeOf_bindings (constraint : JoinConstraint) (l r : FromRow α) :
    (mergeOf constraint l r).bindings = l.bindings ++ r.bindings := by
  cases constraint <;> rfl

variable [DecidableEq α] (I : Interpretation α) (c : Context α)

theorem evalRelation_named (r : Relation) (left : Scope α) :
    (evalRelation I r c left).Named r.referenceName?.toList := by
  cases r with
  | table path label => exact .ofTable _ _
  | derived q label => cases label <;> exact .ofTable _ _
  | unnest es label => cases label <;> exact .ofTable _ _

theorem evalJoins_named (js : List Join) (left : Scope α) {names : List String} {source : Source α}
    (h : source.Named names) :
    (evalJoins I js c left source).Named (names ++ js.filterMap (·.relation.referenceName?)) := by
  induction js generalizing names source with
  | nil => simpa using h
  | cons j js ih =>
    obtain ⟨type, relation, constraint⟩ := j
    have first : (source.join type (fun l => evalRelation I relation c (l.bindings ++ left))
        (evalConstraint I constraint c) (mergeOf constraint)).Named _ :=
      h.join type (fun l => evalRelation_named I c relation (l.bindings ++ left)) (mergeOf_bindings constraint)
    have rest := ih first
    rw [evalJoins, evalJoin]
    cases named : relation.referenceName? with
    | none => simpa [named] using rest
    | some name => simpa [named] using rest

theorem evalFromItem_named (f : FromItem) (left : Scope α) :
    (evalFromItem I f c left).Named (f.relations.filterMap (·.referenceName?)) := by
  obtain ⟨relation, joins⟩ := f
  have all := evalJoins_named I c joins left (evalRelation_named I c relation left)
  rw [evalFromItem]
  cases named : relation.referenceName? with
  | none => simpa [named, FromItem.relations, List.filterMap_map, Function.comp_def] using all
  | some name => simpa [named, FromItem.relations, List.filterMap_map, Function.comp_def] using all

theorem evalSources_named (fs : List FromItem) {names : List String} {source : Source α}
    (h : source.Named names) : (evalSources I fs c source).Named (names ++ relationNames fs) := by
  induction fs generalizing names source with
  | nil => simpa [relationNames] using h
  | cons f fs ih =>
    have first : (source.join .cross (fun l => evalFromItem I f c l.bindings) (fun _ _ => true)
        .append).Named _ :=
      h.join .cross (fun l => evalFromItem_named I c f l.bindings) (fun _ _ => rfl)
    simpa [relationNames] using ih first

theorem evalSources_single (f : FromItem) : evalSources I [f] c .unit = evalFromItem I f c [] := by
  simp only [evalSources, Source.join, Source.matching, Source.unit, Multiset.singleton_bind,
    Multiset.filter_true, add_zero]
  have row (l : FromRow α) : FromRow.empty.append l = l := rfl
  simp only [row]
  simp [FromRow.empty]

theorem evalJoins_append (js js' : List Join) (left : Scope α) (source : Source α) :
    evalJoins I (js ++ js') c left source = evalJoins I js' c left (evalJoins I js c left source) := by
  induction js generalizing source with
  | nil => simp only [List.nil_append, evalJoins]
  | cons j js ih => simp only [List.cons_append, evalJoins, ih]

end QueryBridge.Meaning
