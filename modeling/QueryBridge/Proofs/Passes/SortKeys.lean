import QueryBridge.Proofs.Passes.ColumnAliases
import QueryBridge.Proofs.Tree.LeftEnd

set_option autoImplicit false

/-! A bare name in ORDER BY stands for the item of the projection with that label. Moving the aliases of
a derived table changes the labels of its leftmost SELECT, and the sort keys of every query that has
this SELECT at its left end are read with the new labels. -/

namespace QueryBridge

section

variable (meaning : String → Expr)

mutual

/-- The expression with each bare name replaced by what it stands for; names in subqueries are their own. -/
def Expr.expand : Expr → Expr
  | .column [] name => meaning name
  | .binary op left right => .binary op left.expand right.expand
  | .not e => .not e.expand
  | .neg e => .neg e.expand
  | .call f args distinct => .call f (expandExprs args) distinct
  | .case operand branches otherwise =>
    .case (expandOption operand) (expandBranches branches) (expandOption otherwise)
  | .inList e values negated => .inList e.expand (expandExprs values) negated
  | .inQuery e q negated => .inQuery e.expand q negated
  | .between e low high negated => .between e.expand low.expand high.expand negated
  | .isNull e negated => .isNull e.expand negated
  | .like e pattern negated => .like e.expand pattern.expand negated
  | .cast e type => .cast e.expand type
  | .index array index => .index array.expand index.expand
  | .array items => .array (expandExprs items)
  | .paren e => .paren e.expand
  | e => e

def expandExprs : List Expr → List Expr
  | [] => []
  | e :: rest => e.expand :: expandExprs rest

def expandOption : Option Expr → Option Expr
  | none => none
  | some e => some e.expand

def expandBranches : List (Expr × Expr) → List (Expr × Expr)
  | [] => []
  | (condition, result) :: rest => (condition.expand, result.expand) :: expandBranches rest

end

end

mutual

def Expr.bareNames : Expr → List String
  | .column [] name => [name]
  | .binary _ left right => left.bareNames ++ right.bareNames
  | .not e | .neg e | .paren e | .isNull e _ | .cast e _ | .inQuery e _ _ => e.bareNames
  | .call _ args _ => bareNamesOfExprs args
  | .case operand branches otherwise =>
    bareNamesOfOption operand ++ (bareNamesOfBranches branches ++ bareNamesOfOption otherwise)
  | .inList e values _ => e.bareNames ++ bareNamesOfExprs values
  | .between e low high _ => e.bareNames ++ (low.bareNames ++ high.bareNames)
  | .like e pattern _ => e.bareNames ++ pattern.bareNames
  | .index array index => array.bareNames ++ index.bareNames
  | .array items => bareNamesOfExprs items
  | _ => []

def bareNamesOfExprs : List Expr → List String
  | [] => []
  | e :: rest => e.bareNames ++ bareNamesOfExprs rest

def bareNamesOfOption : Option Expr → List String
  | none => []
  | some e => e.bareNames

def bareNamesOfBranches : List (Expr × Expr) → List String
  | [] => []
  | (condition, result) :: rest =>
    condition.bareNames ++ (result.bareNames ++ bareNamesOfBranches rest)

end

/-- What a bare name in ORDER BY stands for: the first item with that label, or a column of the sources. -/
def Select.denotes (s : Select) (name : String) : Expr :=
  match s.projection.find? (·.label == some name) with
  | some item => item.expr
  | none => .column [] name

/-- The source expressions of the sort keys. -/
def Query.sortKeys (q : Query) : List Expr := q.orderBy.map fun o => o.expr.expand q.leftmost.denotes

mutual

/-- The queries that have the leftmost SELECT at their left end. -/
def Body.spine : Body → List Query
  | .select _ => []
  | .setOp _ _ left _ => left.spine
  | .query q => q.spine

def Query.spine : Query → List Query
  | ⟨ctes, recursive, body, orderBy, limit, offset⟩ =>
    ⟨ctes, recursive, body, orderBy, limit, offset⟩ :: body.spine

end

def Relation.sortKeys : Relation → List (List Expr)
  | .derived q _ => q.spine.map Query.sortKeys
  | _ => []

/-- The label of an item, or else the name of the column that it is. -/
def SelectItem.name? : SelectItem → Option String
  | ⟨_, some label⟩ => some label
  | ⟨.column _ name, none⟩ => some name
  | _ => none

/-- The column names that a derived table exposes: those of its alias, then those of its leftmost SELECT.
They are unknown if that SELECT has a star. -/
def Relation.columnNames : Relation → Option (List (Option String))
  | .derived q label =>
    let columns := (label.map TableAlias.columns).getD []
    if q.leftmost.projection.any (Passes.isStar ·.expr) then none
    else some (columns.map some ++ (q.leftmost.projection.map SelectItem.name?).drop columns.length)
  | _ => none

def Node.relation? {ρ : Type} : Node ρ → Option Relation
  | .relation _ a => some a
  | _ => none

def Query.relations (q : Query) : List Relation := (q.nodes .unscoped ()).filterMap Node.relation?

namespace Passes

def pushedExpr (e : Expr) : Expr := (e.rewrite (m := Id) pushedAliases ()).run

section

variable (before after : String → Expr)

def Agree (names : List String) : Prop := ∀ name ∈ names, after name = pushedExpr (before name)

variable {before after}

theorem agree_append {names others : List String} :
    Agree before after (names ++ others) ↔ Agree before after names ∧ Agree before after others :=
  List.forall_mem_append

mutual

theorem expand_pushedExpr : ∀ e : Expr,
    (pushedExpr e).expand after = pushedExpr (e.expand before) ↔ Agree before after e.bareNames
  | .column [] name => by
    rw [Expr.bareNames, Agree, List.forall_mem_singleton]
    exact Iff.rfl
  | .column (_ :: _) _ | .literal _ | .keyword _ | .star _ | .unsupported _ | .subquery _ | .exists .. =>
    iff_of_true rfl (List.forall_mem_nil _)
  | .binary op left right => by
    rw [Expr.bareNames, agree_append, ← expand_pushedExpr left, ← expand_pushedExpr right]
    exact ⟨fun h => (Expr.binary.inj h).2, fun h => congrArg₂ (Expr.binary op) h.1 h.2⟩
  | .not e => by
    rw [Expr.bareNames, ← expand_pushedExpr e]
    exact ⟨Expr.not.inj, congrArg Expr.not⟩
  | .neg e => by
    rw [Expr.bareNames, ← expand_pushedExpr e]
    exact ⟨Expr.neg.inj, congrArg Expr.neg⟩
  | .paren e => by
    rw [Expr.bareNames, ← expand_pushedExpr e]
    exact ⟨Expr.paren.inj, congrArg Expr.paren⟩
  | .isNull e negated => by
    rw [Expr.bareNames, ← expand_pushedExpr e]
    exact ⟨fun h => (Expr.isNull.inj h).1, congrArg (Expr.isNull · negated)⟩
  | .cast e type => by
    rw [Expr.bareNames, ← expand_pushedExpr e]
    exact ⟨fun h => (Expr.cast.inj h).1, congrArg (Expr.cast · type)⟩
  | .inQuery e q negated => by
    rw [Expr.bareNames, ← expand_pushedExpr e]
    exact ⟨fun h => (Expr.inQuery.inj h).1, congrArg (Expr.inQuery · _ negated)⟩
  | .call f args distinct => by
    rw [Expr.bareNames, ← expand_pushedExprs args]
    exact ⟨fun h => (Expr.call.inj h).2.1, congrArg (Expr.call f · distinct)⟩
  | .array items => by
    rw [Expr.bareNames, ← expand_pushedExprs items]
    exact ⟨Expr.array.inj, congrArg Expr.array⟩
  | .inList e values negated => by
    rw [Expr.bareNames, agree_append, ← expand_pushedExpr e, ← expand_pushedExprs values]
    exact ⟨fun h => ⟨(Expr.inList.inj h).1, (Expr.inList.inj h).2.1⟩,
      fun h => congrArg₂ (Expr.inList · · negated) h.1 h.2⟩
  | .like e pattern negated => by
    rw [Expr.bareNames, agree_append, ← expand_pushedExpr e, ← expand_pushedExpr pattern]
    exact ⟨fun h => ⟨(Expr.like.inj h).1, (Expr.like.inj h).2.1⟩,
      fun h => congrArg₂ (Expr.like · · negated) h.1 h.2⟩
  | .index array index => by
    rw [Expr.bareNames, agree_append, ← expand_pushedExpr array, ← expand_pushedExpr index]
    exact ⟨Expr.index.inj, fun h => congrArg₂ Expr.index h.1 h.2⟩
  | .between e low high negated => by
    rw [Expr.bareNames, agree_append, agree_append, ← expand_pushedExpr e, ← expand_pushedExpr low,
      ← expand_pushedExpr high]
    refine ⟨fun h => ?_, fun ⟨he, hl, hh⟩ => ?_⟩
    · obtain ⟨he, hl, hh, -⟩ := Expr.between.inj h
      exact ⟨he, hl, hh⟩
    · exact (Expr.between.injEq ..).mpr ⟨he, hl, hh, rfl⟩
  | .case operand branches otherwise => by
    rw [Expr.bareNames, agree_append, agree_append, ← expand_pushedOption operand,
      ← expand_pushedBranches branches, ← expand_pushedOption otherwise]
    exact ⟨Expr.case.inj, (Expr.case.injEq ..).mpr⟩

theorem expand_pushedExprs : ∀ es : List Expr,
    expandExprs after (rewriteExprs (m := Id) pushedAliases () es).run =
      (rewriteExprs (m := Id) pushedAliases () (expandExprs before es)).run ↔
    Agree before after (bareNamesOfExprs es)
  | [] => iff_of_true rfl (List.forall_mem_nil _)
  | e :: rest => by
    rw [bareNamesOfExprs, agree_append, ← expand_pushedExpr e, ← expand_pushedExprs rest]
    exact ⟨List.cons.inj, fun h => congrArg₂ List.cons h.1 h.2⟩

theorem expand_pushedOption : ∀ o : Option Expr,
    expandOption after (rewriteOption (m := Id) pushedAliases () o).run =
      (rewriteOption (m := Id) pushedAliases () (expandOption before o)).run ↔
    Agree before after (bareNamesOfOption o)
  | none => iff_of_true rfl (List.forall_mem_nil _)
  | some e => by
    rw [bareNamesOfOption, ← expand_pushedExpr e]
    exact ⟨Option.some.inj, congrArg some⟩

theorem expand_pushedBranches : ∀ bs : List (Expr × Expr),
    expandBranches after (rewriteBranches (m := Id) pushedAliases () bs).run =
      (rewriteBranches (m := Id) pushedAliases () (expandBranches before bs)).run ↔
    Agree before after (bareNamesOfBranches bs)
  | [] => iff_of_true rfl (List.forall_mem_nil _)
  | (condition, result) :: rest => by
    rw [bareNamesOfBranches, agree_append, agree_append, ← expand_pushedExpr condition,
      ← expand_pushedExpr result, ← expand_pushedBranches rest]
    refine ⟨fun h => ?_, fun ⟨hc, hr, hs⟩ => congrArg₂ List.cons (congrArg₂ Prod.mk hc hr) hs⟩
    obtain ⟨head, tail⟩ := List.cons.inj h
    exact ⟨(Prod.mk.inj head).1, (Prod.mk.inj head).2, tail⟩

end

end

theorem spine_mapLeftmost (f : Select → Select) :
    (∀ b : Body, (b.mapLeftmost f).spine = b.spine.map (·.mapLeftmost f)) ∧
      ∀ q : Query, (q.mapLeftmost f).spine = q.spine.map (·.mapLeftmost f) := by
  refine leftEnd_induction (fun _ => rfl) (fun _ _ _ _ ih => ih) (fun _ ih => ih) ?_
  intro ctes recursive body orderBy limit offset ih
  rw [Query.mapLeftmost, Query.spine, Query.spine, List.map_cons, ih]
  rfl

theorem leftmost_of_mem_spine :
    (∀ b : Body, ∀ r ∈ b.spine, r.leftmost = b.leftmost) ∧
      ∀ q : Query, ∀ r ∈ q.spine, r.leftmost = q.leftmost := by
  refine leftEnd_induction ?_ (fun _ _ _ _ ih => ih) (fun _ ih => ih) ?_
  · intro s r present
    cases present
  · intro ctes recursive body orderBy limit offset ih r present
    rcases List.mem_cons.1 present with rfl | below
    · rfl
    · exact ih r below

theorem leftmost_pushed :
    (∀ b : Body, (b.rewrite (m := Id) pushedAliases ()).run.leftmost =
      (b.leftmost.rewriteParts (m := Id) pushedAliases ()).run) ∧
    ∀ q : Query, (removeColumnAliases q).leftmost =
      (q.leftmost.rewriteParts (m := Id) pushedAliases ()).run := by
  refine leftEnd_induction ?_ (fun _ _ _ _ ih => ih) (fun _ ih => ih)
    fun _ _ _ _ _ _ ih => ih
  intro s
  cases s
  rfl

theorem spine_pushed :
    (∀ b : Body, (b.rewrite (m := Id) pushedAliases ()).run.spine = b.spine.map removeColumnAliases) ∧
    ∀ q : Query, (removeColumnAliases q).spine = q.spine.map removeColumnAliases := by
  refine leftEnd_induction (fun _ => rfl) (fun _ _ _ _ ih => ih) (fun _ ih => ih) ?_
  intro ctes recursive body orderBy limit offset ih
  exact congrArg (List.cons _) ih

def pushedItem (i : SelectItem) : SelectItem := ⟨pushedExpr i.expr, i.label⟩

theorem rewriteItems_pushed (is : List SelectItem) :
    (rewriteItems (m := Id) pushedAliases () is).run = is.map pushedItem := by
  induction is with
  | nil => rfl
  | cons i is ih =>
    obtain ⟨e, label⟩ := i
    exact congrArg (List.cons ⟨pushedExpr e, label⟩) ih

theorem rewriteOrder_pushed (orderBy : List OrderItem) :
    (rewriteOrder (m := Id) pushedAliases () orderBy).run =
      orderBy.map fun o => { o with expr := pushedExpr o.expr } := by
  induction orderBy with
  | nil => rfl
  | cons o orderBy ih =>
    obtain ⟨e, dir, nulls⟩ := o
    exact congrArg (List.cons ⟨pushedExpr e, dir, nulls⟩) ih

theorem projection_pushed (s : Select) :
    (s.rewriteParts (m := Id) pushedAliases ()).run.projection = s.projection.map pushedItem :=
  rewriteItems_pushed s.projection

theorem denotes_pushed {s s' : Select} (items : s'.projection = s.projection.map pushedItem) (name : String) :
    s'.denotes name = pushedExpr (s.denotes name) := by
  unfold Select.denotes
  rw [items, List.find?_map]
  change (match Option.map pushedItem (s.projection.find? (·.label == some name)) with
    | some item => item.expr
    | none => .column [] name) = _
  cases s.projection.find? (·.label == some name) with
  | none => rfl
  | some item => rfl

theorem aliasItems_pushed (columns : List String) (s : Select) :
    (aliasItems columns (s.rewriteParts (m := Id) pushedAliases ()).run).projection =
      (aliasItems columns s).projection.map pushedItem := by
  simp only [aliasItems, projection_pushed, List.zipWith_map_left, List.map_zipWith]
  rfl

theorem orderBy_pushed (f : Select → Select) (q : Query) :
    ((removeColumnAliases q).mapLeftmost f).orderBy =
      q.orderBy.map fun o => { o with expr := pushedExpr o.expr } := by
  obtain ⟨ctes, recursive, body, orderBy, limit, offset⟩ := q
  exact rewriteOrder_pushed orderBy

theorem sortKeys_pushed_iff {f : Select → Select} {q : Query} {after : String → Expr}
    (meaning : ∀ name, (f (q.leftmost.rewriteParts (m := Id) pushedAliases ()).run).denotes name = after name) :
    ((removeColumnAliases q).mapLeftmost f).spine.map Query.sortKeys =
        (q.spine.map Query.sortKeys).map (·.map pushedExpr) ↔
      ∀ r ∈ q.spine, ∀ o ∈ r.orderBy, Agree q.leftmost.denotes after o.expr.bareNames := by
  rw [(spine_mapLeftmost f).2, spine_pushed.2, List.map_map, List.map_map, List.map_map, List.map_inj_left]
  refine forall₂_congr fun r present => ?_
  have before : r.leftmost = q.leftmost := leftmost_of_mem_spine.2 q r present
  have denotes : ((removeColumnAliases r).mapLeftmost f).leftmost.denotes = after := by
    funext name
    rw [(leftmost_mapLeftmost f).2, leftmost_pushed.2, before, meaning]
  simp only [Function.comp, Query.sortKeys, orderBy_pushed, denotes, before, List.map_map,
    List.map_inj_left, expand_pushedExpr]

/-- The names in the sort keys along the left end stand for the same, up to the pass, under the columns. -/
def NamesStand (columns : List String) (q : Query) : Prop :=
  ∀ r ∈ q.spine, ∀ o ∈ r.orderBy, ∀ name ∈ o.expr.bareNames,
    pushedExpr ((aliasItems columns q.leftmost).denotes name) = pushedExpr (q.leftmost.denotes name)

def pushedRelation (a : Relation) : Relation := (a.rewrite (m := Id) pushedAliases ()).run

theorem pushedRelation_cases (q : Query) (label : Option TableAlias) :
    (isPushable (.derived q label) = false ∧
        pushedRelation (.derived q label) = .derived (removeColumnAliases q) label) ∨
      ∃ name columns, label = some ⟨name, columns⟩ ∧ namesColumns q.leftmost columns ∧
        isPushable (.derived q label) = true ∧ pushedRelation (.derived q label) =
          .derived ((removeColumnAliases q).mapLeftmost (aliasItems columns)) (some ⟨name, []⟩) := by
  have walked : isPushable (.derived (removeColumnAliases q) label) = isPushable (.derived q label) :=
    isPushable_rewriteParts pushedAliases_keepsProjections (n := ()) (k := ())
      (yields_self ((Relation.derived q label).rewriteParts pushedAliases ()))
  have run : pushedRelation (.derived q label) = pushAliases (.derived (removeColumnAliases q) label) := rfl
  cases pushable : isPushable (.derived q label) with
  | false => exact .inl ⟨rfl, run.trans (pushAliases_eq_self.2 (walked.trans pushable))⟩
  | true =>
    rw [pushable] at walked
    cases label with
    | none => cases pushable
    | some label =>
      obtain ⟨name, columns⟩ := label
      have fits : namesColumns q.leftmost columns := (Bool.and_eq_true_iff.1 pushable).2
      exact .inr ⟨name, columns, rfl, fits, rfl, run.trans (if_pos walked)⟩

/-- The sort keys of a derived table stay as they are, unless its aliases are moved and a name changes. -/
theorem sortKeys_kept_iff (a : Relation) :
    (pushedRelation a).sortKeys = a.sortKeys.map (·.map pushedExpr) ↔
      ∀ q name columns, a = .derived q (some ⟨name, columns⟩) → isPushable a → NamesStand columns q := by
  cases a with
  | table path label => exact iff_of_true rfl (fun _ _ _ same => by cases same)
  | unnest es label => exact iff_of_true rfl (fun _ _ _ same => by cases same)
  | derived q label =>
    rcases pushedRelation_cases q label with ⟨resting, run⟩ | ⟨name, columns, rfl, -, moved, run⟩
    · refine iff_of_true ?_ (fun _ _ _ _ moved => by rw [resting] at moved; cases moved)
      rw [run]
      have unchanged : ∀ name, (id (q.leftmost.rewriteParts (m := Id) pushedAliases ()).run).denotes name =
          pushedExpr (q.leftmost.denotes name) := denotes_pushed (projection_pushed q.leftmost)
      have keys := (sortKeys_pushed_iff unchanged).2 fun _ _ _ _ _ _ => rfl
      rwa [mapLeftmost_eq_self.2 _ rfl] at keys
    · rw [run]
      have meaning : ∀ name, (aliasItems columns (q.leftmost.rewriteParts (m := Id) pushedAliases ()).run).denotes
          name = pushedExpr ((aliasItems columns q.leftmost).denotes name) :=
        denotes_pushed (aliasItems_pushed columns q.leftmost)
      have keys : _ ↔ NamesStand columns q := sortKeys_pushed_iff meaning
      refine keys.trans ⟨fun stand q' name' columns' same _ => ?_, fun stand => stand q name columns rfl moved⟩
      cases same
      exact stand

theorem name?_pushedItem (i : SelectItem) : (pushedItem i).name? = i.name? := by
  obtain ⟨e, _ | label⟩ := i
  · cases e <;> rfl
  · rfl

theorem isStar_pushedItem (i : SelectItem) : isStar (pushedItem i).expr = isStar i.expr := by
  obtain ⟨e, label⟩ := i
  cases e <;> rfl

theorem columnNames_pushed (q : Query) (label : Option TableAlias) :
    (Relation.derived (removeColumnAliases q) label).columnNames = (Relation.derived q label).columnNames := by
  simp only [Relation.columnNames, leftmost_pushed.2, projection_pushed, List.any_map, List.map_map]
  simp only [Function.comp_def, name?_pushedItem, isStar_pushedItem]

theorem items_aliased {is : List SelectItem} {columns : List String} (h : is.length = columns.length) :
    (List.zipWith (fun item column => ⟨item.expr, some column⟩) is columns).map SelectItem.name? =
        columns.map some ∧
      (List.zipWith (fun item column => (⟨item.expr, some column⟩ : SelectItem)) is columns).any
        (isStar ·.expr) = is.any (isStar ·.expr) := by
  induction is generalizing columns with
  | nil =>
    rw [List.length_nil, eq_comm, List.length_eq_zero_iff] at h
    rw [h]
    exact ⟨rfl, rfl⟩
  | cons i is ih =>
    cases columns with
    | nil => cases h
    | cons column columns =>
      have length : is.length = columns.length := by simpa using h
      obtain ⟨names, stars⟩ := ih length
      rw [List.zipWith_cons_cons, List.map_cons, names, List.any_cons, stars]
      exact ⟨rfl, rfl⟩

/-- As many aliases as columns are exposed alike, whether they are those of the table or of the items. -/
theorem columnNames_moved {q : Query} {name : String} {columns : List String}
    (fits : namesColumns q.leftmost columns) :
    (Relation.derived (q.mapLeftmost (aliasItems columns)) (some ⟨name, []⟩)).columnNames =
      (Relation.derived q (some ⟨name, columns⟩)).columnNames := by
  rw [namesColumns, Bool.and_eq_true, beq_iff_eq] at fits
  obtain ⟨names, stars⟩ := items_aliased fits.1
  have beyond : (q.leftmost.projection.map SelectItem.name?).drop columns.length = [] :=
    List.drop_eq_nil_of_le (by simp [fits.1])
  simp only [Relation.columnNames, (leftmost_mapLeftmost _).2, aliasItems, names, stars, beyond,
    Option.map_some, Option.getD_some, List.map_nil, List.length_nil, List.drop_zero, List.nil_append,
    List.append_nil]

theorem columnNames_pushedRelation (a : Relation) : (pushedRelation a).columnNames = a.columnNames := by
  cases a with
  | table path label | unnest es label => rfl
  | derived q label =>
    rcases pushedRelation_cases q label with ⟨-, run⟩ | ⟨name, columns, rfl, fits, -, run⟩
    · rw [run, columnNames_pushed]
    · have fits' : namesColumns (removeColumnAliases q).leftmost columns := by
        rw [namesColumns_eq] at fits ⊢
        rwa [(starColumns_leftmost pushedAliases_keepsProjections).2 q (removeColumnAliases_yields q)]
      rw [run, columnNames_moved fits', columnNames_pushed]

theorem relations_mapLeftmost (f : Select → Select) :
    (∀ b : Body, Relabels .unscoped f b.leftmost → ∀ t,
      ((b.mapLeftmost f).nodes .unscoped t).filterMap Node.relation? =
        (b.nodes .unscoped t).filterMap Node.relation?) ∧
    ∀ q : Query, Relabels .unscoped f q.leftmost → ∀ t,
      ((q.mapLeftmost f).nodes .unscoped t).filterMap Node.relation? =
        (q.nodes .unscoped t).filterMap Node.relation? := by
  refine leftEnd_induction ?select ?setOp ?query ?body
  case select =>
    intro s (h : Relabels .unscoped f s) t
    rw [Body.mapLeftmost, Body.nodes, Body.nodes, Select.nodes_eq, Select.nodes_eq, h.parts]
    rfl
  case setOp =>
    intro op all left right ih h t
    rw [Body.mapLeftmost, Body.nodes, Body.nodes, List.filterMap_append, List.filterMap_append, ih h]
  case query => exact fun q ih h t => ih h t
  case body =>
    intro ctes recursive body orderBy limit offset ih h t
    rw [Query.mapLeftmost, Query.nodes_eq, Query.nodes_eq]
    simp only [Query.parts, List.filterMap_cons, List.filterMap_append, Node.relation?]
    rw [ih h]

theorem relations_pushAliases (a : Relation) (t : Unit) :
    ((pushAliases a).parts .unscoped t).filterMap Node.relation? =
      (a.parts .unscoped t).filterMap Node.relation? := by
  rcases pushAliases_cases a with same | ⟨q, name, columns, rfl, fits, same⟩
  · rw [same]
  · rw [same]
    exact (relations_mapLeftmost _).2 q (aliasItems_relabels .unscoped fits) t

theorem pushedAliases_relations : pushedAliases.Keeps .unscoped fun _ _ _ L L' =>
    ∀ t, (L' t).filterMap Node.relation? = ((L t).filterMap Node.relation?).map pushedRelation where
  nil _ := rfl
  append hL hM t := by rw [List.filterMap_append, List.filterMap_append, List.map_append, hL, hM]
  leaf he hy t := by
    obtain ⟨rfl, -⟩ := Outcomes.yields_pure.1 hy
    simp only [Expr.nodes_leaf _ he]
    rfl
  relation {env n j k a a' b} ha parts hy t := by
    have image : pushedRelation a = b := Relation.yields_rewrite.2 ⟨a', j, ha, hy⟩
    obtain rfl : pushAliases a' = b := hy
    simp only [Relation.nodes_eq, List.filterMap_cons, Node.relation?, List.map_cons, image,
      relations_pushAliases, parts]
  select ha parts hy t := by
    obtain ⟨rfl, -⟩ := Outcomes.yields_pure.1 hy
    simp only [Select.nodes_eq, List.filterMap_cons, Node.relation?, parts]
  query ha parts hy t := by
    obtain ⟨rfl, -⟩ := Outcomes.yields_pure.1 hy
    simp only [Query.nodes_eq, List.filterMap_cons, Node.relation?, parts]

theorem removeColumnAliases_relations (q : Query) :
    (removeColumnAliases q).relations = q.relations.map pushedRelation :=
  pushedAliases_relations.ascends.pieces.query_holds q (removeColumnAliases_yields q) ()

/-- Every derived table exposes the same names. Its sort keys stand for the same expressions, with nothing
changed in them but further derived tables, if and only if no name in them is moved to another item. -/
theorem moved_aliases_kept (q : Query) :
    List.Forall₂ (fun a b => b.columnNames = a.columnNames) q.relations (removeColumnAliases q).relations ∧
      (List.Forall₂ (fun a b => b.sortKeys = a.sortKeys.map (·.map pushedExpr)) q.relations
          (removeColumnAliases q).relations ↔
        ∀ a ∈ q.relations, ∀ inner name columns, a = .derived inner (some ⟨name, columns⟩) →
          isPushable a → NamesStand columns inner) := by
  rw [removeColumnAliases_relations, List.forall₂_map_right_iff, List.forall₂_map_right_iff,
    List.forall₂_same, List.forall₂_same]
  exact ⟨fun a _ => columnNames_pushedRelation a, forall₂_congr fun a _ => sortKeys_kept_iff a⟩

/-- `SELECT * FROM (SELECT a AS x, b AS y FROM t ORDER BY x LIMIT 1) AS s (y, x)` -/
def swappedAliases : Query :=
  let first : Query :=
    { Query.ofSelect { Select.empty with
        projection := [⟨.name "a", some "x"⟩, ⟨.name "b", some "y"⟩]
        sources := [⟨.named "t", []⟩] } with
      orderBy := [⟨.name "x", none, none⟩]
      limit := some (.int 1) }
  .ofSelect
    { Select.empty with
      projection := [⟨.star [], none⟩]
      sources := [⟨.derived first (some ⟨"s", ["y", "x"]⟩), []⟩] }

/-- The sort key `x` stood for `a`, and stands for `b` once the aliases are swapped. -/
theorem swappedAliases_change_key :
    ¬List.Forall₂ (fun a b => b.sortKeys = a.sortKeys.map (·.map pushedExpr)) swappedAliases.relations
      (removeColumnAliases swappedAliases).relations := by
  intro kept
  have before : swappedAliases.relations.map (fun a => a.sortKeys.map (·.map pushedExpr)) =
      [[[.name "a"]], []] := rfl
  have after : (removeColumnAliases swappedAliases).relations.map Relation.sortKeys =
      [[[.name "b"]], []] := rfl
  have same : swappedAliases.relations.map (fun a => a.sortKeys.map (·.map pushedExpr)) =
      (removeColumnAliases swappedAliases).relations.map Relation.sortKeys := by
    rw [removeColumnAliases_relations, List.forall₂_map_right_iff, List.forall₂_same] at kept
    rw [removeColumnAliases_relations, List.map_map]
    exact List.map_congr_left fun a present => (kept a present).symm
  rw [before, after] at same
  simp [Expr.name] at same

end Passes

end QueryBridge
