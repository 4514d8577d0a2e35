import QueryBridge.Proofs.Tree.Correspondence
import QueryBridge.Proofs.Tree.Walk

set_option autoImplicit false

namespace QueryBridge

/-- What a relation is referred to by: the path of a table, or an alias. An alias with a single column
over a single array names the elements of that array. -/
inductive RangeVariable where
  | path (parts : List String)
  | label (name : String)
  | element (name column : String)
  | nameless
  deriving DecidableEq

def Relation.rangeVariable : Relation → RangeVariable
  | .unnest [_] (some ⟨name, [column]⟩) => .element name column
  | .table path none => .path path
  | .table _ (some a) | .derived _ (some a) | .unnest _ (some a) => .label a.name
  | .derived _ none | .unnest _ none => .nameless

def Select.rangeVariables (s : Select) : List RangeVariable :=
  s.sources.flatMap fun item => item.relation.rangeVariable :: item.joins.map (·.relation.rangeVariable)

theorem Select.rangeVariables_eq (s : Select) : s.rangeVariables = s.relations.map (·.rangeVariable) := by
  simp [rangeVariables, relations, FromItem.relations, List.map_flatMap, Function.comp_def]

/-- Which clauses of a query see the FROM clause of the SELECT that is its body. -/
structure Visibility where
  ctes : Bool
  orderBy : Bool
  bounds : Bool

/-- ORDER BY sees the FROM clause, WITH and the bounds do not. -/
def Visibility.sql : Visibility := ⟨false, true, false⟩

def Query.clausesFor (q : Query) (sees : Bool) : List (List RangeVariable) :=
  if sees then (q.select?.map Select.rangeVariables).toList else []

/-- A leaf below some FROM clauses, or, without a leaf, the SELECT of the innermost of them. -/
structure Sighting where
  clauses : List (List RangeVariable)
  leaf? : Option Expr

def Sighting.within (outer : List (List RangeVariable)) (x : Sighting) : Sighting :=
  ⟨x.clauses ++ outer, x.leaf?⟩

section

variable (v : Visibility)

mutual

def Expr.sightings : Expr → List Sighting
  | .binary _ left right => left.sightings ++ right.sightings
  | .not e | .neg e | .paren e | .isNull e _ | .cast e _ => e.sightings
  | .call _ args _ => sightingsOfExprs args
  | .case operand branches otherwise =>
    sightingsOfOption operand ++ (sightingsOfBranches branches ++ sightingsOfOption otherwise)
  | .subquery q | .exists q _ => q.sightings
  | .inList e values _ => e.sightings ++ sightingsOfExprs values
  | .inQuery e q _ => e.sightings ++ q.sightings
  | .between e low high _ => e.sightings ++ (low.sightings ++ high.sightings)
  | .like e pattern _ => e.sightings ++ pattern.sightings
  | .index array index => array.sightings ++ index.sightings
  | .array items => sightingsOfExprs items
  | .column qualifier name => [⟨[], some (.column qualifier name)⟩]
  | .literal value => [⟨[], some (.literal value)⟩]
  | .keyword word => [⟨[], some (.keyword word)⟩]
  | .star qualifier => [⟨[], some (.star qualifier)⟩]
  | .unsupported detail => [⟨[], some (.unsupported detail)⟩]

def sightingsOfExprs : List Expr → List Sighting
  | [] => []
  | e :: rest => e.sightings ++ sightingsOfExprs rest

def sightingsOfOption : Option Expr → List Sighting
  | none => []
  | some e => e.sightings

def sightingsOfBranches : List (Expr × Expr) → List Sighting
  | [] => []
  | (condition, result) :: rest =>
    condition.sightings ++ (result.sightings ++ sightingsOfBranches rest)

def SelectItem.sightings : SelectItem → List Sighting
  | ⟨e, _⟩ => e.sightings

def sightingsOfItems : List SelectItem → List Sighting
  | [] => []
  | i :: rest => i.sightings ++ sightingsOfItems rest

def Relation.sightings : Relation → List Sighting
  | .table _ _ => []
  | .derived q _ => q.sightings
  | .unnest exprs _ => sightingsOfExprs exprs

def JoinConstraint.sightings : JoinConstraint → List Sighting
  | .on e => e.sightings
  | .using _ | .none => []

def Join.sightings : Join → List Sighting
  | ⟨_, relation, constraint⟩ => relation.sightings ++ constraint.sightings

def sightingsOfJoins : List Join → List Sighting
  | [] => []
  | j :: rest => j.sightings ++ sightingsOfJoins rest

def FromItem.sightings : FromItem → List Sighting
  | ⟨relation, joins⟩ => relation.sightings ++ sightingsOfJoins joins

def sightingsOfSources : List FromItem → List Sighting
  | [] => []
  | i :: rest => i.sightings ++ sightingsOfSources rest

def Select.sightings : Select → List Sighting
  | ⟨distinct, projection, sources, selection, groupBy, having⟩ =>
    let own := Select.rangeVariables ⟨distinct, projection, sources, selection, groupBy, having⟩
    ⟨[own], none⟩ ::
      (sightingsOfItems projection ++ (sightingsOfSources sources ++ (sightingsOfOption selection
        ++ (sightingsOfExprs groupBy ++ sightingsOfOption having)))).map (·.within [own])

def Body.sightings : Body → List Sighting
  | .select s => s.sightings
  | .setOp _ _ left right => left.sightings ++ right.sightings
  | .query q => q.sightings

def OrderItem.sightings : OrderItem → List Sighting
  | ⟨e, _, _⟩ => e.sightings

def sightingsOfOrder : List OrderItem → List Sighting
  | [] => []
  | o :: rest => o.sightings ++ sightingsOfOrder rest

def Cte.sightings : Cte → List Sighting
  | ⟨_, _, query⟩ => query.sightings

def sightingsOfCtes : List Cte → List Sighting
  | [] => []
  | c :: rest => c.sightings ++ sightingsOfCtes rest

def Query.sightings : Query → List Sighting
  | ⟨ctes, recursive, body, orderBy, limit, offset⟩ =>
    let own := Query.clausesFor ⟨ctes, recursive, body, orderBy, limit, offset⟩
    (sightingsOfCtes ctes).map (·.within (own v.ctes)) ++ (body.sightings
      ++ ((sightingsOfOrder orderBy).map (·.within (own v.orderBy))
        ++ (sightingsOfOption limit ++ sightingsOfOption offset).map (·.within (own v.bounds))))

end

def Select.innerSightings (s : Select) : List Sighting :=
  sightingsOfItems v s.projection ++ (sightingsOfSources v s.sources ++ (sightingsOfOption v s.selection
    ++ (sightingsOfExprs v s.groupBy ++ sightingsOfOption v s.having)))

def Query.boundSightings (q : Query) : List Sighting :=
  sightingsOfOption v q.limit ++ sightingsOfOption v q.offset

theorem Expr.sightings_leaf {e : Expr} (h : e.isLeaf) : e.sightings v = [⟨[], some e⟩] := by
  cases e <;> first | rfl | cases h

theorem Select.sightings_eq (s : Select) :
    s.sightings v = ⟨[s.rangeVariables], none⟩ ::
      (s.innerSightings v).map (·.within [s.rangeVariables]) := by
  cases s; rfl

theorem Query.sightings_eq (q : Query) :
    q.sightings v = (sightingsOfCtes v q.ctes).map (·.within (q.clausesFor v.ctes)) ++ (q.body.sightings v
      ++ ((sightingsOfOrder v q.orderBy).map (·.within (q.clausesFor v.orderBy))
        ++ (q.boundSightings v).map (·.within (q.clausesFor v.bounds)))) := by
  cases q; rfl

end

theorem forall₂_append {α β : Type} {R : α → β → Prop} {as bs : List α} {as' bs' : List β}
    (has : List.Forall₂ R as as') (hbs : List.Forall₂ R bs bs') :
    List.Forall₂ R (as ++ bs) (as' ++ bs') :=
  List.rel_append has hbs

theorem forall₂_iff {α β : Type} {R S : α → β → Prop} {P : α → Prop} {as : List α} {bs : List β}
    (related : List.Forall₂ R as bs) (each : ∀ a ∈ as, ∀ b, R a b → (S a b ↔ P a)) :
    List.Forall₂ S as bs ↔ ∀ a ∈ as, P a := by
  induction related with
  | nil => simp
  | cons one _ ih =>
    rw [List.forall₂_cons, List.forall_mem_cons, each _ List.mem_cons_self _ one,
      ih fun a present => each a (List.mem_cons_of_mem _ present)]

theorem forall₂_eq_map {α β : Type} {f : α → β} {as : List α} {bs : List β} :
    List.Forall₂ (fun a b => b = f a) as bs ↔ bs = as.map f := by
  constructor
  · intro related
    induction related with
    | nil => rfl
    | cons same _ ih => rw [same, ih, List.map_cons]
  · rintro rfl
    induction as with
    | nil => exact .nil
    | cons a as ih => exact .cons rfl ih

section

variable {ρ : Type} (r : Rewrite Id ρ) (v : Visibility) (R : ρ → Sighting → Sighting → Prop)

/-- The sightings before and after are related one by one, given what the walk knows around the piece. -/
structure Rewrite.Relates : Prop where
  leaf : ∀ {env e}, e.isLeaf → List.Forall₂ (R env) (e.sightings v) ((r.leaf env e).sightings v)
  relation : ∀ {env a}, (r.leaveRelation env a).sightings v = a.sightings v
  select : ∀ {env a a'}, let inner := r.enterSelect env a
    Yields (a.rewriteParts r inner) () a' () →
    List.Forall₂ (R inner) (a.innerSightings v) (a'.innerSightings v) →
    List.Forall₂ (R env) (a.sightings v) ((r.leaveSelect inner a').sightings v)
  query : ∀ {env a a'}, let inner := r.enterQuery env a
    Yields (a.rewriteParts r inner) () a' () →
    List.Forall₂ (R inner) (sightingsOfCtes v a.ctes) (sightingsOfCtes v a'.ctes) →
    List.Forall₂ (R inner) (a.body.sightings v) (a'.body.sightings v) →
    List.Forall₂ (R inner) (sightingsOfOrder v a.orderBy) (sightingsOfOrder v a'.orderBy) →
    List.Forall₂ (R inner) (a.boundSightings v) (a'.boundSightings v) →
    List.Forall₂ (R env) (a.sightings v) ((r.leaveQuery inner a a').sightings v)

def sightingsRelated : WalkProperty ρ Unit where
  expr env _ _ a b := List.Forall₂ (R env) (a.sightings v) (b.sightings v)
  exprs env _ _ a b := List.Forall₂ (R env) (sightingsOfExprs v a) (sightingsOfExprs v b)
  option env _ _ a b := List.Forall₂ (R env) (sightingsOfOption v a) (sightingsOfOption v b)
  branches env _ _ a b := List.Forall₂ (R env) (sightingsOfBranches v a) (sightingsOfBranches v b)
  item env _ _ a b := List.Forall₂ (R env) (a.sightings v) (b.sightings v)
  items env _ _ a b := List.Forall₂ (R env) (sightingsOfItems v a) (sightingsOfItems v b)
  relation env _ _ a b := List.Forall₂ (R env) (a.sightings v) (b.sightings v)
  constraint env _ _ a b := List.Forall₂ (R env) (a.sightings v) (b.sightings v)
  join env _ _ a b := List.Forall₂ (R env) (a.sightings v) (b.sightings v)
  joins env _ _ a b := List.Forall₂ (R env) (sightingsOfJoins v a) (sightingsOfJoins v b)
  source env _ _ a b := List.Forall₂ (R env) (a.sightings v) (b.sightings v)
  sources env _ _ a b := List.Forall₂ (R env) (sightingsOfSources v a) (sightingsOfSources v b)
  select env _ _ a b := List.Forall₂ (R env) (a.sightings v) (b.sightings v)
  body env _ _ a b := List.Forall₂ (R env) (a.sightings v) (b.sightings v)
  order env _ _ a b := List.Forall₂ (R env) (a.sightings v) (b.sightings v)
  orders env _ _ a b := List.Forall₂ (R env) (sightingsOfOrder v a) (sightingsOfOrder v b)
  cte env _ _ a b := List.Forall₂ (R env) (a.sightings v) (b.sightings v)
  ctes env _ _ a b := List.Forall₂ (R env) (sightingsOfCtes v a) (sightingsOfCtes v b)
  query env _ _ a b := List.Forall₂ (R env) (a.sightings v) (b.sightings v)

end

namespace Rewrite.Relates

variable {ρ : Type} {r : Rewrite Id ρ} {v : Visibility} {R : ρ → Sighting → Sighting → Prop}
  (h : r.Relates v R)

include h

theorem ascends : (sightingsRelated v R).Ascends r where
  leaf {env n k e e'} he hy := by
    obtain rfl : r.leaf env e = e' := hy
    exact h.leaf he
  binary := forall₂_append
  not he := he
  neg he := he
  call hes := hes
  case ho hb ht := forall₂_append ho (forall₂_append hb ht)
  subquery hq := hq
  existential hq := hq
  inList := forall₂_append
  inQuery := forall₂_append
  between he hl hu := forall₂_append he (forall₂_append hl hu)
  isNull he := he
  like := forall₂_append
  cast he := he
  index := forall₂_append
  array hes := hes
  paren he := he
  exprsNil := .nil
  exprsCons := forall₂_append
  optionNone := .nil
  optionSome he := he
  branchesNil := .nil
  branchesCons hc ht hb := forall₂_append hc (forall₂_append ht hb)
  item he := he
  itemsNil := .nil
  itemsCons := forall₂_append
  table {env n k path label b} hy := by
    obtain rfl : r.leaveRelation env (.table path label) = b := hy
    change List.Forall₂ _ _ _
    rw [h.relation]
    exact .nil
  derived {env n j k q label q' b} _ hq hy := by
    obtain rfl : r.leaveRelation env (.derived q' label) = b := hy
    change List.Forall₂ _ _ _
    rw [h.relation]
    exact hq
  unnest {env n j k es label es' b} _ hes hy := by
    obtain rfl : r.leaveRelation env (.unnest es' label) = b := hy
    change List.Forall₂ _ _ _
    rw [h.relation]
    exact hes
  on he := he
  usingColumns := .nil
  unconstrained := .nil
  join := forall₂_append
  joinsNil := .nil
  joinsCons := forall₂_append
  source := forall₂_append
  sourcesNil := .nil
  sourcesCons := forall₂_append
  select {env n i₁ i₂ i₃ i₄ j k a a' b} := by
    intro inner ha hp hf hw hg ht hb
    obtain rfl : r.leaveSelect inner a' = b := hb
    exact h.select ha
      (forall₂_append hp (forall₂_append hf (forall₂_append hw (forall₂_append hg ht))))
  bodySelect hs := hs
  setOp := forall₂_append
  bodyQuery hq := hq
  order he := he
  ordersNil := .nil
  ordersCons := forall₂_append
  cte hq := hq
  ctesNil := .nil
  ctesCons := forall₂_append
  query {env n i₁ i₂ i₃ i₄ j k a a' b} := by
    intro inner ha hc hd ho hl hf hb
    obtain rfl : r.leaveQuery inner a a' = b := hb
    exact h.query ha hc hd ho (forall₂_append hl hf)

theorem query_sightings (env : ρ) (q : Query) :
    List.Forall₂ (R env) (q.sightings v) ((q.rewrite r env).run.sightings v) :=
  h.ascends.pieces.query_holds q (yields_self _)

theorem select_sightings (env : ρ) (s : Select) :
    List.Forall₂ (R env) (s.sightings v) ((s.rewrite r env).run.sightings v) :=
  h.ascends.pieces.select_holds s (yields_self _)

theorem order_sightings (env : ρ) (orderBy : List OrderItem) :
    List.Forall₂ (R env) (sightingsOfOrder v orderBy)
      (sightingsOfOrder v (rewriteOrder r env orderBy).run) :=
  h.ascends.pieces.orders_hold orderBy (yields_self _)

end Rewrite.Relates

section

variable {ρ : Type} {r : Rewrite Id ρ}

theorem Relation.rangeVariable_rewriteParts {env : ρ} {a b : Relation}
    (h : Yields (a.rewriteParts r env) () b ()) : b.rangeVariable = a.rangeVariable := by
  cases a with
  | table path label => rw [(Outcomes.yields_pure.1 h).1]
  | derived q label =>
    obtain ⟨_, _, -, rest⟩ := Outcomes.yields_bind.1 h
    rw [(Outcomes.yields_pure.1 rest).1]
    cases label <;> rfl
  | unnest es label =>
    obtain ⟨es', _, hes, rest⟩ := Outcomes.yields_bind.1 h
    rw [(Outcomes.yields_pure.1 rest).1]
    have length := length_rewriteExprs hes
    match es, es', length with
    | [], [], _ => rfl
    | [_], [_], _ => rcases label with _ | ⟨name, _ | ⟨column, _ | _⟩⟩ <;> rfl
    | _ :: _ :: _, _ :: _ :: _, _ => rcases label with _ | label <;> rfl

theorem Select.rangeVariables_rewriteParts {g : RangeVariable → RangeVariable}
    (hook : ∀ env x, (Relation.rangeVariable (r.leaveRelation env x)) = g x.rangeVariable)
    {inner : ρ} {a b : Select} (h : Yields (a.rewriteParts r inner) () b ()) :
    b.rangeVariables = a.rangeVariables.map g := by
  have relations := Select.relations_correspond h
  rw [rangeVariables_eq, rangeVariables_eq, List.map_map]
  generalize a.relations = as at relations ⊢
  generalize b.relations = bs at relations ⊢
  induction relations with
  | nil => rfl
  | @cons x y _ _ one _ ih =>
    obtain ⟨i, j, hx⟩ := one
    obtain ⟨x', _, parts, leave⟩ := Relation.yields_rewrite.1 hx
    obtain rfl : r.leaveRelation inner x' = y := leave
    rw [List.map_cons, List.map_cons, ih, hook, Relation.rangeVariable_rewriteParts parts]
    rfl

theorem Select.rangeVariables_kept
    (hook : ∀ env x, (Relation.rangeVariable (r.leaveRelation env x)) = x.rangeVariable) {inner : ρ}
    {a b : Select} (h : Yields (a.rewriteParts r inner) () b ()) : b.rangeVariables = a.rangeVariables := by
  have same := Select.rangeVariables_rewriteParts (g := id) hook h
  rwa [List.map_id] at same

theorem Query.clausesFor_rewriteParts {g : RangeVariable → RangeVariable}
    (hook : ∀ env {x y : Select}, Yields (x.rewriteParts r (r.enterSelect env x)) () y () →
      (r.leaveSelect (r.enterSelect env x) y).rangeVariables = x.rangeVariables.map g)
    {inner : ρ} {a b : Query} (h : Yields (a.rewriteParts r inner) () b ()) (sees : Bool) :
    b.clausesFor sees = (a.clausesFor sees).map (·.map g) := by
  simp only [Query.rewriteParts, Outcomes.yields_bind, Outcomes.yields_pure] at h
  obtain ⟨_, _, -, body', _, walk, _, _, -, _, _, -, _, _, -, rfl, -⟩ := h
  cases sees with
  | false => rfl
  | true =>
    unfold Query.clausesFor Query.select?
    cases present : a.body with
    | select s =>
      rw [present, Body.rewrite] at walk
      simp only [Outcomes.yields_bind, Outcomes.yields_pure] at walk
      obtain ⟨t, _, hs, rfl, -⟩ := walk
      obtain ⟨s', _, parts, leave⟩ := Select.yields_rewrite.1 hs
      obtain rfl : r.leaveSelect (r.enterSelect inner s) s' = t := leave
      simp [hook inner parts]
    | setOp op all left right =>
      rw [present, Body.rewrite] at walk
      simp only [Outcomes.yields_bind, Outcomes.yields_pure] at walk
      obtain ⟨_, _, -, _, _, -, rfl, -⟩ := walk
      rfl
    | query q =>
      rw [present, Body.rewrite] at walk
      simp only [Outcomes.yields_bind, Outcomes.yields_pure] at walk
      obtain ⟨_, _, -, rfl, -⟩ := walk
      rfl

end

end QueryBridge
