import QueryBridge.Proofs.Tree.Erasure
import QueryBridge.Proofs.Tree.Grafting
import QueryBridge.Proofs.Tree.Resting

set_option autoImplicit false

namespace QueryBridge

section

variable {g h : Expr → Expr}

theorem Query.mapLeaves_id (q : Query) : q.mapLeaves id = q :=
  ((Rewrite.identity_rests .unscoped).ascends.pieces.query_holds q
    (yields_self (q.rewrite (Rewrite.identity Id .unscoped) ()))).2 (fun _ _ => trivial) (le_refl _)

theorem Query.mapLeaves_mapLeaves (hg : ∀ e, e.isLeaf → (g e).isLeaf) (q : Query) :
    (q.mapLeaves g).mapLeaves h = q.mapLeaves (h ∘ g) := by
  rw [q.mapLeaves_eq_graft, Query.mapLeaves_eq_graft, q.graft_graft hg, q.mapLeaves_eq_graft]

theorem Query.blank_mapLeaves (hg : ∀ e, e.isLeaf → (g e).isLeaf) (q : Query) :
    (q.mapLeaves g).blank = q.blank := by
  rw [q.mapLeaves_eq_graft]
  exact q.graft_graft hg

section

variable {m : Type → Type} [Monad m] {σ : Type} [Outcomes m σ]

def Rewrite.leafwise (f : Expr → m Expr) : Rewrite m Unit :=
  { Rewrite.identity m .unscoped with leaf := fun _ => f }

/-- What holds of each leaf, and of a list of leaves if it holds of its two halves, holds of all leaves of
a tree in their order. -/
theorem Rewrite.leafwise_keeps {f : Expr → m Expr} {P : σ → σ → List Expr → List Expr → Prop}
    (nil : ∀ n, P n n [] [])
    (append : ∀ {n j k xs ys xs' ys'}, P n j xs ys → P j k xs' ys' → P n k (xs ++ xs') (ys ++ ys'))
    (leaf : ∀ {n k e e'}, e.isLeaf → Yields (f e) n e' k → P n k [e] e'.leaves) :
    (Rewrite.leafwise f).Keeps .unscoped
      fun _ n k L L' => P n k (leavesAmong (L ())) (leavesAmong (L' ())) where
  nil := nil _
  append hL hM := by
    simp only [leavesAmong_append]
    exact append hL hM
  leaf he hy := leaf he hy
  relation {env n j k a a' b} _ parts hy := by
    obtain ⟨rfl, rfl⟩ := Outcomes.yields_pure.1 hy
    simp only [Relation.nodes_eq]
    exact parts
  select {env n j k a a' b} _ parts hy := by
    obtain ⟨rfl, rfl⟩ := Outcomes.yields_pure.1 hy
    simp only [Select.nodes_eq]
    exact parts
  query {env n j k a a' b} _ parts hy := by
    obtain ⟨rfl, rfl⟩ := Outcomes.yields_pure.1 hy
    simp only [Query.nodes_eq]
    exact parts

end

theorem Expr.leaves_leaf {e : Expr} (h : e.isLeaf) : e.leaves = [e] := by
  cases e <;> first | rfl | cases h

theorem Query.leaves_mapLeaves (hg : ∀ e, e.isLeaf → (g e).isLeaf) (q : Query) :
    (q.mapLeaves g).leaves = q.leaves.map g := by
  have keeps := Rewrite.leafwise_keeps (m := Id) (f := fun e => g e)
    (P := fun _ _ xs ys => ys = xs.map g) (fun _ => rfl)
    (fun hxs hys => by rw [hxs, hys, List.map_append])
    (fun {n k e e'} he hy => by
      obtain rfl : g e = e' := hy
      exact Expr.leaves_leaf (hg e he))
  exact keeps.ascends.pieces.query_holds q (yields_self (q.rewrite (.leaves g) ()))

def Expr.column? : Expr → Option (List String × String)
  | .column qualifier name => some (qualifier, name)
  | _ => none

def recordColumn (e : Expr) : StateM (List (List String × String)) Expr := do
  modify (· ++ e.column?.toList)
  return e

def Expr.collectedColumns (e : Expr) : List (List String × String) :=
  ((e.rewrite (.leafwise recordColumn) ()).run []).2

theorem Expr.collectedColumns_eq (e : Expr) : e.collectedColumns = e.leaves.filterMap Expr.column? := by
  have keeps := Rewrite.leafwise_keeps (f := recordColumn)
    (P := fun n k xs _ => k = n ++ xs.filterMap Expr.column?) (fun n => (List.append_nil n).symm)
    (fun hxs hys => by rw [hys, hxs, List.filterMap_append, List.append_assoc])
    (fun {n k e e'} _ hy => by
      obtain rfl : n ++ e.column?.toList = k := congrArg Prod.snd hy
      rw [List.filterMap_cons, List.filterMap_nil]
      cases e.column? <;> rfl)
  exact keeps.ascends.pieces.expr_holds e (n := []) (yields_state.2 rfl)

theorem Expr.columnQualifiers_eq_collected (e : Expr) :
    e.columnQualifiers = e.collectedColumns.map (·.1) := by
  rw [e.collectedColumns_eq, List.map_filterMap, Expr.columnQualifiers]
  refine List.filterMap_congr fun x _ => ?_
  cases x <;> rfl

def nextLeaf (e : Expr) : StateM (List Expr) Expr := do
  match ← get with
  | [] => return e
  | next :: rest =>
    set rest
    return next

/-- `x` takes the leaves of `nodes` from the list and makes `a` of them. -/
def Refills {α : Type} (x : StateM (List Expr) α) (nodes : List (Node Unit)) (a : α) : Prop :=
  ∀ rest, Yields x (leavesAmong nodes ++ rest) a rest

section

variable {α β γ δ : Type} {x : StateM (List Expr) α} {y : StateM (List Expr) β}
  {z : StateM (List Expr) γ} {L M N : List (Node Unit)} {a : α} {b : β} {c : γ}

theorem Refills.pure (a : α) : Refills (Pure.pure a) [] a := fun _ => rfl

theorem Refills.bind {f : α → StateM (List Expr) β} (hx : Refills x L a) (hf : Refills (f a) M b) :
    Refills (x >>= f) (L ++ M) b := by
  intro rest
  rw [leavesAmong_append, List.append_assoc]
  exact Outcomes.yields_bind.2 ⟨a, _, hx _, hf rest⟩

theorem Refills.map (f : α → β) (hx : Refills x L a) : Refills (do return f (← x)) L (f a) := by
  have made := hx.bind (.pure (f a)) (f := fun a => Pure.pure (f a))
  rwa [List.append_nil] at made

theorem Refills.map₂ (f : α → β → γ) (hx : Refills x L a) (hy : Refills y M b) :
    Refills (do return f (← x) (← y)) (L ++ M) (f a b) :=
  hx.bind (hy.map (f a))

theorem Refills.map₃ (f : α → β → γ → δ) (hx : Refills x L a) (hy : Refills y M b) (hz : Refills z N c) :
    Refills (do return f (← x) (← y) (← z)) (L ++ (M ++ N)) (f a b c) :=
  hx.bind (hy.map₂ (f a) hz)

end

def empty (_ : Expr) : Expr := .literal .null

abbrev refill : Rewrite (StateM (List Expr)) Unit := .leafwise nextLeaf

def refilled : PieceProperty where
  expr e := Refills ((e.graft empty).rewrite refill ()) (e.nodes .unscoped ()) e
  exprs es := Refills (rewriteExprs refill () (graftExprs empty es)) (nodesOfExprs .unscoped () es) es
  option o := Refills (rewriteOption refill () (graftOption empty o)) (nodesOfOption .unscoped () o) o
  branches bs :=
    Refills (rewriteBranches refill () (graftBranches empty bs)) (nodesOfBranches .unscoped () bs) bs
  item i := Refills ((i.graft empty).rewrite refill ()) (i.nodes .unscoped ()) i
  items is := Refills (rewriteItems refill () (graftItems empty is)) (nodesOfItems .unscoped () is) is
  relation r := Refills ((r.graft empty).rewrite refill ()) (r.nodes .unscoped ()) r
  constraint c := Refills ((c.graft empty).rewrite refill ()) (c.nodes .unscoped ()) c
  join j := Refills ((j.graft empty).rewrite refill ()) (j.nodes .unscoped ()) j
  joins js := Refills (rewriteJoins refill () (graftJoins empty js)) (nodesOfJoins .unscoped () js) js
  source f := Refills ((f.graft empty).rewrite refill ()) (f.nodes .unscoped ()) f
  sources fs :=
    Refills (rewriteSources refill () (graftSources empty fs)) (nodesOfSources .unscoped () fs) fs
  select s := Refills ((s.graft empty).rewrite refill ()) (s.nodes .unscoped ()) s
  body b := Refills ((b.graft empty).rewrite refill ()) (b.nodes .unscoped ()) b
  order o := Refills ((o.graft empty).rewrite refill ()) (o.nodes .unscoped ()) o
  orders os := Refills (rewriteOrder refill () (graftOrder empty os)) (nodesOfOrder .unscoped () os) os
  cte c := Refills ((c.graft empty).rewrite refill ()) (c.nodes .unscoped ()) c
  ctes cs := Refills (rewriteCtes refill () (graftCtes empty cs)) (nodesOfCtes .unscoped () cs) cs
  query q := Refills ((q.graft empty).rewrite refill ()) (q.nodes .unscoped ()) q

theorem refilled_ascends : refilled.Ascends where
  leaf e he := by
    change Refills _ _ _
    rw [Expr.graft_leaf _ he, Expr.nodes_leaf _ he]
    exact fun rest => rfl
  binary op _ _ := Refills.map₂ (Expr.binary op)
  not _ := Refills.map Expr.not
  neg _ := Refills.map Expr.neg
  call f _ d := Refills.map (Expr.call f · d)
  case _ _ _ := Refills.map₃ Expr.case
  subquery _ := Refills.map Expr.subquery
  existential _ negated := Refills.map (Expr.exists · negated)
  inList _ _ negated := Refills.map₂ (Expr.inList · · negated)
  inQuery _ _ negated := Refills.map₂ (Expr.inQuery · · negated)
  between _ _ _ negated := Refills.map₃ (Expr.between · · · negated)
  isNull _ negated := Refills.map (Expr.isNull · negated)
  like _ _ negated := Refills.map₂ (Expr.like · · negated)
  cast _ type := Refills.map (Expr.cast · type)
  index _ _ := Refills.map₂ Expr.index
  array _ := Refills.map Expr.array
  paren _ := Refills.map Expr.paren
  exprsNil := .pure _
  exprsCons _ _ := Refills.map₂ List.cons
  optionNone := .pure _
  optionSome _ := Refills.map some
  branchesNil := .pure _
  branchesCons _ _ _ := Refills.map₃ fun c t bs => (c, t) :: bs
  item _ label := Refills.map (SelectItem.mk · label)
  itemsNil := .pure _
  itemsCons _ _ := Refills.map₂ List.cons
  table _ _ := fun rest => rfl
  derived _ label := Refills.map (Relation.derived · label)
  unnest _ label := Refills.map (Relation.unnest · label)
  on _ := Refills.map JoinConstraint.on
  usingColumns _ := .pure _
  unconstrained := .pure _
  join type _ _ := Refills.map₂ (Join.mk type)
  joinsNil := .pure _
  joinsCons _ _ := Refills.map₂ List.cons
  source _ _ := Refills.map₂ FromItem.mk
  sourcesNil := .pure _
  sourcesCons _ _ := Refills.map₂ List.cons
  select d _ _ _ _ _ hp hf hw hg hh :=
    hp.bind (hf.bind (hw.map₃ (Select.mk d _ _) hg hh))
  bodySelect _ := Refills.map Body.select
  setOp op all _ _ := Refills.map₂ (Body.setOp op all)
  bodyQuery _ := Refills.map Body.query
  order _ dir nulls := Refills.map (OrderItem.mk · dir nulls)
  ordersNil := .pure _
  ordersCons _ _ := Refills.map₂ List.cons
  cte name columns _ := Refills.map (Cte.mk name columns)
  ctesNil := .pure _
  ctesCons _ _ := Refills.map₂ List.cons
  query _ recursive _ _ _ _ hc hb ho hl hf :=
    hc.bind (hb.bind (ho.map₃ (Query.mk _ recursive _) hl hf))

theorem Query.refill_blank (q : Query) : (q.blank.rewrite refill ()).run q.leaves = (q, []) := by
  have filled := refilled_ascends.query_holds q []
  rw [List.append_nil] at filled
  exact filled

theorem Query.eq_of_blank_of_leaves {q q' : Query} (blank : q'.blank = q.blank)
    (leaves : q'.leaves = q.leaves) : q' = q := by
  have filled := q'.refill_blank
  rw [blank, leaves, q.refill_blank] at filled
  exact (congrArg Prod.fst filled).symm

theorem mapLeaves_laws (hg : ∀ e, e.isLeaf → (g e).isLeaf) (q : Query) :
    q.mapLeaves id = q ∧
    (q.mapLeaves g).mapLeaves h = q.mapLeaves (h ∘ g) ∧
    (q.mapLeaves g).leaves = q.leaves.map g ∧
    (q.mapLeaves g).blank = q.blank ∧
    (∀ q' : Query, q'.leaves = q.leaves.map g → q'.blank = q.blank → q' = q.mapLeaves g) ∧
    ∀ e : Expr, e.collectedColumns = e.leaves.filterMap Expr.column? ∧
      e.columnQualifiers = e.collectedColumns.map (·.1) := by
  refine ⟨q.mapLeaves_id, q.mapLeaves_mapLeaves hg, q.leaves_mapLeaves hg, q.blank_mapLeaves hg, ?only, ?columns⟩
  case only =>
    intro q' leaves blank
    have sameLeaves : q'.leaves = (q.mapLeaves g).leaves := leaves.trans (q.leaves_mapLeaves hg).symm
    have sameRest : q'.blank = (q.mapLeaves g).blank := blank.trans (q.blank_mapLeaves hg).symm
    exact Query.eq_of_blank_of_leaves sameRest sameLeaves
  case columns => exact fun e => ⟨e.collectedColumns_eq, e.columnQualifiers_eq_collected⟩

def bumpInt : Expr → Expr
  | .literal (.int n) => .literal (.int (n + 1))
  | e => e

/-- `SELECT a.id FROM a WHERE EXISTS (SELECT id FROM b WHERE x = 1) LIMIT 10` -/
def limitedExists : Query :=
  let inner : Query :=
    { ctes := [], recursive := false, orderBy := [], limit := none, offset := none,
      body := .select
        { distinct := false, projection := [⟨.column [] "id", none⟩],
          sources := [⟨.table ["b"] none, []⟩],
          selection := some (.binary .eq (.column [] "x") (.literal (.int 1))),
          groupBy := [], having := none } }
  { ctes := [], recursive := false, orderBy := [], limit := some (.literal (.int 10)), offset := none,
    body := .select
      { distinct := false, projection := [⟨.column ["a"] "id", none⟩],
        sources := [⟨.table ["a"] none, []⟩], selection := some (.exists inner false),
        groupBy := [], having := none } }

theorem mapLeaves_bumped : (∀ e, e.isLeaf → (bumpInt e).isLeaf) ∧
    (limitedExists.mapLeaves bumpInt).leaves =
      [.column ["a"] "id", .column [] "id", .column [] "x", .literal (.int 2), .literal (.int 11)] ∧
    (Expr.subquery limitedExists).collectedColumns = [(["a"], "id"), ([], "id"), ([], "x")] := by
  have leaf (e : Expr) (he : e.isLeaf) : (bumpInt e).isLeaf := by
    unfold bumpInt
    split
    · rfl
    · exact he
  obtain ⟨-, -, leaves, -, -, columns⟩ := mapLeaves_laws (h := id) leaf limitedExists
  exact ⟨leaf, leaves, (columns (.subquery limitedExists)).1⟩

end

end QueryBridge
