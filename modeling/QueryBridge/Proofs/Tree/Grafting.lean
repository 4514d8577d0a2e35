import Mathlib.Logic.Basic
import QueryBridge.Proofs.Tree.Induction
import QueryBridge.Tree.Traversal

set_option autoImplicit false

namespace QueryBridge

section

variable (g : Expr → Expr)

mutual

def Expr.graft : Expr → Expr
  | .column qualifier name => g (.column qualifier name)
  | .literal value => g (.literal value)
  | .keyword word => g (.keyword word)
  | .star qualifier => g (.star qualifier)
  | .unsupported detail => g (.unsupported detail)
  | .binary op left right => .binary op left.graft right.graft
  | .not e => .not e.graft
  | .neg e => .neg e.graft
  | .call f args distinct => .call f (graftExprs args) distinct
  | .case operand branches otherwise =>
    .case (graftOption operand) (graftBranches branches) (graftOption otherwise)
  | .subquery q => .subquery q.graft
  | .exists q negated => .exists q.graft negated
  | .inList e values negated => .inList e.graft (graftExprs values) negated
  | .inQuery e q negated => .inQuery e.graft q.graft negated
  | .between e low high negated => .between e.graft low.graft high.graft negated
  | .isNull e negated => .isNull e.graft negated
  | .like e pattern negated => .like e.graft pattern.graft negated
  | .cast e type => .cast e.graft type
  | .index array index => .index array.graft index.graft
  | .array items => .array (graftExprs items)
  | .paren inner => .paren inner.graft

def graftExprs : List Expr → List Expr
  | [] => []
  | e :: rest => e.graft :: graftExprs rest

def graftOption : Option Expr → Option Expr
  | none => none
  | some e => some e.graft

def graftBranches : List (Expr × Expr) → List (Expr × Expr)
  | [] => []
  | (condition, result) :: rest => (condition.graft, result.graft) :: graftBranches rest

def SelectItem.graft : SelectItem → SelectItem
  | ⟨e, label⟩ => ⟨e.graft, label⟩

def graftItems : List SelectItem → List SelectItem
  | [] => []
  | i :: rest => i.graft :: graftItems rest

def Relation.graft : Relation → Relation
  | .table path label => .table path label
  | .derived q label => .derived q.graft label
  | .unnest exprs label => .unnest (graftExprs exprs) label

def JoinConstraint.graft : JoinConstraint → JoinConstraint
  | .on e => .on e.graft
  | .using columns => .using columns
  | .none => .none

def Join.graft : Join → Join
  | ⟨type, relation, constraint⟩ => ⟨type, relation.graft, constraint.graft⟩

def graftJoins : List Join → List Join
  | [] => []
  | j :: rest => j.graft :: graftJoins rest

def FromItem.graft : FromItem → FromItem
  | ⟨relation, joins⟩ => ⟨relation.graft, graftJoins joins⟩

def graftSources : List FromItem → List FromItem
  | [] => []
  | i :: rest => i.graft :: graftSources rest

def Select.graft : Select → Select
  | ⟨distinct, projection, sources, selection, groupBy, having⟩ =>
    ⟨distinct, graftItems projection, graftSources sources, graftOption selection, graftExprs groupBy,
      graftOption having⟩

def Body.graft : Body → Body
  | .select s => .select s.graft
  | .setOp op all left right => .setOp op all left.graft right.graft
  | .query q => .query q.graft

def OrderItem.graft : OrderItem → OrderItem
  | ⟨e, dir, nulls⟩ => ⟨e.graft, dir, nulls⟩

def graftOrder : List OrderItem → List OrderItem
  | [] => []
  | o :: rest => o.graft :: graftOrder rest

def Cte.graft : Cte → Cte
  | ⟨name, columns, query⟩ => ⟨name, columns, query.graft⟩

def graftCtes : List Cte → List Cte
  | [] => []
  | c :: rest => c.graft :: graftCtes rest

def Query.graft : Query → Query
  | ⟨ctes, recursive, body, orderBy, limit, offset⟩ =>
    ⟨graftCtes ctes, recursive, body.graft, graftOrder orderBy, graftOption limit, graftOption offset⟩

end

theorem Expr.graft_leaf {e : Expr} (h : e.isLeaf) : e.graft g = g e := by
  cases e <;> first | rfl | cases h

end

/-- A tree of which only the leaves have been taken away. -/
def Query.blank (q : Query) : Query := q.graft fun _ => .literal .null

section

variable {g h : Expr → Expr}

def rewrittenByGraft (g : Expr → Expr) : PieceProperty where
  expr e := (e.rewrite (.leaves g) ()).run = e.graft g
  exprs es := (rewriteExprs (.leaves g) () es).run = graftExprs g es
  option o := (rewriteOption (.leaves g) () o).run = graftOption g o
  branches bs := (rewriteBranches (.leaves g) () bs).run = graftBranches g bs
  item i := (i.rewrite (.leaves g) ()).run = i.graft g
  items is := (rewriteItems (.leaves g) () is).run = graftItems g is
  relation r := (r.rewrite (.leaves g) ()).run = r.graft g
  constraint c := (c.rewrite (.leaves g) ()).run = c.graft g
  join j := (j.rewrite (.leaves g) ()).run = j.graft g
  joins js := (rewriteJoins (.leaves g) () js).run = graftJoins g js
  source f := (f.rewrite (.leaves g) ()).run = f.graft g
  sources fs := (rewriteSources (.leaves g) () fs).run = graftSources g fs
  select s := (s.rewrite (.leaves g) ()).run = s.graft g
  body b := (b.rewrite (.leaves g) ()).run = b.graft g
  order o := (o.rewrite (.leaves g) ()).run = o.graft g
  orders os := (rewriteOrder (.leaves g) () os).run = graftOrder g os
  cte c := (c.rewrite (.leaves g) ()).run = c.graft g
  ctes cs := (rewriteCtes (.leaves g) () cs).run = graftCtes g cs
  query q := (q.rewrite (.leaves g) ()).run = q.graft g

theorem rewrittenByGraft_ascends : (rewrittenByGraft g).Ascends where
  leaf e he := by cases e <;> first | rfl | cases he
  binary op _ _ := congrArg₂ (Expr.binary op)
  not _ := congrArg Expr.not
  neg _ := congrArg Expr.neg
  call f _ d := congrArg (Expr.call f · d)
  case _ _ _ ho hbs := congr (congrArg₂ Expr.case ho hbs)
  subquery _ := congrArg Expr.subquery
  existential _ negated := congrArg (Expr.exists · negated)
  inList _ _ negated := congrArg₂ (Expr.inList · · negated)
  inQuery _ _ negated := congrArg₂ (Expr.inQuery · · negated)
  between _ _ _ negated he hl := congr (congrArg₂ (fun e l u => Expr.between e l u negated) he hl)
  isNull _ negated := congrArg (Expr.isNull · negated)
  like _ _ negated := congrArg₂ (Expr.like · · negated)
  cast _ type := congrArg (Expr.cast · type)
  index _ _ := congrArg₂ Expr.index
  array _ := congrArg Expr.array
  paren _ := congrArg Expr.paren
  exprsNil := rfl
  exprsCons _ _ := congrArg₂ List.cons
  optionNone := rfl
  optionSome _ := congrArg some
  branchesNil := rfl
  branchesCons _ _ _ hc ht := congrArg₂ List.cons (congrArg₂ Prod.mk hc ht)
  item _ label := congrArg (SelectItem.mk · label)
  itemsNil := rfl
  itemsCons _ _ := congrArg₂ List.cons
  table _ _ := rfl
  derived _ label := congrArg (Relation.derived · label)
  unnest _ label := congrArg (Relation.unnest · label)
  on _ := congrArg JoinConstraint.on
  usingColumns _ := rfl
  unconstrained := rfl
  join type _ _ := congrArg₂ (Join.mk type)
  joinsNil := rfl
  joinsCons _ _ := congrArg₂ List.cons
  source _ _ := congrArg₂ FromItem.mk
  sourcesNil := rfl
  sourcesCons _ _ := congrArg₂ List.cons
  select d _ _ _ _ _ hp hf hw hg := congr (congr (congr (congrArg₂ (Select.mk d) hp hf) hw) hg)
  bodySelect _ := congrArg Body.select
  setOp op all _ _ := congrArg₂ (Body.setOp op all)
  bodyQuery _ := congrArg Body.query
  order _ dir nulls := congrArg (OrderItem.mk · dir nulls)
  ordersNil := rfl
  ordersCons _ _ := congrArg₂ List.cons
  cte name columns _ := congrArg (Cte.mk name columns)
  ctesNil := rfl
  ctesCons _ _ := congrArg₂ List.cons
  query _ recursive _ _ _ _ hc hd ho hl :=
    congr (congr (congr (congrArg₂ (Query.mk · recursive) hc hd) ho) hl)

theorem Query.mapLeaves_eq_graft (q : Query) : q.mapLeaves g = q.graft g :=
  rewrittenByGraft_ascends.query_holds q

def graftedTwice (g h : Expr → Expr) : PieceProperty where
  expr e := (e.graft g).graft h = e.graft (h ∘ g)
  exprs es := graftExprs h (graftExprs g es) = graftExprs (h ∘ g) es
  option o := graftOption h (graftOption g o) = graftOption (h ∘ g) o
  branches bs := graftBranches h (graftBranches g bs) = graftBranches (h ∘ g) bs
  item i := (i.graft g).graft h = i.graft (h ∘ g)
  items is := graftItems h (graftItems g is) = graftItems (h ∘ g) is
  relation r := (r.graft g).graft h = r.graft (h ∘ g)
  constraint c := (c.graft g).graft h = c.graft (h ∘ g)
  join j := (j.graft g).graft h = j.graft (h ∘ g)
  joins js := graftJoins h (graftJoins g js) = graftJoins (h ∘ g) js
  source f := (f.graft g).graft h = f.graft (h ∘ g)
  sources fs := graftSources h (graftSources g fs) = graftSources (h ∘ g) fs
  select s := (s.graft g).graft h = s.graft (h ∘ g)
  body b := (b.graft g).graft h = b.graft (h ∘ g)
  order o := (o.graft g).graft h = o.graft (h ∘ g)
  orders os := graftOrder h (graftOrder g os) = graftOrder (h ∘ g) os
  cte c := (c.graft g).graft h = c.graft (h ∘ g)
  ctes cs := graftCtes h (graftCtes g cs) = graftCtes (h ∘ g) cs
  query q := (q.graft g).graft h = q.graft (h ∘ g)

theorem graftedTwice_ascends (hg : ∀ e, e.isLeaf → (g e).isLeaf) : (graftedTwice g h).Ascends where
  leaf e he := by
    change (e.graft g).graft h = e.graft (h ∘ g)
    rw [Expr.graft_leaf g he, Expr.graft_leaf h (hg e he), Expr.graft_leaf (h ∘ g) he]
    rfl
  binary op _ _ := congrArg₂ (Expr.binary op)
  not _ := congrArg Expr.not
  neg _ := congrArg Expr.neg
  call f _ d := congrArg (Expr.call f · d)
  case _ _ _ ho hbs := congr (congrArg₂ Expr.case ho hbs)
  subquery _ := congrArg Expr.subquery
  existential _ negated := congrArg (Expr.exists · negated)
  inList _ _ negated := congrArg₂ (Expr.inList · · negated)
  inQuery _ _ negated := congrArg₂ (Expr.inQuery · · negated)
  between _ _ _ negated he hl := congr (congrArg₂ (fun e l u => Expr.between e l u negated) he hl)
  isNull _ negated := congrArg (Expr.isNull · negated)
  like _ _ negated := congrArg₂ (Expr.like · · negated)
  cast _ type := congrArg (Expr.cast · type)
  index _ _ := congrArg₂ Expr.index
  array _ := congrArg Expr.array
  paren _ := congrArg Expr.paren
  exprsNil := rfl
  exprsCons _ _ := congrArg₂ List.cons
  optionNone := rfl
  optionSome _ := congrArg some
  branchesNil := rfl
  branchesCons _ _ _ hc ht := congrArg₂ List.cons (congrArg₂ Prod.mk hc ht)
  item _ label := congrArg (SelectItem.mk · label)
  itemsNil := rfl
  itemsCons _ _ := congrArg₂ List.cons
  table _ _ := rfl
  derived _ label := congrArg (Relation.derived · label)
  unnest _ label := congrArg (Relation.unnest · label)
  on _ := congrArg JoinConstraint.on
  usingColumns _ := rfl
  unconstrained := rfl
  join type _ _ := congrArg₂ (Join.mk type)
  joinsNil := rfl
  joinsCons _ _ := congrArg₂ List.cons
  source _ _ := congrArg₂ FromItem.mk
  sourcesNil := rfl
  sourcesCons _ _ := congrArg₂ List.cons
  select d _ _ _ _ _ hp hf hw hg := congr (congr (congr (congrArg₂ (Select.mk d) hp hf) hw) hg)
  bodySelect _ := congrArg Body.select
  setOp op all _ _ := congrArg₂ (Body.setOp op all)
  bodyQuery _ := congrArg Body.query
  order _ dir nulls := congrArg (OrderItem.mk · dir nulls)
  ordersNil := rfl
  ordersCons _ _ := congrArg₂ List.cons
  cte name columns _ := congrArg (Cte.mk name columns)
  ctesNil := rfl
  ctesCons _ _ := congrArg₂ List.cons
  query _ recursive _ _ _ _ hc hd ho hl :=
    congr (congr (congr (congrArg₂ (Query.mk · recursive) hc hd) ho) hl)

theorem Query.graft_graft (hg : ∀ e, e.isLeaf → (g e).isLeaf) (q : Query) :
    (q.graft g).graft h = q.graft (h ∘ g) :=
  (graftedTwice_ascends hg).query_holds q

end

end QueryBridge
