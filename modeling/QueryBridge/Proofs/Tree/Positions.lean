import Mathlib.Data.List.Basic
import QueryBridge.Proofs.Tree.NodeLists

set_option autoImplicit false

/-! A position is the way to a piece of a tree: which child to go to, again and again. What stands at a
position is inside the SELECTs that the way leads through. A query that is a SELECT counts as one,
so its CTEs, ORDER BY and bounds are inside that SELECT too. -/

namespace QueryBridge

inductive Subtree where
  | expr (e : Expr)
  | relation (r : Relation)
  | select (s : Select)
  | body (b : Body)
  | query (q : Query)

def Expr.children : Expr → List Subtree
  | .binary _ left right | .like left right _ | .index left right => [.expr left, .expr right]
  | .not e | .neg e | .paren e | .isNull e _ | .cast e _ => [.expr e]
  | .call _ args _ | .array args => args.map .expr
  | .case operand branches otherwise =>
    operand.toList.map .expr ++ (branches.flatMap (fun branch => [.expr branch.1, .expr branch.2])
      ++ otherwise.toList.map .expr)
  | .subquery q | .exists q _ => [.query q]
  | .inList e values _ => .expr e :: values.map .expr
  | .inQuery e q _ => [.expr e, .query q]
  | .between e low high _ => [.expr e, .expr low, .expr high]
  | .column _ _ | .literal _ | .keyword _ | .star _ | .unsupported _ => []

def Relation.children : Relation → List Subtree
  | .table _ _ => []
  | .derived q _ => [.query q]
  | .unnest exprs _ => exprs.map .expr

def JoinConstraint.condition? : JoinConstraint → Option Expr
  | .on e => some e
  | _ => Option.none

def FromItem.children (item : FromItem) : List Subtree :=
  .relation item.relation :: item.joins.flatMap fun join =>
    .relation join.relation :: join.constraint.condition?.toList.map .expr

namespace Subtree

/-- The pieces right below a piece. Those of a FROM clause are right below its SELECT. -/
def children : Subtree → List Subtree
  | .expr e => e.children
  | .relation r => r.children
  | .select s =>
    s.projection.map (fun item => .expr item.expr) ++ (s.sources.flatMap FromItem.children
      ++ (s.selection.toList.map .expr ++ (s.groupBy.map .expr ++ s.having.toList.map .expr)))
  | .body (.select s) => [.select s]
  | .body (.setOp _ _ left right) => [.body left, .body right]
  | .body (.query q) => [.query q]
  | .query q =>
    q.ctes.map (fun cte => .query cte.query) ++ (.body q.body ::
      (q.orderBy.map (fun item => .expr item.expr)
        ++ (q.limit.toList.map .expr ++ q.offset.toList.map .expr)))

def at? (x : Subtree) : List Nat → Option Subtree
  | [] => some x
  | i :: path => x.children[i]?.bind fun y => y.at? path

theorem at?_cons_eq_some {x y : Subtree} {i : Nat} {path : List Nat} :
    x.at? (i :: path) = some y ↔ ∃ child, x.children[i]? = some child ∧ child.at? path = some y := by
  simp [at?, Option.bind_eq_some_iff]

/-- The SELECT that what stands below a piece is inside of. -/
def scope? : Subtree → Option Select
  | .select s => some s
  | .query q => q.select?
  | _ => none

def enclosing (x : Subtree) : List Nat → List Select
  | [] => []
  | i :: path => x.scope?.toList ++ (x.children[i]?.map fun y => y.enclosing path).getD []

section

variable {τ : Type} (v : Scoping τ) (env : τ)

def nodes : Subtree → List (Node τ)
  | .expr e => e.nodes v env
  | .relation r => r.nodes v env
  | .select s => s.nodes v env
  | .body b => b.nodes v env
  | .query q => q.nodes v env

def inside : Subtree → τ
  | .select s => v.enterSelect env s
  | .query q => v.enterQuery env q
  | _ => env

def surroundings (env : τ) (x : Subtree) : List Nat → τ
  | [] => env
  | i :: path => (x.children[i]?.map fun y => y.surroundings (x.inside v env) path).getD env

def own : Subtree → List (Node τ)
  | .expr e => if e.isLeaf then [.leaf env e] else []
  | .relation r => [.relation env r]
  | .select s => [.select (v.enterSelect env s) s]
  | .body _ => []
  | .query q => [.query (v.enterQuery env q) q]

end

end Subtree

section

variable {τ : Type} (v : Scoping τ) (env : τ)

theorem Expr.nodes_children (e : Expr) :
    e.nodes v env = (Subtree.expr e).own v env ++ e.children.flatMap (·.nodes v env) := by
  cases e <;>
    simp [Expr.nodes, Subtree.own, Expr.isLeaf, Expr.children, Subtree.nodes, nodesOfExprs_eq,
      nodesOfOption_eq, nodesOfBranches_eq, List.flatMap_map, List.flatMap_assoc]

theorem Relation.parts_children (r : Relation) : r.parts v env = r.children.flatMap (·.nodes v env) := by
  cases r <;> simp [Relation.parts, Relation.children, Subtree.nodes, nodesOfExprs_eq, List.flatMap_map]

theorem JoinConstraint.nodes_condition (c : JoinConstraint) :
    c.nodes v env = (c.condition?.toList.map Subtree.expr).flatMap (·.nodes v env) := by
  cases c <;> simp [JoinConstraint.nodes, condition?, Subtree.nodes]

theorem FromItem.nodes_children (f : FromItem) : f.nodes v env = f.children.flatMap (·.nodes v env) := by
  obtain ⟨relation, joins⟩ := f
  rw [FromItem.nodes, nodesOfJoins_eq, children, List.flatMap_cons, List.flatMap_assoc]
  refine congrArg (relation.nodes v env ++ ·) (List.flatMap_congr fun join _ => ?_)
  obtain ⟨type, relation, constraint⟩ := join
  rw [Join.nodes, constraint.nodes_condition, List.flatMap_cons]
  rfl

theorem SelectItem.nodes_expr (i : SelectItem) : i.nodes v env = i.expr.nodes v env := by
  cases i
  rfl

theorem OrderItem.nodes_expr (o : OrderItem) : o.nodes v env = o.expr.nodes v env := by
  cases o
  rfl

theorem Cte.nodes_query (c : Cte) : c.nodes v env = c.query.nodes v env := by
  cases c
  rfl

theorem Select.parts_children (s : Select) :
    s.parts v env = (Subtree.select s).children.flatMap (·.nodes v env) := by
  simp only [Select.parts, nodesOfItems_eq, nodesOfSources_eq, nodesOfOption_eq, nodesOfExprs_eq,
    SelectItem.nodes_expr, FromItem.nodes_children, Subtree.children, List.flatMap_append,
    List.flatMap_map, List.flatMap_assoc, Subtree.nodes]

theorem Query.parts_children (q : Query) :
    q.parts v env = (Subtree.query q).children.flatMap (·.nodes v env) := by
  simp only [Query.parts, nodesOfCtes_eq, nodesOfOrder_eq, nodesOfOption_eq, Cte.nodes_query,
    OrderItem.nodes_expr, Subtree.children, List.flatMap_append, List.flatMap_cons, List.flatMap_map,
    Subtree.nodes]

namespace Subtree

variable {v env}

theorem nodes_children (x : Subtree) :
    x.nodes v env = x.own v env ++ x.children.flatMap (·.nodes v (x.inside v env)) := by
  cases x with
  | expr e => exact e.nodes_children v env
  | relation r =>
    rw [nodes, Relation.nodes_eq, r.parts_children]
    rfl
  | select s =>
    rw [nodes, Select.nodes_eq, s.parts_children]
    rfl
  | body b => cases b <;> simp [nodes, Body.nodes, own, children, inside]
  | query q =>
    rw [nodes, Query.nodes_eq, q.parts_children]
    rfl

variable (v env) in
theorem nodes_at {x y : Subtree} {path : List Nat} (h : x.at? path = some y) :
    ∀ z ∈ y.nodes v (x.surroundings v env path), z ∈ x.nodes v env := by
  induction path generalizing x env with
  | nil =>
    cases h
    exact fun _ hz => hz
  | cons i path ih =>
    obtain ⟨child, hc, hy⟩ := at?_cons_eq_some.1 h
    intro z hz
    rw [surroundings, hc] at hz
    have below : z ∈ child.nodes v (x.inside v env) := ih _ hy z hz
    rw [nodes_children]
    exact List.mem_append_right _ (List.mem_flatMap.2 ⟨child, List.mem_of_getElem? hc, below⟩)

end Subtree

end

theorem Subtree.enclosing_mem_nodes {x y : Subtree} {path : List Nat} (h : x.at? path = some y) {s : Select}
    (hs : s ∈ x.enclosing path) : .select () s ∈ x.nodes .unscoped () := by
  induction path generalizing x with
  | nil => cases hs
  | cons i path ih =>
    obtain ⟨child, hc, hy⟩ := at?_cons_eq_some.1 h
    rw [enclosing, hc, List.mem_append] at hs
    rcases hs with own | below
    -- A query counts as its own SELECT, so that its clauses are inside of it too.
    · cases x with
      | select s' =>
        obtain rfl : s = s' := by simpa [scope?] using own
        rw [nodes, Select.nodes_eq]
        exact List.mem_cons_self
      | query q =>
        have body : q.body = .select s := by
          have found : q.select? = some s := by simpa [scope?] using own
          unfold Query.select? at found
          split at found
          · rename_i s' same
            rw [same, Option.some.inj found]
          · cases found
        simp [nodes, Query.nodes_eq, Query.parts, body, Body.nodes, Select.nodes_eq]
      | _ => simp [scope?] at own
    · rw [nodes_children]
      exact List.mem_append_right _ (List.mem_flatMap.2 ⟨child, List.mem_of_getElem? hc, ih hy below⟩)

theorem Subtree.sizeOf_exprs {es : List Expr} {y : Subtree} (h : y ∈ es.map Subtree.expr) :
    sizeOf y ≤ sizeOf es := by
  obtain ⟨e, he, rfl⟩ := List.mem_map.1 h
  have smaller := List.sizeOf_lt_of_mem he
  rw [expr.sizeOf_spec]
  omega

theorem Subtree.sizeOf_option {o : Option Expr} {y : Subtree} (h : y ∈ o.toList.map Subtree.expr) :
    sizeOf y ≤ sizeOf o := by
  cases o with
  | none => cases h
  | some e =>
    obtain rfl := List.mem_singleton.1 h
    exact Nat.le_refl _

theorem Expr.sizeOf_children {e : Expr} {y : Subtree} (h : y ∈ e.children) :
    sizeOf y < sizeOf (Subtree.expr e) := by
  cases e with
  | column | literal | keyword | star | unsupported => cases h
  | not | neg | isNull | cast | paren | subquery | «exists» =>
    obtain rfl := List.mem_singleton.1 h
    simp <;> omega
  | binary | like | index | inQuery | between =>
    simp only [children, List.mem_cons, List.not_mem_nil, or_false] at h
    rcases h with rfl | rfl | rfl <;> simp <;> omega
  | call _ args | array args =>
    have smaller := Subtree.sizeOf_exprs h
    simp
    omega
  | inList e values =>
    rcases List.mem_cons.1 h with rfl | hv
    · simp
      omega
    · have smaller := Subtree.sizeOf_exprs hv
      simp
      omega
  | case operand branches otherwise =>
    simp only [children, List.mem_append, List.mem_flatMap] at h
    rcases h with operand | ⟨⟨c, t⟩, hb, branch⟩ | otherwise
    · have smaller := Subtree.sizeOf_option operand
      simp
      omega
    · have smaller := List.sizeOf_lt_of_mem hb
      simp only [List.mem_cons, List.not_mem_nil, or_false] at branch
      rcases branch with rfl | rfl <;> simp at smaller ⊢ <;> omega
    · have smaller := Subtree.sizeOf_option otherwise
      simp
      omega

theorem JoinConstraint.sizeOf_condition {c : JoinConstraint} {y : Subtree}
    (h : y ∈ c.condition?.toList.map Subtree.expr) : sizeOf y ≤ sizeOf c := by
  cases c with
  | on e =>
    obtain rfl := List.mem_singleton.1 h
    exact Nat.le_refl _
  | _ => cases h

theorem FromItem.sizeOf_children {f : FromItem} {y : Subtree} (h : y ∈ f.children) : sizeOf y < 1 + sizeOf f := by
  obtain ⟨relation, joins⟩ := f
  rcases List.mem_cons.1 h with rfl | joined
  · simp
    omega
  · obtain ⟨⟨type, r, c⟩, hj, part⟩ := List.mem_flatMap.1 joined
    have smaller := List.sizeOf_lt_of_mem hj
    rcases List.mem_cons.1 part with rfl | condition
    · simp at smaller ⊢
      omega
    · have inside := c.sizeOf_condition condition
      simp at smaller ⊢
      omega

theorem Relation.sizeOf_children {r : Relation} {y : Subtree} (h : y ∈ r.children) :
    sizeOf y < sizeOf (Subtree.relation r) := by
  cases r with
  | table => cases h
  | derived q label =>
    obtain rfl := List.mem_singleton.1 h
    simp
    omega
  | unnest es label =>
    have smaller := Subtree.sizeOf_exprs h
    simp
    omega

theorem Select.sizeOf_children {s : Select} {y : Subtree} (h : y ∈ (Subtree.select s).children) :
    sizeOf y < sizeOf (Subtree.select s) := by
  obtain ⟨distinct, projection, sources, selection, groupBy, having⟩ := s
  simp only [Subtree.children, List.mem_append] at h
  rcases h with items | clauses | where_ | keys | having_
  · obtain ⟨⟨e, label⟩, hi, rfl⟩ := List.mem_map.1 items
    have smaller := List.sizeOf_lt_of_mem hi
    simp at smaller ⊢
    omega
  · obtain ⟨f, hf, below⟩ := List.mem_flatMap.1 clauses
    have smaller := List.sizeOf_lt_of_mem hf
    have inside := f.sizeOf_children below
    simp
    omega
  · have smaller := Subtree.sizeOf_option where_
    simp
    omega
  · have smaller := Subtree.sizeOf_exprs keys
    simp
    omega
  · have smaller := Subtree.sizeOf_option having_
    simp
    omega

theorem Query.sizeOf_children {q : Query} {y : Subtree} (h : y ∈ (Subtree.query q).children) :
    sizeOf y < sizeOf (Subtree.query q) := by
  obtain ⟨ctes, recursive, body, orderBy, limit, offset⟩ := q
  simp only [Subtree.children, List.mem_append, List.mem_cons] at h
  rcases h with named | rfl | keys | bound | skipped
  · obtain ⟨⟨name, columns, q⟩, hc, rfl⟩ := List.mem_map.1 named
    have smaller := List.sizeOf_lt_of_mem hc
    simp at smaller ⊢
    omega
  · simp
    omega
  · obtain ⟨⟨e, dir, nulls⟩, ho, rfl⟩ := List.mem_map.1 keys
    have smaller := List.sizeOf_lt_of_mem ho
    simp at smaller ⊢
    omega
  · have smaller := Subtree.sizeOf_option bound
    simp
    omega
  · have smaller := Subtree.sizeOf_option skipped
    simp
    omega

theorem Subtree.sizeOf_children {x y : Subtree} (h : y ∈ x.children) : sizeOf y < sizeOf x := by
  cases x with
  | expr e => exact e.sizeOf_children h
  | relation r => exact r.sizeOf_children h
  | select s => exact s.sizeOf_children h
  | query q => exact q.sizeOf_children h
  | body b =>
    cases b with
    | setOp op all left right =>
      simp only [children, List.mem_cons, List.not_mem_nil, or_false] at h
      rcases h with rfl | rfl <;> simp only [body.sizeOf_spec, Body.setOp.sizeOf_spec] <;> omega
    | _ =>
      obtain rfl := List.mem_singleton.1 h
      simp

@[elab_as_elim]
theorem Subtree.children_induction {P : Subtree → Prop} (ascends : ∀ x : Subtree, (∀ y ∈ x.children, P y) → P x)
    (x : Subtree) : P x :=
  ascends x fun y _ => children_induction ascends y
termination_by sizeOf x
decreasing_by exact sizeOf_children ‹_›

section

variable {τ : Type} {v : Scoping τ} {env : τ}

theorem Subtree.position_of_leaf {x : Subtree} {t : τ} {e : Expr} (h : .leaf t e ∈ x.nodes v env) :
    ∃ path, x.at? path = some (.expr e) ∧ t = x.surroundings v env path := by
  induction x using children_induction generalizing env with
  | ascends x ih =>
    rw [nodes_children, List.mem_append, List.mem_flatMap] at h
    rcases h with own | ⟨child, hc, below⟩
    · cases x with
      | expr e' =>
        rw [Subtree.own] at own
        split at own
        · cases List.mem_singleton.1 own
          exact ⟨[], rfl, rfl⟩
        · cases own
      | _ => simp [Subtree.own] at own
    · obtain ⟨path, at_path, same⟩ := ih child hc below
      obtain ⟨i, hi⟩ := List.getElem?_of_mem hc
      refine ⟨i :: path, at?_cons_eq_some.2 ⟨child, hi, at_path⟩, ?_⟩
      rw [surroundings, hi]
      exact same

end

section

variable {α : Type} {g : List FromItem → List α} {env : List α}

/-- What all FROM clauses around have to offer. -/
def Scoping.collecting (g : List FromItem → List α) : Scoping (List α) where
  enterQuery env q := env ++ (q.select?.map fun s => g s.sources).getD []
  enterSelect env s := env ++ g s.sources

theorem collecting_seesSources : (Scoping.collecting g).SeesSources where
  select t s s' same := congrArg (t ++ g ·) same
  query t q q' same := by
    have offers (q : Query) : (q.select?.map fun s => g s.sources) = (q.select?.map (·.sources)).map g := by
      rw [Option.map_map]
      rfl
    simp only [Scoping.collecting, offers, same]

namespace Subtree

theorem inside_collecting (x : Subtree) :
    x.inside (.collecting g) env = env ++ x.scope?.toList.flatMap fun s => g s.sources := by
  cases x with
  | select s => simp [inside, scope?, Scoping.collecting]
  | query q => cases hs : q.select? <;> simp [inside, scope?, Scoping.collecting, hs]
  | _ => simp [inside, scope?]

theorem surroundings_collecting {x y : Subtree} {path : List Nat} (h : x.at? path = some y) :
    x.surroundings (.collecting g) env path = env ++ (x.enclosing path).flatMap fun s => g s.sources := by
  induction path generalizing x env with
  | nil => simp [surroundings, enclosing]
  | cons i path ih =>
    obtain ⟨child, hc, hy⟩ := at?_cons_eq_some.1 h
    rw [surroundings, enclosing, hc, Option.map_some, Option.getD_some, Option.map_some, Option.getD_some,
      ih hy, inside_collecting, List.flatMap_append, List.append_assoc]

variable (g env) in
theorem leaf_at {x : Subtree} {path : List Nat} {e : Expr} (h : x.at? path = some (.expr e)) (he : e.isLeaf) :
    .leaf (env ++ (x.enclosing path).flatMap fun s => g s.sources) e ∈ x.nodes (.collecting g) env := by
  refine nodes_at _ _ h _ ?_
  rw [surroundings_collecting h, nodes, Expr.nodes_leaf _ he]
  exact List.mem_cons_self

theorem position_collecting {x : Subtree} {t : List α} {e : Expr}
    (h : .leaf t e ∈ x.nodes (.collecting g) env) :
    ∃ path, x.at? path = some (.expr e) ∧ t = env ++ (x.enclosing path).flatMap fun s => g s.sources := by
  obtain ⟨path, at_path, same⟩ := position_of_leaf h
  exact ⟨path, at_path, same.trans (surroundings_collecting at_path)⟩

end Subtree

end

section

variable {ρ : Type}

def Rewrite.leavesIn (v : Scoping ρ) (f : ρ → Expr → Expr) : Rewrite Id ρ :=
  { Rewrite.identity Id v with leaf := fun env e => f env e }

section

variable (r : Rewrite Id ρ) (env : ρ)

theorem rewriteExprs_run (es : List Expr) :
    (rewriteExprs r env es).run = es.map fun e => (e.rewrite r env).run := by
  induction es with
  | nil => rfl
  | cons e es ih => exact congrArg ((e.rewrite r env).run :: ·) ih

theorem rewriteOption_run (o : Option Expr) :
    (rewriteOption r env o).run = o.map fun e => (e.rewrite r env).run := by
  cases o <;> rfl

theorem rewriteBranches_run (bs : List (Expr × Expr)) : (rewriteBranches r env bs).run =
    bs.map fun b => ((b.1.rewrite r env).run, (b.2.rewrite r env).run) := by
  induction bs with
  | nil => rfl
  | cons b bs ih => exact congrArg (((b.1.rewrite r env).run, (b.2.rewrite r env).run) :: ·) ih

theorem rewriteItems_run (is : List SelectItem) :
    (rewriteItems r env is).run = is.map fun i => ⟨(i.expr.rewrite r env).run, i.label⟩ := by
  induction is with
  | nil => rfl
  | cons i is ih =>
    obtain ⟨e, label⟩ := i
    exact congrArg (⟨(e.rewrite r env).run, label⟩ :: ·) ih

theorem rewriteJoins_run (js : List Join) :
    (rewriteJoins r env js).run = js.map fun j => (j.rewrite r env).run := by
  induction js with
  | nil => rfl
  | cons j js ih => exact congrArg ((j.rewrite r env).run :: ·) ih

theorem rewriteSources_run (fs : List FromItem) :
    (rewriteSources r env fs).run = fs.map fun f => (f.rewrite r env).run := by
  induction fs with
  | nil => rfl
  | cons f fs ih => exact congrArg ((f.rewrite r env).run :: ·) ih

theorem rewriteOrder_run (os : List OrderItem) :
    (rewriteOrder r env os).run = os.map fun o => ⟨(o.expr.rewrite r env).run, o.dir, o.nulls⟩ := by
  induction os with
  | nil => rfl
  | cons o os ih =>
    obtain ⟨e, dir, nulls⟩ := o
    exact congrArg (⟨(e.rewrite r env).run, dir, nulls⟩ :: ·) ih

theorem rewriteCtes_run (cs : List Cte) :
    (rewriteCtes r env cs).run = cs.map fun c => ⟨c.name, c.columns, (c.query.rewrite r env).run⟩ := by
  induction cs with
  | nil => rfl
  | cons c cs ih =>
    obtain ⟨name, columns, q⟩ := c
    exact congrArg (⟨name, columns, (q.rewrite r env).run⟩ :: ·) ih

end

def Subtree.rewrite (r : Rewrite Id ρ) (env : ρ) : Subtree → Subtree
  | .expr e => .expr (e.rewrite r env).run
  | .relation a => .relation (a.rewrite r env).run
  | .select s => .select (s.rewrite r env).run
  | .body b => .body (b.rewrite r env).run
  | .query q => .query (q.rewrite r env).run

section

variable {v : Scoping ρ} {f : ρ → Expr → Expr} (env : ρ)

theorem Expr.children_leaf {e : Expr} (h : e.isLeaf) : e.children = [] := by
  cases e <;> first | rfl | cases h

theorem Relation.children_rewrite (a : Relation) : (a.rewrite (.leavesIn v f) env).run.children =
    a.children.map (·.rewrite (.leavesIn v f) env) := by
  cases a with
  | unnest exprs label =>
    change (rewriteExprs (.leavesIn v f) env exprs).run.map Subtree.expr = _
    rw [rewriteExprs_run, List.map_map, children, List.map_map]
    rfl
  | _ => rfl

theorem FromItem.children_rewrite (a : FromItem) : (a.rewrite (.leavesIn v f) env).run.children =
    a.children.map (·.rewrite (.leavesIn v f) env) := by
  obtain ⟨relation, joins⟩ := a
  change _ :: (rewriteJoins (.leavesIn v f) env joins).run.flatMap _ = _
  rw [rewriteJoins_run, List.flatMap_map, children, List.map_cons, List.map_flatMap]
  refine congrArg (_ :: ·) (List.flatMap_congr fun join _ => ?_)
  obtain ⟨type, relation, constraint⟩ := join
  cases constraint <;> rfl

theorem Select.rewrite_leavesIn (s : Select) :
    let r := Rewrite.leavesIn v f
    let inner := v.enterSelect env s
    (s.rewrite r env).run =
      ⟨s.distinct, s.projection.map fun i => ⟨(i.expr.rewrite r inner).run, i.label⟩,
        s.sources.map fun i => (i.rewrite r inner).run, s.selection.map fun e => (e.rewrite r inner).run,
        s.groupBy.map fun e => (e.rewrite r inner).run, s.having.map fun e => (e.rewrite r inner).run⟩ := by
  cases s
  simp only [← rewriteItems_run, ← rewriteSources_run, ← rewriteOption_run, ← rewriteExprs_run]
  rfl

theorem Query.rewrite_leavesIn (q : Query) :
    let r := Rewrite.leavesIn v f
    let inner := v.enterQuery env q
    (q.rewrite r env).run =
      ⟨q.ctes.map fun c => ⟨c.name, c.columns, (c.query.rewrite r inner).run⟩, q.recursive,
        (q.body.rewrite r inner).run,
        q.orderBy.map fun o => ⟨(o.expr.rewrite r inner).run, o.dir, o.nulls⟩,
        q.limit.map fun e => (e.rewrite r inner).run, q.offset.map fun e => (e.rewrite r inner).run⟩ := by
  cases q
  simp only [← rewriteCtes_run, ← rewriteOrder_run, ← rewriteOption_run]
  rfl

variable (leaves : ∀ env e, e.isLeaf → (f env e).isLeaf)

include leaves

theorem Expr.children_rewrite (e : Expr) : (e.rewrite (.leavesIn v f) env).run.children =
    e.children.map (·.rewrite (.leavesIn v f) env) := by
  cases e with
  | column | literal | keyword | star | unsupported => exact children_leaf (leaves env _ rfl)
  | case operand branches otherwise =>
    have pair (b : Expr × Expr) : [Subtree.expr b.1, .expr b.2].map (·.rewrite (.leavesIn v f) env) =
        [.expr (b.1.rewrite (.leavesIn v f) env).run, .expr (b.2.rewrite (.leavesIn v f) env).run] := rfl
    simp only [rewrite, children, Id.run_bind, Id.run_pure, rewriteOption_run, rewriteBranches_run,
      List.map_append, List.map_flatMap, List.flatMap_map, pair, Option.toList_map, List.map_map]
    rfl
  | _ => simp [rewrite, children, Subtree.rewrite, rewriteExprs_run]

namespace Subtree

theorem children_rewrite (x : Subtree) : (x.rewrite (.leavesIn v f) env).children =
    x.children.map (·.rewrite (.leavesIn v f) (x.inside v env)) := by
  cases x with
  | expr e => exact e.children_rewrite env leaves
  | relation a => exact a.children_rewrite env
  | select s =>
    change (Subtree.select (s.rewrite (.leavesIn v f) env).run).children = _
    rw [Select.rewrite_leavesIn]
    simp only [children, List.map_append, List.map_map, List.flatMap_map, List.map_flatMap,
      FromItem.children_rewrite, Option.toList_map]
    rfl
  | body b => cases b <;> rfl
  | query q =>
    change (Subtree.query (q.rewrite (.leavesIn v f) env).run).children = _
    rw [Query.rewrite_leavesIn]
    simp only [children, List.map_append, List.map_cons, List.map_map, Option.toList_map]
    rfl

/-- What stands at a position after the rewrite is what stood there, rewritten. -/
theorem at_rewrite (x : Subtree) (path : List Nat) : (x.rewrite (.leavesIn v f) env).at? path =
    (x.at? path).map fun y => y.rewrite (.leavesIn v f) (x.surroundings v env path) := by
  induction path generalizing x env with
  | nil => rfl
  | cons i path ih =>
    rw [at?, at?, children_rewrite _ leaves, List.getElem?_map]
    cases hc : x.children[i]? with
    | none => rfl
    | some child =>
      rw [Option.map_some, Option.bind_some, Option.bind_some, ih, surroundings, hc]
      rfl

end Subtree

end

end

end QueryBridge
