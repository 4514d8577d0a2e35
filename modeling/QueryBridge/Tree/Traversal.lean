import QueryBridge.Tree.Basic

set_option autoImplicit false

/-! One walk over a tree serves every rewrite and every search. It goes from left to right through the
clauses: of a query CTEs, body, ORDER BY, LIMIT and OFFSET; of a SELECT the projection, FROM, WHERE,
GROUP BY and HAVING. What is known of the surroundings is handed down, and a query's surroundings
reach its CTEs and ORDER BY too. -/

namespace QueryBridge

/-- What is known of the surroundings below a query and below a SELECT. -/
structure Scoping (ρ : Type) where
  enterQuery : ρ → Query → ρ
  enterSelect : ρ → Select → ρ

/-- What a rewrite does with leaves and with nodes whose parts are rewritten. -/
structure Rewrite (m : Type → Type) (ρ : Type) extends Scoping ρ where
  leaf : ρ → Expr → m Expr
  /-- The surroundings inside the query, the query before, and the query with its parts rewritten. -/
  leaveQuery : ρ → Query → Query → m Query
  leaveSelect : ρ → Select → m Select
  leaveRelation : ρ → Relation → m Relation

section

variable {m : Type → Type} [Monad m] {ρ : Type}

mutual

def Expr.rewrite (r : Rewrite m ρ) (env : ρ) : Expr → m Expr
  | .binary op left right => return .binary op (← left.rewrite r env) (← right.rewrite r env)
  | .not e => return .not (← e.rewrite r env)
  | .neg e => return .neg (← e.rewrite r env)
  | .call f args distinct => return .call f (← rewriteExprs r env args) distinct
  | .case operand branches otherwise => do
    let o ← rewriteOption r env operand
    let b ← rewriteBranches r env branches
    return .case o b (← rewriteOption r env otherwise)
  | .subquery q => return .subquery (← q.rewrite r env)
  | .exists q negated => return .exists (← q.rewrite r env) negated
  | .inList e values negated => return .inList (← e.rewrite r env) (← rewriteExprs r env values) negated
  | .inQuery e q negated => return .inQuery (← e.rewrite r env) (← q.rewrite r env) negated
  | .between e low high negated =>
    return .between (← e.rewrite r env) (← low.rewrite r env) (← high.rewrite r env) negated
  | .isNull e negated => return .isNull (← e.rewrite r env) negated
  | .like e pattern negated => return .like (← e.rewrite r env) (← pattern.rewrite r env) negated
  | .cast e type => return .cast (← e.rewrite r env) type
  | .index array index => return .index (← array.rewrite r env) (← index.rewrite r env)
  | .array items => return .array (← rewriteExprs r env items)
  | .paren inner => return .paren (← inner.rewrite r env)
  | .column qualifier name => r.leaf env (.column qualifier name)
  | .literal value => r.leaf env (.literal value)
  | .keyword word => r.leaf env (.keyword word)
  | .star qualifier => r.leaf env (.star qualifier)
  | .unsupported detail => r.leaf env (.unsupported detail)

def rewriteExprs (r : Rewrite m ρ) (env : ρ) : List Expr → m (List Expr)
  | [] => return []
  | e :: rest => return (← e.rewrite r env) :: (← rewriteExprs r env rest)

def rewriteOption (r : Rewrite m ρ) (env : ρ) : Option Expr → m (Option Expr)
  | none => return none
  | some e => return some (← e.rewrite r env)

def rewriteBranches (r : Rewrite m ρ) (env : ρ) : List (Expr × Expr) → m (List (Expr × Expr))
  | [] => return []
  | (condition, result) :: rest => do
    let c ← condition.rewrite r env
    let t ← result.rewrite r env
    return (c, t) :: (← rewriteBranches r env rest)

def SelectItem.rewrite (r : Rewrite m ρ) (env : ρ) : SelectItem → m SelectItem
  | ⟨e, label⟩ => return ⟨← e.rewrite r env, label⟩

def rewriteItems (r : Rewrite m ρ) (env : ρ) : List SelectItem → m (List SelectItem)
  | [] => return []
  | i :: rest => return (← i.rewrite r env) :: (← rewriteItems r env rest)

def Relation.rewrite (r : Rewrite m ρ) (env : ρ) : Relation → m Relation
  | .table path label => r.leaveRelation env (.table path label)
  | .derived q label => do r.leaveRelation env (.derived (← q.rewrite r env) label)
  | .unnest exprs label => do r.leaveRelation env (.unnest (← rewriteExprs r env exprs) label)

def JoinConstraint.rewrite (r : Rewrite m ρ) (env : ρ) : JoinConstraint → m JoinConstraint
  | .on e => return .on (← e.rewrite r env)
  | .using columns => return .using columns
  | .none => return .none

def Join.rewrite (r : Rewrite m ρ) (env : ρ) : Join → m Join
  | ⟨type, relation, constraint⟩ =>
    return ⟨type, ← relation.rewrite r env, ← constraint.rewrite r env⟩

def rewriteJoins (r : Rewrite m ρ) (env : ρ) : List Join → m (List Join)
  | [] => return []
  | j :: rest => return (← j.rewrite r env) :: (← rewriteJoins r env rest)

def FromItem.rewrite (r : Rewrite m ρ) (env : ρ) : FromItem → m FromItem
  | ⟨relation, joins⟩ => return ⟨← relation.rewrite r env, ← rewriteJoins r env joins⟩

def rewriteSources (r : Rewrite m ρ) (env : ρ) : List FromItem → m (List FromItem)
  | [] => return []
  | s :: rest => return (← s.rewrite r env) :: (← rewriteSources r env rest)

def Select.rewrite (r : Rewrite m ρ) (env : ρ) : Select → m Select
  | ⟨distinct, projection, sources, selection, groupBy, having⟩ => do
    let inner := r.enterSelect env ⟨distinct, projection, sources, selection, groupBy, having⟩
    let p ← rewriteItems r inner projection
    let f ← rewriteSources r inner sources
    let w ← rewriteOption r inner selection
    let g ← rewriteExprs r inner groupBy
    let h ← rewriteOption r inner having
    r.leaveSelect inner ⟨distinct, p, f, w, g, h⟩

def Body.rewrite (r : Rewrite m ρ) (env : ρ) : Body → m Body
  | .select s => return .select (← s.rewrite r env)
  | .setOp op all left right => return .setOp op all (← left.rewrite r env) (← right.rewrite r env)
  | .query q => return .query (← q.rewrite r env)

def OrderItem.rewrite (r : Rewrite m ρ) (env : ρ) : OrderItem → m OrderItem
  | ⟨e, dir, nulls⟩ => return ⟨← e.rewrite r env, dir, nulls⟩

def rewriteOrder (r : Rewrite m ρ) (env : ρ) : List OrderItem → m (List OrderItem)
  | [] => return []
  | o :: rest => return (← o.rewrite r env) :: (← rewriteOrder r env rest)

def Cte.rewrite (r : Rewrite m ρ) (env : ρ) : Cte → m Cte
  | ⟨name, columns, query⟩ => return ⟨name, columns, ← query.rewrite r env⟩

def rewriteCtes (r : Rewrite m ρ) (env : ρ) : List Cte → m (List Cte)
  | [] => return []
  | c :: rest => return (← c.rewrite r env) :: (← rewriteCtes r env rest)

def Query.rewrite (r : Rewrite m ρ) (env : ρ) : Query → m Query
  | ⟨ctes, recursive, body, orderBy, limit, offset⟩ => do
    let before := ⟨ctes, recursive, body, orderBy, limit, offset⟩
    let inner := r.enterQuery env before
    let c ← rewriteCtes r inner ctes
    let b ← body.rewrite r inner
    let o ← rewriteOrder r inner orderBy
    let l ← rewriteOption r inner limit
    let f ← rewriteOption r inner offset
    r.leaveQuery inner before ⟨c, recursive, b, o, l, f⟩

end

end

/-- Changes nothing; rewrites name only the hooks that they need. -/
def Rewrite.identity {ρ : Type} (m : Type → Type) [Monad m] (s : Scoping ρ) : Rewrite m ρ where
  toScoping := s
  leaf _ e := return e
  leaveQuery _ _ q := return q
  leaveSelect _ s := return s
  leaveRelation _ r := return r

def Scoping.unscoped : Scoping Unit := ⟨fun _ _ => (), fun _ _ => ()⟩

def Rewrite.leaves (f : Expr → Expr) : Rewrite Id Unit :=
  { Rewrite.identity Id .unscoped with leaf := fun _ e => f e }

def Query.mapLeaves (f : Expr → Expr) (q : Query) : Query := q.rewrite (.leaves f) ()

end QueryBridge
