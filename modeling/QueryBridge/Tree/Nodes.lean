import QueryBridge.Tree.Traversal

set_option autoImplicit false

namespace QueryBridge

inductive Node (ρ : Type) where
  | leaf (env : ρ) (e : Expr)
  | relation (env : ρ) (r : Relation)
  | select (env : ρ) (s : Select)
  | query (env : ρ) (q : Query)

section

variable {ρ : Type}

mutual

def Expr.nodes (v : Scoping ρ) (env : ρ) : Expr → List (Node ρ)
  | .binary _ left right => left.nodes v env ++ right.nodes v env
  | .not e | .neg e | .paren e | .isNull e _ | .cast e _ => e.nodes v env
  | .call _ args _ => nodesOfExprs v env args
  | .case operand branches otherwise =>
    nodesOfOption v env operand ++ (nodesOfBranches v env branches ++ nodesOfOption v env otherwise)
  | .subquery q | .exists q _ => q.nodes v env
  | .inList e values _ => e.nodes v env ++ nodesOfExprs v env values
  | .inQuery e q _ => e.nodes v env ++ q.nodes v env
  | .between e low high _ => e.nodes v env ++ (low.nodes v env ++ high.nodes v env)
  | .like e pattern _ => e.nodes v env ++ pattern.nodes v env
  | .index array index => array.nodes v env ++ index.nodes v env
  | .array items => nodesOfExprs v env items
  | .column qualifier name => [.leaf env (.column qualifier name)]
  | .literal value => [.leaf env (.literal value)]
  | .keyword word => [.leaf env (.keyword word)]
  | .star qualifier => [.leaf env (.star qualifier)]
  | .unsupported detail => [.leaf env (.unsupported detail)]

def nodesOfExprs (v : Scoping ρ) (env : ρ) : List Expr → List (Node ρ)
  | [] => []
  | e :: rest => e.nodes v env ++ nodesOfExprs v env rest

def nodesOfOption (v : Scoping ρ) (env : ρ) : Option Expr → List (Node ρ)
  | none => []
  | some e => e.nodes v env

def nodesOfBranches (v : Scoping ρ) (env : ρ) : List (Expr × Expr) → List (Node ρ)
  | [] => []
  | (condition, result) :: rest =>
    condition.nodes v env ++ (result.nodes v env ++ nodesOfBranches v env rest)

def SelectItem.nodes (v : Scoping ρ) (env : ρ) : SelectItem → List (Node ρ)
  | ⟨e, _⟩ => e.nodes v env

def nodesOfItems (v : Scoping ρ) (env : ρ) : List SelectItem → List (Node ρ)
  | [] => []
  | i :: rest => i.nodes v env ++ nodesOfItems v env rest

def Relation.nodes (v : Scoping ρ) (env : ρ) : Relation → List (Node ρ)
  | .table path label => [.relation env (.table path label)]
  | .derived q label => .relation env (.derived q label) :: q.nodes v env
  | .unnest exprs label => .relation env (.unnest exprs label) :: nodesOfExprs v env exprs

def JoinConstraint.nodes (v : Scoping ρ) (env : ρ) : JoinConstraint → List (Node ρ)
  | .on e => e.nodes v env
  | .using _ | .none => []

def Join.nodes (v : Scoping ρ) (env : ρ) : Join → List (Node ρ)
  | ⟨_, relation, constraint⟩ => relation.nodes v env ++ constraint.nodes v env

def nodesOfJoins (v : Scoping ρ) (env : ρ) : List Join → List (Node ρ)
  | [] => []
  | j :: rest => j.nodes v env ++ nodesOfJoins v env rest

def FromItem.nodes (v : Scoping ρ) (env : ρ) : FromItem → List (Node ρ)
  | ⟨relation, joins⟩ => relation.nodes v env ++ nodesOfJoins v env joins

def nodesOfSources (v : Scoping ρ) (env : ρ) : List FromItem → List (Node ρ)
  | [] => []
  | i :: rest => i.nodes v env ++ nodesOfSources v env rest

def Select.nodes (v : Scoping ρ) (env : ρ) : Select → List (Node ρ)
  | ⟨distinct, projection, sources, selection, groupBy, having⟩ =>
    let inner := v.enterSelect env ⟨distinct, projection, sources, selection, groupBy, having⟩
    .select inner ⟨distinct, projection, sources, selection, groupBy, having⟩ ::
      (nodesOfItems v inner projection ++ (nodesOfSources v inner sources
        ++ (nodesOfOption v inner selection ++ (nodesOfExprs v inner groupBy
          ++ nodesOfOption v inner having))))

def Body.nodes (v : Scoping ρ) (env : ρ) : Body → List (Node ρ)
  | .select select => select.nodes v env
  | .setOp _ _ left right => left.nodes v env ++ right.nodes v env
  | .query q => q.nodes v env

def OrderItem.nodes (v : Scoping ρ) (env : ρ) : OrderItem → List (Node ρ)
  | ⟨e, _, _⟩ => e.nodes v env

def nodesOfOrder (v : Scoping ρ) (env : ρ) : List OrderItem → List (Node ρ)
  | [] => []
  | o :: rest => o.nodes v env ++ nodesOfOrder v env rest

def Cte.nodes (v : Scoping ρ) (env : ρ) : Cte → List (Node ρ)
  | ⟨_, _, query⟩ => query.nodes v env

def nodesOfCtes (v : Scoping ρ) (env : ρ) : List Cte → List (Node ρ)
  | [] => []
  | c :: rest => c.nodes v env ++ nodesOfCtes v env rest

def Query.nodes (v : Scoping ρ) (env : ρ) : Query → List (Node ρ)
  | ⟨ctes, recursive, body, orderBy, limit, offset⟩ =>
    let inner := v.enterQuery env ⟨ctes, recursive, body, orderBy, limit, offset⟩
    .query inner ⟨ctes, recursive, body, orderBy, limit, offset⟩ ::
      (nodesOfCtes v inner ctes ++ (body.nodes v inner ++ (nodesOfOrder v inner orderBy
        ++ (nodesOfOption v inner limit ++ nodesOfOption v inner offset))))

end

end

section

variable {ρ : Type}

def Node.occurrence? : Node ρ → Option (ρ × Expr)
  | .leaf env e => some (env, e)
  | _ => none

def Expr.occurrences (v : Scoping ρ) (env : ρ) (e : Expr) : List (ρ × Expr) :=
  (e.nodes v env).filterMap Node.occurrence?

def Query.occurrences (v : Scoping ρ) (env : ρ) (q : Query) : List (ρ × Expr) :=
  (q.nodes v env).filterMap Node.occurrence?

end

def Expr.leaves (e : Expr) : List Expr := (e.occurrences .unscoped ()).map (·.2)

def Query.leaves (q : Query) : List Expr := (q.occurrences .unscoped ()).map (·.2)

def Expr.columnQualifiers (e : Expr) : List (List String) :=
  e.leaves.filterMap fun
    | .column qualifier _ => some qualifier
    | _ => none

end QueryBridge
