import QueryBridge.Tree.Basic

set_option autoImplicit false

namespace QueryBridge.Expr

def and (left right : Expr) : Expr := .binary .and left right

/-- The operands of the top-level ANDs, from left to right. -/
def conjuncts : Expr → List Expr
  | .binary .and left right => left.conjuncts ++ right.conjuncts
  | e => [e]

/-- The predicates joined by AND from the left; nothing if there are none. -/
def conjunction? : List Expr → Option Expr
  | [] => none
  | e :: rest => some (rest.foldl and e)

end QueryBridge.Expr
