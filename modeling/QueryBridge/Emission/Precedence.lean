import QueryBridge.Emission.Token
import QueryBridge.Tree.Basic

set_option autoImplicit false

namespace QueryBridge

def BinaryOp.precedence : BinaryOp → Nat
  | or => 1
  | and => 2
  | eq | ne | lt | gt | lte | gte => 4
  | plus | minus | concat => 5
  | mul | div | mod => 6

/-- A right operand of the same level needs no parentheses. -/
def BinaryOp.isAssociative : BinaryOp → Bool
  | and | or | plus | mul | concat => true
  | _ => false

def BinaryOp.token : BinaryOp → Token
  | eq => .symbol .eq | ne => .symbol .ne | lt => .symbol .lt | gt => .symbol .gt
  | lte => .symbol .lte | gte => .symbol .gte | and => .keyword .and | or => .keyword .or
  | plus => .symbol .plus | minus => .symbol .minus | mul => .symbol .mul | div => .symbol .div
  | mod => .symbol .mod | concat => .concat

namespace Expr

def notLevel : Nat := 3

def predicateLevel : Nat := 4

def atomLevel : Nat := 255

def precedence : Expr → Nat
  | binary op _ _ => op.precedence
  | not _ => notLevel
  | inList _ _ _ | inQuery _ _ _ | between _ _ _ _ | isNull _ _ | like _ _ _ => predicateLevel
  | _ => atomLevel

def needsParensInPredicate (e : Expr) : Bool := e.precedence ≤ predicateLevel

def needsParensAsAtom (e : Expr) : Bool := e.precedence != atomLevel

def needsParensLeft (op : BinaryOp) (e : Expr) : Bool := e.precedence < op.precedence

def needsParensRight (op : BinaryOp) (e : Expr) : Bool :=
  e.precedence < op.precedence || (e.precedence == op.precedence && !op.isAssociative)

end Expr

end QueryBridge
