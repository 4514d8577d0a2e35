import QueryBridge.Tree.Basic

set_option autoImplicit false

/-! Two trees are the same if they have the same shape and the same values at the leaves. Floating point
numbers are compared as numbers: a NaN differs from itself, and the two zeros are the same. -/

namespace QueryBridge

def Literal.same : Literal → Literal → Bool
  | .float x, .float y => x.sameValue y
  | a, b => a == b

mutual

def Expr.same (a b : Expr) : Bool :=
  match a with
  | .column q n => match b with
    | .column q' n' => q == q' && n == n'
    | _ => false
  | .literal v => match b with
    | .literal v' => v.same v'
    | _ => false
  | .binary op l r => match b with
    | .binary op' l' r' => op == op' && l.same l' && r.same r'
    | _ => false
  | .not e => match b with
    | .not e' => e.same e'
    | _ => false
  | .neg e => match b with
    | .neg e' => e.same e'
    | _ => false
  | .call f as d => match b with
    | .call f' as' d' => f == f' && sameExprs as as' && d == d'
    | _ => false
  | .keyword w => match b with
    | .keyword w' => w == w'
    | _ => false
  | .case o bs e => match b with
    | .case o' bs' e' => sameOption o o' && sameBranches bs bs' && sameOption e e'
    | _ => false
  | .subquery q => match b with
    | .subquery q' => q.same q'
    | _ => false
  | .exists q n => match b with
    | .exists q' n' => q.same q' && n == n'
    | _ => false
  | .inList e vs n => match b with
    | .inList e' vs' n' => e.same e' && sameExprs vs vs' && n == n'
    | _ => false
  | .inQuery e q n => match b with
    | .inQuery e' q' n' => e.same e' && q.same q' && n == n'
    | _ => false
  | .between e l h n => match b with
    | .between e' l' h' n' => e.same e' && l.same l' && h.same h' && n == n'
    | _ => false
  | .isNull e n => match b with
    | .isNull e' n' => e.same e' && n == n'
    | _ => false
  | .like e p n => match b with
    | .like e' p' n' => e.same e' && p.same p' && n == n'
    | _ => false
  | .cast e t => match b with
    | .cast e' t' => e.same e' && t == t'
    | _ => false
  | .index x i => match b with
    | .index x' i' => x.same x' && i.same i'
    | _ => false
  | .array es => match b with
    | .array es' => sameExprs es es'
    | _ => false
  | .star q => match b with
    | .star q' => q == q'
    | _ => false
  | .paren e => match b with
    | .paren e' => e.same e'
    | _ => false
  | .unsupported s => match b with
    | .unsupported s' => s == s'
    | _ => false
termination_by structural a

def sameExprs : List Expr → List Expr → Bool
  | [], [] => true
  | e :: rest, e' :: rest' => e.same e' && sameExprs rest rest'
  | _, _ => false
termination_by structural x => x

def sameOption : Option Expr → Option Expr → Bool
  | none, none => true
  | some e, some e' => e.same e'
  | _, _ => false
termination_by structural x => x

def sameBranches : List (Expr × Expr) → List (Expr × Expr) → Bool
  | [], [] => true
  | (c, r) :: rest, (c', r') :: rest' => c.same c' && r.same r' && sameBranches rest rest'
  | _, _ => false
termination_by structural x => x

def SelectItem.same : SelectItem → SelectItem → Bool
  | ⟨e, a⟩, ⟨e', a'⟩ => e.same e' && a == a'
termination_by structural x => x

def sameItems : List SelectItem → List SelectItem → Bool
  | [], [] => true
  | i :: rest, i' :: rest' => i.same i' && sameItems rest rest'
  | _, _ => false
termination_by structural x => x

def Relation.same : Relation → Relation → Bool
  | .table n a, .table n' a' => n == n' && a == a'
  | .derived q a, .derived q' a' => q.same q' && a == a'
  | .unnest es a, .unnest es' a' => sameExprs es es' && a == a'
  | _, _ => false
termination_by structural x => x

def JoinConstraint.same : JoinConstraint → JoinConstraint → Bool
  | .on e, .on e' => e.same e'
  | .using cs, .using cs' => cs == cs'
  | .none, .none => true
  | _, _ => false
termination_by structural x => x

def Join.same : Join → Join → Bool
  | ⟨t, r, c⟩, ⟨t', r', c'⟩ => t == t' && r.same r' && c.same c'
termination_by structural x => x

def sameJoins : List Join → List Join → Bool
  | [], [] => true
  | j :: rest, j' :: rest' => j.same j' && sameJoins rest rest'
  | _, _ => false
termination_by structural x => x

def FromItem.same : FromItem → FromItem → Bool
  | ⟨r, js⟩, ⟨r', js'⟩ => r.same r' && sameJoins js js'
termination_by structural x => x

def sameSources : List FromItem → List FromItem → Bool
  | [], [] => true
  | s :: rest, s' :: rest' => s.same s' && sameSources rest rest'
  | _, _ => false
termination_by structural x => x

def Select.same : Select → Select → Bool
  | ⟨d, p, f, w, g, h⟩, ⟨d', p', f', w', g', h'⟩ =>
    d == d' && sameItems p p' && sameSources f f' && sameOption w w' && sameExprs g g'
      && sameOption h h'
termination_by structural x => x

def Body.same : Body → Body → Bool
  | .select s, .select s' => s.same s'
  | .setOp op a l r, .setOp op' a' l' r' => op == op' && a == a' && l.same l' && r.same r'
  | .query q, .query q' => q.same q'
  | _, _ => false
termination_by structural x => x

def OrderItem.same : OrderItem → OrderItem → Bool
  | ⟨e, d, n⟩, ⟨e', d', n'⟩ => e.same e' && d == d' && n == n'
termination_by structural x => x

def sameOrder : List OrderItem → List OrderItem → Bool
  | [], [] => true
  | o :: rest, o' :: rest' => o.same o' && sameOrder rest rest'
  | _, _ => false
termination_by structural x => x

def Cte.same : Cte → Cte → Bool
  | ⟨n, cs, q⟩, ⟨n', cs', q'⟩ => n == n' && cs == cs' && q.same q'
termination_by structural x => x

def sameCtes : List Cte → List Cte → Bool
  | [], [] => true
  | c :: rest, c' :: rest' => c.same c' && sameCtes rest rest'
  | _, _ => false
termination_by structural x => x

def Query.same : Query → Query → Bool
  | ⟨cs, r, b, o, l, f⟩, ⟨cs', r', b', o', l', f'⟩ =>
    sameCtes cs cs' && r == r' && b.same b' && sameOrder o o' && sameOption l l' && sameOption f f'
termination_by structural x => x

end

end QueryBridge
