import QueryBridge.Proofs.Emission.Outline
import QueryBridge.Tree.Basic

set_option autoImplicit false

/-! A reader of token streams with the usual binding strengths: OR, AND, NOT, comparisons with the other
predicates, sums, products, and the minus sign in front. Operators of one strength are taken from
the left to the right. Names, literals, calls, CASE and CAST expressions, EXISTS and subqueries are
blocks whose inside is not read.

The reader keeps a stack of operators that wait for their right operand. An operator closes those on
the stack that bind at least as strongly. -/

namespace QueryBridge.Emission

/-- What a stream is read as. -/
inductive Reading where
  | atom (block : List Item)
  | neg (operand : Reading)
  | not (operand : Reading)
  | binary (op : BinaryOp) (left right : Reading)
  | inList (operand : Reading) (values : List Reading) (negated : Bool)
  | inQuery (operand : Reading) (query : List Item) (negated : Bool)
  | between (operand low high : Reading) (negated : Bool)
  | isNull (operand : Reading) (negated : Bool)
  | like (operand pattern : Reading) (negated : Bool)

inductive Frame where
  | neg
  | not
  | binary (op : BinaryOp) (left : Reading)
  | like (operand : Reading) (negated : Bool)
  | low (operand : Reading) (negated : Bool)
  | high (operand low : Reading) (negated : Bool)

/-- The operators from the loosest on: OR, AND, comparisons, sums, products. NOT has its place between AND and the
comparisons, the other predicates bind like comparisons, and the minus sign in front binds most strongly. -/
def strength : BinaryOp → Nat
  | .or => 1
  | .and => 2
  | .eq | .ne | .lt | .gt | .lte | .gte => 4
  | .plus | .minus | .concat => 5
  | .mul | .div | .mod => 6

def notStrength : Nat := 3

def predicateStrength : Nat := 4

def negLevel : Nat := 7

def Frame.level : Frame → Nat
  | neg => negLevel
  | not => notStrength
  | binary op _ => strength op
  | like _ _ | low _ _ | high _ _ _ => predicateStrength

/-- The operator with its last operand; a BETWEEN whose AND has not been read is not complete with it. -/
def Frame.close? : Frame → Reading → Option Reading
  | neg, v => some (.neg v)
  | not, v => some (.not v)
  | binary op left, v => some (.binary op left v)
  | like operand negated, v => some (.like operand v negated)
  | low _ _, _ => none
  | high operand bound negated, v => some (.between operand bound v negated)

/-- Closes the operators that bind at least as strongly as `level`. -/
def reduce (level : Nat) : List Frame → Reading → List Frame × Reading
  | [], v => ([], v)
  | f :: stack, v =>
    if level ≤ f.level then
      match f.close? v with
      | some w => reduce level stack w
      | none => (f :: stack, v)
    else (f :: stack, v)

inductive Place where
  | operand
  | after (v : Reading)
  | negation (v : Reading)
  | dot (block : List Item)
  | head (block : List Item)
  | members (v : Reading) (negated : Bool)

/-- The expressions in front of the last comma, the waiting operators and what comes next. -/
structure Reader where
  done : List Reading
  stack : List Frame
  place : Place

def binaryOp? : Token → Option BinaryOp
  | .symbol .eq => some .eq
  | .symbol .ne => some .ne
  | .symbol .lt => some .lt
  | .symbol .gt => some .gt
  | .symbol .lte => some .lte
  | .symbol .gte => some .gte
  | .symbol .plus => some .plus
  | .symbol .minus => some .minus
  | .symbol .mul => some .mul
  | .symbol .div => some .div
  | .symbol .mod => some .mod
  | .keyword .and => some .and
  | .keyword .or => some .or
  | .concat => some .concat
  | _ => none

namespace Reader

def start : Reader := ⟨[], [], .operand⟩

def finish (m : Reader) : Option (List Reading) :=
  match m.place with
  | .after v => match reduce 1 m.stack v with
    | ([], w) => some (m.done ++ [w])
    | _ => none
  | _ => none

def operandToken (m : Reader) (t : Token) : Option Reader :=
  match t with
  | .symbol .minus => some { m with stack := .neg :: m.stack }
  | .keyword .not => some { m with stack := .not :: m.stack }
  | .function _ | .keyword .cast | .keyword .exists_ => some { m with place := .head [.token t] }
  | .ident _ | .word _ | .int _ | .float _ | .decimal _ | .string _ | .bool _ | .placeholder _ | .keyword .null =>
    some { m with place := .after (.atom [.token t]) }
  | _ => none

def predicate (done : List Reading) (stack : List Frame) (v : Reading) (negated : Bool) : Keyword → Option Reader
  | .in_ => some ⟨done, stack, .members v negated⟩
  | .between => some ⟨done, .low v negated :: stack, .operand⟩
  | .like => some ⟨done, .like v negated :: stack, .operand⟩
  | _ => none

def predicateToken (m : Reader) (v : Reading) (negated : Bool) (t : Token) : Option Reader :=
  match t with
  | .keyword k =>
    let (stack, w) := reduce predicateStrength m.stack v
    predicate m.done stack w negated k
  | _ => none

/-- An operator behind its left operand. The AND of a BETWEEN belongs to it. -/
def binaryToken (m : Reader) (v : Reading) (op : BinaryOp) : Reader :=
  match op, reduce (strength op) m.stack v with
  | .and, (.low operand negated :: stack, w) => ⟨m.done, .high operand w negated :: stack, .operand⟩
  | _, (stack, w) => ⟨m.done, .binary op w :: stack, .operand⟩

def nextToken (m : Reader) (v : Reading) (t : Token) : Option Reader :=
  match t with
  | .symbol .dot => match v with
    | .atom block => some { m with place := .dot (block ++ [.token t]) }
    | _ => none
  | .symbol .comma => ({ m with place := .after v } : Reader).finish.map fun done => ⟨done, [], .operand⟩
  | .keyword .not => some { m with place := .negation v }
  | .keyword .isNull =>
    let (stack, w) := reduce predicateStrength m.stack v
    some ⟨m.done, stack, .after (.isNull w false)⟩
  | .keyword .isNotNull =>
    let (stack, w) := reduce predicateStrength m.stack v
    some ⟨m.done, stack, .after (.isNull w true)⟩
  | _ => match binaryOp? t with
    | some op => some (m.binaryToken v op)
    | none => m.predicateToken v false t

def token (m : Reader) (t : Token) : Option Reader :=
  match m.place with
  | .operand => m.operandToken t
  | .after v => m.nextToken v t
  | .negation v => m.predicateToken v true t
  | .dot block => match t with
    | .ident _ => some { m with place := .after (.atom (block ++ [.token t])) }
    | _ => none
  | .head _ | .members _ _ => none

def isQuery (items : List Item) : Bool := !(words items).isEmpty

/-- A group, given what its inside is read as if it is no query. -/
def group (m : Reader) (items : List Item) (inside : Option (List Reading)) : Option Reader :=
  match m.place with
  | .operand =>
    if isQuery items then some { m with place := .after (.atom [.group items]) }
    else match inside with
      | some [v] => some { m with place := .after v }
      | _ => none
  | .head block => some { m with place := .after (.atom (block ++ [.group items])) }
  | .members v negated =>
    if isQuery items then some { m with place := .after (.inQuery v items negated) }
    else inside.map fun values => { m with place := .after (.inList v values negated) }
  | _ => none

def caseBlock (m : Reader) (items : List Item) : Option Reader :=
  match m.place with
  | .operand => some { m with place := .after (.atom [.case items]) }
  | _ => none

mutual

def item (m : Reader) : Item → Option Reader
  | .token t => m.token t
  | .case items => m.caseBlock items
  | .group items => m.group items ((start.items items).bind finish)

def items (m : Reader) : List Item → Option Reader
  | [] => some m
  | i :: rest => (m.item i).bind (·.items rest)

end

end Reader

def read (ts : List Token) : Option Reading :=
  match (outline ts).bind fun is => (Reader.start.items is).bind Reader.finish with
  | some [v] => some v
  | _ => none

attribute [local simp] reduce Reader.item Reader.items

section

variable {level : Nat} {stack : List Frame} {f : Frame} {v w : Reading}

theorem reduce_below (h : ∀ f ∈ stack.head?, f.level < level) : reduce level stack v = (stack, v) := by
  cases stack with
  | nil => rfl
  | cons f stack =>
    have below := h f rfl
    rw [reduce, if_neg (by omega)]

theorem reduce_close (h : level ≤ f.level) (closed : f.close? v = some w) :
    reduce level (f :: stack) v = reduce level stack w := by
  rw [reduce, if_pos h, closed]

end

namespace Reader

variable {m m' : Reader} {xs ys : List Item} {i : Item}

theorem items_nil : m.items [] = some m := by rw [items]

theorem items_cons : m.items (i :: xs) = (m.item i).bind (·.items xs) := by rw [items]

theorem items_append : m.items (xs ++ ys) = (m.items xs).bind (·.items ys) := by
  induction xs generalizing m with
  | nil => rw [List.nil_append, items_nil, Option.bind_some]
  | cons i xs ih =>
    rw [List.cons_append, items_cons, items_cons, Option.bind_assoc]
    exact congrArg _ (funext fun m => ih)

theorem items_token {t : Token} : m.items (.token t :: xs) = (m.token t).bind (·.items xs) := by
  rw [items_cons, item]

theorem items_singleton : m.items [i] = m.item i := by
  rw [items_cons]
  cases m.item i with
  | none => rfl
  | some m => exact items_nil

section

variable {done : List Reading} {stack : List Frame} {block : List Item} {name : String}

theorem token_ident : Reader.token ⟨done, stack, .operand⟩ (.ident name)
    = some ⟨done, stack, .after (.atom [.token (.ident name)])⟩ := rfl

theorem token_dot : Reader.token ⟨done, stack, .after (.atom block)⟩ (.symbol .dot)
    = some ⟨done, stack, .dot (block ++ [Item.token (.symbol .dot)])⟩ := rfl

theorem token_dotted : Reader.token ⟨done, stack, .dot block⟩ (.ident name)
    = some ⟨done, stack, .after (.atom (block ++ [Item.token (.ident name)]))⟩ := rfl

end

end Reader

end QueryBridge.Emission
