import QueryBridge.Proofs.Emission.Readings

set_option autoImplicit false

namespace QueryBridge

open Emission (Reading strength)

/-- The value of an operator; quotients are truncated, remainders are theirs, and neither exists for zero. -/
def BinaryOp.apply : BinaryOp → Int → Int → Option Int
  | plus, x, y => some (x + y)
  | minus, x, y => some (x - y)
  | mul, x, y => some (x * y)
  | div, x, y => if y = 0 then none else some (x.tdiv y)
  | mod, x, y => if y = 0 then none else some (x.tmod y)
  | _, _, _ => none

def BinaryOp.lift (op : BinaryOp) (x y : Option Int) : Option Int := x.bind fun x => y.bind (op.apply x)

def BinaryOp.isArithmetic : BinaryOp → Bool
  | plus | minus | mul | div | mod => true
  | _ => false

/-- A tree of arithmetic operators over columns and literals that are not negative. -/
def Expr.IsArithmetic : Expr → Prop
  | .column _ _ => True
  | .literal (.int n) => 0 ≤ n.toInt
  | .binary op left right => op.isArithmetic ∧ left.IsArithmetic ∧ right.IsArithmetic
  | .neg e | .paren e => e.IsArithmetic
  | _ => False

def Expr.value (columns : List String → Int) : Expr → Option Int
  | .column qualifier name => some (columns (qualifier ++ [name]))
  | .literal (.int n) => some n.toInt
  | .binary op left right => op.lift (left.value columns) (right.value columns)
  | .neg e => (e.value columns).map (- ·)
  | .paren e => e.value columns
  | _ => none

/-- `x op (y op' z)` and `(x op y) op' z` have the same value. -/
def BinaryOp.carries : BinaryOp → BinaryOp → Bool
  | plus, plus | plus, minus | mul, mul => true
  | _, _ => false

/-- From the left the chain of the expression has only operators that `op` carries. -/
def Expr.Follows (op : BinaryOp) : Expr → Prop
  | .binary op' left _ => strength op' = strength op → op.carries op' ∧ left.Follows op
  | _ => True

/-- No right operand of a product is a chain with a quotient or a remainder. -/
def Expr.Regroupable : Expr → Prop
  | .binary op left right => left.Regroupable ∧ right.Regroupable ∧ (op = .mul → right.Follows .mul)
  | .neg e | .paren e => e.Regroupable
  | _ => True

namespace Emission

def columnPath? : List Item → Option (List String)
  | [.token (.ident name)] => some [name]
  | .token (.ident part) :: .token (.symbol .dot) :: rest => (columnPath? rest).map (part :: ·)
  | _ => none

def blockValue (columns : List String → Int) (block : List Item) : Option Int :=
  match block with
  | [.token (.int n)] => some n.toInt
  | _ => (columnPath? block).map columns

def Reading.value (columns : List String → Int) : Reading → Option Int
  | .atom block => blockValue columns block
  | .neg v => (v.value columns).map (- ·)
  | .binary op a b => op.lift (a.value columns) (b.value columns)
  | _ => none

variable {r : Rules} {e : Expr} {columns : List String → Int}

theorem lift_carried {op op' : BinaryOp} (h : op.carries op') (x y z : Option Int) :
    op'.lift (op.lift x y) z = op.lift x (op'.lift y z) := by
  have known : op = .plus ∧ op' = .plus ∨ op = .plus ∧ op' = .minus ∨ op = .mul ∧ op' = .mul := by
    cases op <;> cases op' <;> first | decide | cases h
  rcases known with ⟨rfl, rfl⟩ | ⟨rfl, rfl⟩ | ⟨rfl, rfl⟩ <;> cases x <;> cases y <;> cases z <;>
    simp [BinaryOp.lift, BinaryOp.apply, Int.add_assoc, Int.add_sub_assoc, Int.mul_assoc]

theorem follows_plus : ∀ e : Expr, e.IsArithmetic → e.Follows .plus
  | .binary op left _, h => fun same => by
    refine ⟨?_, follows_plus left h.2.1⟩
    have arithmetic := h.1
    revert same arithmetic
    cases op <;> decide
  | .neg _, _ | .paren _, _ | .column _ _, _ | .literal (.int _), _ => trivial

theorem arithmetic_readable : ∀ e : Expr, e.IsArithmetic → e.Readable
  | .binary _ left right, h => ⟨arithmetic_readable left h.2.1, arithmetic_readable right h.2.2⟩
  | .neg e, h | .paren e, h => arithmetic_readable e h
  | .column _ _, _ | .literal (.int _), _ => trivial

theorem arithmetic_emitted (r : Rules) : ∀ e : Expr, e.IsArithmetic → ∃ ts, e.tokens r = .ok ts
  | .binary op left right, h => by
    obtain ⟨a, ha⟩ := arithmetic_emitted r left h.2.1
    obtain ⟨b, hb⟩ := arithmetic_emitted r right h.2.2
    exact ⟨_, Expr.tokens_binary_ok.2 ⟨a, b, ha, hb, rfl⟩⟩
  | .neg e, h => by
    obtain ⟨t, ht⟩ := arithmetic_emitted r e h
    exact ⟨_, Expr.tokens_neg_ok.2 ⟨t, ht, rfl⟩⟩
  | .paren e, h => by
    obtain ⟨t, ht⟩ := arithmetic_emitted r e h
    exact ⟨_, Expr.tokens_paren_ok.2 ⟨t, ht, rfl⟩⟩
  | .column _ _, _ => ⟨_, Expr.tokens_column_ok.2 rfl⟩
  | .literal (.int n), _ => ⟨_, Expr.tokens_literal_ok.2 ⟨.int n, rfl, rfl⟩⟩

theorem columnPath?_path (qualifier : List String) (name : String) :
    columnPath? ((qualifierTokens qualifier ++ [Token.ident name]).map .token) = some (qualifier ++ [name]) := by
  induction qualifier with
  | nil => rfl
  | cons part qualifier ih =>
    have layout : (qualifierTokens (part :: qualifier) ++ [Token.ident name]).map Item.token
        = .token (.ident part) :: .token (.symbol .dot)
          :: (qualifierTokens qualifier ++ [Token.ident name]).map .token := rfl
    rw [layout, columnPath?, ih, Option.map_some, List.cons_append]

theorem column_value (qualifier : List String) (name : String) :
    blockValue columns ((Expr.column qualifier name).block r) = some (columns (qualifier ++ [name])) := by
  rw [block_eq (Expr.tokens_column_ok.2 rfl) (column_outlined qualifier name), blockValue, columnPath?_path,
    Option.map_some]
  cases qualifier <;> exact nofun

theorem literal_value (n : Int64) : blockValue columns ((Expr.literal (.int n)).block r) = some n.toInt := by
  rw [block_eq (Expr.tokens_literal_ok.2 ⟨.int n, rfl, rfl⟩) (.token rfl), blockValue]

/-- The expression is read with its value, alone and at the end of a chain that carries its operators. -/
structure KeepsValue (r : Rules) (columns : List String → Int) (e : Expr) : Prop where
  alone : (e.reading r none).value columns = e.value columns
  behind : ∀ op left, op.isAssociative → e.precedence = op.precedence → e.Follows op →
    (e.reading r (some (op, left))).value columns = op.lift (left.value columns) (e.value columns)

theorem keepsValue_of (h : (e.reading r none).value columns = e.value columns)
    (strong : e.precedence = Expr.atomLevel) : KeepsValue r columns e :=
  ⟨h, fun _ _ associative same => absurd (same ▸ strong) (associative_precedence associative).2.2⟩

theorem keepsValue_binary {op : BinaryOp} {left right : Expr} (hl : KeepsValue r columns left)
    (hr : KeepsValue r columns right) (follows : op.isAssociative → right.Follows op) :
    KeepsValue r columns (.binary op left right) := by
  have whole (l : Reading) : (if right.precedence = op.precedence ∧ op.isAssociative
      then right.reading r (some (op, l)) else .binary op l (right.reading r none)).value columns
        = op.lift (l.value columns) (right.value columns) := by
    split
    · rename_i same
      exact hr.behind op l same.2 same.1 (follows same.2)
    · rw [Reading.value, hr.alone]
  constructor
  · rw [Expr.reading, whole, Expr.value]
    simp only [joined, ite_self, hl.alone]
  · intro op' start associative same chain
    change op.precedence = op'.precedence at same
    obtain ⟨carried, before⟩ := chain (by rw [strength_eq_precedence, strength_eq_precedence, same])
    have first : (if left.precedence = op.precedence then left.reading r (some (op', start))
        else joined (some (op', start)) (left.reading r none)).value columns
          = op'.lift (start.value columns) (left.value columns) := by
      split
      · rename_i level
        exact hl.behind op' start associative (level.trans same) before
      · rw [joined, Reading.value, hl.alone]
    rw [Expr.reading, whole, first, Expr.value, lift_carried carried]

theorem keepsValue : ∀ e : Expr, e.IsArithmetic → e.Regroupable → KeepsValue r columns e
  | .binary op left right, h, grouped => by
    refine keepsValue_binary (keepsValue left h.2.1 grouped.1) (keepsValue right h.2.2 grouped.2.1) fun assoc => ?_
    have known : op = .plus ∨ op = .mul := by
      have arithmetic := h.1
      revert assoc arithmetic
      cases op <;> decide
    rcases known with rfl | rfl
    · exact follows_plus right h.2.2
    · exact grouped.2.2 rfl
  | .neg e, h, grouped => keepsValue_of
      (by rw [Expr.reading, joined, Reading.value, (keepsValue e h grouped).alone, Expr.value]) rfl
  | .paren e, h, grouped => keepsValue_of
      (by rw [Expr.reading, joined, (keepsValue e h grouped).alone, Expr.value]) rfl
  | .column qualifier name, _, _ => keepsValue_of
      (by rw [reading_block rfl, joined, Reading.value, column_value, Expr.value]) rfl
  | .literal (.int n), _, _ => keepsValue_of
      (by rw [reading_block rfl, joined, Reading.value, literal_value, Expr.value]) rfl

/-- In every dialect arithmetic is written and what is written is read. The value is that of the tree, also in
being undefined, if no right operand of a product is a chain with a quotient or a remainder. -/
theorem arithmetic_read (d : Dialect) {e : Expr} (arithmetic : e.IsArithmetic) :
    ∃ ts v, e.tokens d.rules = .ok ts ∧ read ts = some v ∧
      (e.Regroupable → ∀ columns, v.value columns = e.value columns) := by
  obtain ⟨ts, emitted⟩ := arithmetic_emitted d.rules e arithmetic
  exact ⟨ts, _, emitted, read_emitted (arithmetic_readable e arithmetic) emitted,
    fun grouped columns => (keepsValue e arithmetic grouped).alone⟩

/-- `a + (b * (2 * c) - -d % 3)`. -/
def nestedSum : Expr :=
  .binary .plus (.column [] "a")
    (.binary .minus (.binary .mul (.column [] "b") (.binary .mul (.literal (.int 2)) (.column [] "c")))
      (.binary .mod (.neg (.column [] "d")) (.literal (.int 3))))

theorem nestedSum_read : (nestedSum.IsArithmetic ∧ nestedSum.Regroupable) ∧
    ∃ ts v, nestedSum.tokens Dialect.sqlite.rules = .ok ts ∧ read ts = some v ∧
      ∀ columns, v.value columns = nestedSum.value columns := by
  have arithmetic : nestedSum.IsArithmetic := by
    simp only [nestedSum, Expr.IsArithmetic]
    decide
  have grouped : nestedSum.Regroupable := by
    simp [nestedSum, Expr.Regroupable, Expr.Follows, BinaryOp.carries]
  obtain ⟨ts, v, emitted, known, value⟩ := arithmetic_read .sqlite arithmetic
  exact ⟨⟨arithmetic, grouped⟩, ts, v, emitted, known, value grouped⟩

/-- `a * (b / c)`, with the parentheses only in the tree. -/
def productWithQuotient : Expr :=
  .binary .mul (.column [] "a") (.binary .div (.column [] "b") (.column [] "c"))

def productWithQuotientTokens : List Token :=
  [.ident "a", .space, .symbol .mul, .space, .ident "b", .space, .symbol .div, .space, .ident "c"]

/-- The quotient is read as one of the whole product, which it is not for 2, 1 and 2. -/
theorem productWithQuotient_changes_value : productWithQuotient.IsArithmetic ∧
    productWithQuotient.tokens Dialect.postgres.rules = .ok productWithQuotientTokens ∧
      ∃ v, read productWithQuotientTokens = some v ∧
        v.value (fun path => if path = ["b"] then 1 else 2) = some 1 ∧
        productWithQuotient.value (fun path => if path = ["b"] then 1 else 2) = some 0 := by
  refine ⟨by simp [productWithQuotient, Expr.IsArithmetic, BinaryOp.isArithmetic], rfl, _, rfl, ?_, ?_⟩
  · decide
  · decide

end Emission

end QueryBridge
