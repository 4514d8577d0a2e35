import QueryBridge.Proofs.Emission.Readings

set_option autoImplicit false

namespace QueryBridge

open Emission (Reading)

def BinaryOp.isConnective : BinaryOp → Bool
  | and | or => true
  | _ => false

def BinaryOp.isComparison : BinaryOp → Bool
  | eq | ne | lt | gt | lte | gte => true
  | _ => false

mutual

/-- A tree of connectives, comparisons and the other predicates over blocks. -/
def Expr.IsPredicate : Expr → Prop
  | .column _ _ | .literal _ | .keyword _ | .call _ _ _ | .case _ _ _ | .subquery _ | .cast _ _ => True
  | .exists _ negated => negated = false
  | .binary op left right => (op.isConnective ∨ op.isComparison) ∧ left.IsPredicate ∧ right.IsPredicate
  | .not e | .isNull e _ | .inQuery e _ _ | .paren e => e.IsPredicate
  | .inList e values _ => e.IsPredicate ∧ values ≠ [] ∧ ArePredicates values
  | .between e low high _ => e.IsPredicate ∧ low.IsPredicate ∧ high.IsPredicate
  | .like e pattern _ => e.IsPredicate ∧ pattern.IsPredicate
  | .neg _ | .index _ _ | .array _ | .star _ | .unsupported _ => False

def ArePredicates : List Expr → Prop
  | [] => True
  | e :: es => e.IsPredicate ∧ ArePredicates es

end

mutual

/-- The tree of the expression without its parentheses; blocks are kept as their items. -/
def Expr.shape (r : Rules) : Expr → Reading
  | .binary op left right => .binary op (left.shape r) (right.shape r)
  | .not e => .not (e.shape r)
  | .neg e => .neg (e.shape r)
  | .inList e values negated => .inList (e.shape r) (shapes r values) negated
  | .inQuery e q negated => .inQuery (e.shape r) (q.block r) negated
  | .between e low high negated => .between (e.shape r) (low.shape r) (high.shape r) negated
  | .isNull e negated => .isNull (e.shape r) negated
  | .like e pattern negated => .like (e.shape r) (pattern.shape r) negated
  | .paren e => e.shape r
  | e => .atom (e.block r)

def shapes (r : Rules) : List Expr → List Reading
  | [] => []
  | e :: es => e.shape r :: shapes r es

end

namespace Emission

namespace Reading

def chained (op : BinaryOp) : Reading → Reading → Reading
  | .binary op' a b, c => if op' = op then .binary op a (b.chained op c) else .binary op (.binary op' a b) c
  | a, c => .binary op a c

theorem chained_assoc (op : BinaryOp) (a b c : Reading) :
    (a.chained op b).chained op c = a.chained op (b.chained op c) := by
  cases a with
  | binary op' x y =>
    rw [chained, chained]
    split
    · rw [chained, if_pos rfl, chained_assoc op y b c]
    · rw [chained, if_pos rfl]
  | _ => simp only [chained, if_true]

mutual

def regrouped : Reading → Reading
  | .atom block => .atom block
  | .neg v => .neg v.regrouped
  | .not v => .not v.regrouped
  | .binary op a b =>
    if op.isConnective then a.regrouped.chained op b.regrouped else .binary op a.regrouped b.regrouped
  | .inList v values negated => .inList v.regrouped (allRegrouped values) negated
  | .inQuery v query negated => .inQuery v.regrouped query negated
  | .between v low high negated => .between v.regrouped low.regrouped high.regrouped negated
  | .isNull v negated => .isNull v.regrouped negated
  | .like v pattern negated => .like v.regrouped pattern.regrouped negated

def allRegrouped : List Reading → List Reading
  | [] => []
  | v :: vs => v.regrouped :: allRegrouped vs

end

end Reading

open Token (space)
open Reading (chained chained_assoc)

variable {r : Rules} {e : Expr} {ts : List Token}

mutual

theorem predicate_readable : ∀ e : Expr, e.IsPredicate → e.Readable
  | .binary _ left right, h => ⟨predicate_readable left h.2.1, predicate_readable right h.2.2⟩
  | .not e, h | .isNull e _, h | .inQuery e _ _, h | .paren e, h => predicate_readable e h
  | .inList e values _, h => ⟨predicate_readable e h.1, h.2.1, predicates_readable values h.2.2⟩
  | .between e low high _, h =>
    ⟨predicate_readable e h.1, predicate_readable low h.2.1, predicate_readable high h.2.2⟩
  | .like e pattern _, h => ⟨predicate_readable e h.1, predicate_readable pattern h.2⟩
  | .exists _ _, h => h
  | .column _ _, _ | .literal _, _ | .keyword _, _ | .call _ _ _, _ | .case _ _ _, _ | .subquery _, _
  | .cast _ _, _ => trivial

theorem predicates_readable : ∀ es : List Expr, ArePredicates es → AllReadable es
  | [], _ => trivial
  | e :: es, h => ⟨predicate_readable e h.1, predicates_readable es h.2⟩

end

/-- The expression is read as its tree up to grouping, alone and at the end of a chain. -/
structure Regroups (r : Rules) (e : Expr) : Prop where
  alone : (e.reading r none).regrouped = (e.shape r).regrouped
  behind : ∀ op left, op.isConnective → e.precedence = op.precedence →
    (e.reading r (some (op, left))).regrouped = left.regrouped.chained op (e.shape r).regrouped

theorem connective_precedence {op : BinaryOp} (h : op.isConnective) : op.precedence ≤ 2 := by
  cases op <;> first | decide | cases h

/-- Only connectives stand in a chain. -/
theorem regroups_of (h : (e.reading r none).regrouped = (e.shape r).regrouped) (strong : 2 < e.precedence) :
    Regroups r e :=
  ⟨h, fun _ _ connective same => absurd (connective_precedence connective) (Nat.not_le_of_lt (same ▸ strong))⟩

section

variable {op : BinaryOp} {left right : Expr}

theorem regroups_connective (connective : op.isConnective) (hl : Regroups r left) (hr : Regroups r right) :
    Regroups r (.binary op left right) := by
  have whole (l : Reading) : (if right.precedence = op.precedence ∧ op.isAssociative
      then right.reading r (some (op, l)) else .binary op l (right.reading r none)).regrouped
        = l.regrouped.chained op (right.shape r).regrouped := by
    split
    · rename_i same
      exact hr.behind op l connective same.1
    · rw [Reading.regrouped, if_pos connective, hr.alone]
  have tree : ((Expr.binary op left right).shape r).regrouped
      = (left.shape r).regrouped.chained op (right.shape r).regrouped := by
    rw [Expr.shape, Reading.regrouped, if_pos connective]
  constructor
  · rw [Expr.reading, whole, tree]
    simp only [joined, ite_self, hl.alone]
  · intro op' start connective' same
    -- There is one connective to a level.
    have equal : op' = op := by
      change op.precedence = op'.precedence at same
      cases op <;> cases connective <;> cases op' <;> cases connective' <;> first | rfl | cases same
    subst equal
    have first : (if left.precedence = op'.precedence then left.reading r (some (op', start))
        else joined (some (op', start)) (left.reading r none)).regrouped
          = start.regrouped.chained op' (left.shape r).regrouped := by
      split
      · rename_i same
        exact hl.behind op' start connective same
      · rw [joined, Reading.regrouped, if_pos connective, hl.alone]
    rw [Expr.reading, whole, first, tree, chained_assoc]

theorem regroups_comparison (comparison : op.isComparison) (hl : Regroups r left) (hr : Regroups r right) :
    Regroups r (.binary op left right) := by
  have other : op.isConnective = false ∧ op.isAssociative = false ∧ 2 < op.precedence := by
    cases op <;> first | decide | cases comparison
  refine regroups_of ?_ other.2.2
  simp [Expr.reading, Expr.shape, Reading.regrouped, joined, other, hl.alone, hr.alone]

end

theorem regroups_block (block : e.isBlock) : Regroups r e := by
  have same : e.shape r = .atom (e.block r) := by
    cases e with
    | column | literal | keyword | call | case | subquery | cast | «exists» => rw [Expr.shape]; all_goals nofun
    | _ => cases block
  have strong : e.precedence = Expr.atomLevel := by
    cases e with
    | column | literal | keyword | call | case | subquery | cast | «exists» => rfl
    | _ => cases block
  exact regroups_of (by rw [reading_block block, same, joined]) (by rw [strong]; decide)

mutual

theorem regroups_predicate : ∀ e : Expr, e.IsPredicate → Regroups r e
  | .binary op left right, h => h.1.elim
      (fun connective =>
        regroups_connective connective (regroups_predicate left h.2.1) (regroups_predicate right h.2.2))
      fun comparison =>
        regroups_comparison comparison (regroups_predicate left h.2.1) (regroups_predicate right h.2.2)
  | .not e, h => by
    refine regroups_of ?_ (by decide : 2 < Expr.notLevel)
    simp only [Expr.reading, Expr.shape, joined, Reading.regrouped, (regroups_predicate e h).alone]
  | .inList e values negated, h => by
    refine regroups_of ?_ (by decide : 2 < Expr.predicateLevel)
    simp only [Expr.reading, Expr.shape, joined, Reading.regrouped, (regroups_predicate e h.1).alone,
      allRegrouped_readings values h.2.2]
  | .inQuery e q negated, h => by
    refine regroups_of ?_ (by decide : 2 < Expr.predicateLevel)
    simp only [Expr.reading, Expr.shape, joined, Reading.regrouped, (regroups_predicate e h).alone]
  | .between e low high negated, h => by
    refine regroups_of ?_ (by decide : 2 < Expr.predicateLevel)
    simp only [Expr.reading, Expr.shape, joined, Reading.regrouped, (regroups_predicate e h.1).alone,
      (regroups_predicate low h.2.1).alone, (regroups_predicate high h.2.2).alone]
  | .isNull e negated, h => by
    refine regroups_of ?_ (by decide : 2 < Expr.predicateLevel)
    simp only [Expr.reading, Expr.shape, joined, Reading.regrouped, (regroups_predicate e h).alone]
  | .like e pattern negated, h => by
    refine regroups_of ?_ (by decide : 2 < Expr.predicateLevel)
    simp only [Expr.reading, Expr.shape, joined, Reading.regrouped, (regroups_predicate e h.1).alone,
      (regroups_predicate pattern h.2).alone]
  | .paren e, h => by
    refine regroups_of ?_ (by decide : 2 < Expr.atomLevel)
    simp only [Expr.reading, Expr.shape, joined, (regroups_predicate e h).alone]
  | .exists _ _, h => regroups_block (by cases h; rfl)
  | .column _ _, _ => regroups_block rfl
  | .literal _, _ => regroups_block rfl
  | .keyword _, _ => regroups_block rfl
  | .call _ _ _, _ => regroups_block rfl
  | .case _ _ _, _ => regroups_block rfl
  | .subquery _, _ => regroups_block rfl
  | .cast _ _, _ => regroups_block rfl

theorem allRegrouped_readings : ∀ es : List Expr, ArePredicates es →
    Reading.allRegrouped (readings r es) = Reading.allRegrouped (shapes r es)
  | [], _ => rfl
  | e :: es, h => by
    rw [readings, shapes, Reading.allRegrouped, Reading.allRegrouped, (regroups_predicate e h.1).alone,
      allRegrouped_readings es h.2]

end

/-- In every dialect the tokens of a predicate are read, and what is read is the predicate without its
parentheses, but for the grouping of its chains of ANDs and of ORs. -/
theorem predicate_read_back {d : Dialect} (predicate : e.IsPredicate) (emitted : e.tokens d.rules = .ok ts) :
    ∃ v, read ts = some v ∧ v.regrouped = (e.shape d.rules).regrouped :=
  ⟨_, read_emitted (predicate_readable e predicate) emitted, (regroups_predicate e predicate).alone⟩

/-- `NOT a IN (1, 2) AND (b NOT BETWEEN 3 AND 4 AND c)`, with the parentheses only in the tree. -/
def rightNestedAnd : Expr :=
  .binary .and (.not (.inList (.column [] "a") [.literal (.int 1), .literal (.int 2)] false))
    (.binary .and (.between (.column [] "b") (.literal (.int 3)) (.literal (.int 4)) true) (.column ["t"] "c"))

def rightNestedAndTokens : List Token :=
  [.keyword .not, space, .ident "a", space, .keyword .in_, space, .symbol .leftParen, .int 1, .symbol .comma, space,
    .int 2, .symbol .rightParen, space, .keyword .and, space, .ident "b", space, .keyword .not, space,
    .keyword .between, space, .int 3, space, .keyword .and, space, .int 4, space, .keyword .and, space, .ident "t",
    .symbol .dot, .ident "c"]

theorem rightNestedAnd_read_back : (rightNestedAnd.IsPredicate ∧
    rightNestedAnd.tokens Dialect.postgres.rules = .ok rightNestedAndTokens) ∧
      ∃ v, read rightNestedAndTokens = some v ∧
        v.regrouped = (rightNestedAnd.shape Dialect.postgres.rules).regrouped :=
  have predicate : rightNestedAnd.IsPredicate := by
    simp [rightNestedAnd, Expr.IsPredicate, ArePredicates, BinaryOp.isConnective]
  have emitted : rightNestedAnd.tokens Dialect.postgres.rules = .ok rightNestedAndTokens := rfl
  ⟨⟨predicate, emitted⟩, predicate_read_back predicate emitted⟩

end Emission

end QueryBridge
