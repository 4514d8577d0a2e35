import QueryBridge.Proofs.Emission.Blocks

set_option autoImplicit false

namespace QueryBridge

open Emission (Reading negLevel)

def Expr.level : Expr → Nat
  | .neg _ => negLevel
  | e => e.precedence

mutual

/-- The expression consists of blocks, operators, predicates and parentheses. -/
def Expr.Readable : Expr → Prop
  | .column _ _ | .literal _ | .keyword _ | .call _ _ _ | .case _ _ _ | .subquery _ | .cast _ _ => True
  | .exists _ negated => negated = false
  | .binary _ left right => left.Readable ∧ right.Readable
  | .not e | .neg e | .isNull e _ | .inQuery e _ _ | .paren e => e.Readable
  | .inList e values _ => e.Readable ∧ values ≠ [] ∧ AllReadable values
  | .between e low high _ => e.Readable ∧ low.Readable ∧ high.Readable
  | .like e pattern _ => e.Readable ∧ pattern.Readable
  | .index _ _ | .array _ | .star _ | .unsupported _ => False

def AllReadable : List Expr → Prop
  | [] => True
  | e :: es => e.Readable ∧ AllReadable es

end

/-- The operator that waits to the left, with its left operand, closed by a right operand. -/
def joined (c : Option (BinaryOp × Reading)) (v : Reading) : Reading :=
  match c with
  | none => v
  | some (op, left) => .binary op left v

mutual

/-- What the expression is read as behind an operator of the same strength that waits to its left. -/
def Expr.reading (r : Rules) : Expr → Option (BinaryOp × Reading) → Reading
  | .binary op left right, c =>
    let l := if left.precedence = op.precedence then left.reading r c else joined c (left.reading r none)
    if right.precedence = op.precedence ∧ op.isAssociative then right.reading r (some (op, l))
    else .binary op l (right.reading r none)
  | .not e, c => joined c (.not (e.reading r none))
  | .neg e, c => joined c (.neg (e.reading r none))
  | .inList e values negated, c => joined c (.inList (e.reading r none) (readings r values) negated)
  | .inQuery e q negated, c => joined c (.inQuery (e.reading r none) (q.block r) negated)
  | .between e low high negated, c =>
    joined c (.between (e.reading r none) (low.reading r none) (high.reading r none) negated)
  | .isNull e negated, c => joined c (.isNull (e.reading r none) negated)
  | .like e pattern negated, c => joined c (.like (e.reading r none) (pattern.reading r none) negated)
  | .paren e, c => joined c (e.reading r none)
  | e, c => joined c (.atom (e.block r))

def readings (r : Rules) : List Expr → List Reading
  | [] => []
  | e :: es => e.reading r none :: readings r es

end

namespace Emission

open Token (space parens parensIf brackets commaList clause path)

variable {r : Rules} {e : Expr} {c : Option (BinaryOp × Reading)} {stack : List Frame} {ts : List Token}
  {is : List Item} {v : Reading}

theorem reading_block (h : e.isBlock) : e.reading r c = joined c (.atom (e.block r)) := by
  cases e with
  | column | literal | keyword | call | case | subquery | cast => rw [Expr.reading]; all_goals nofun
  | «exists» q negated => rw [Expr.reading]; all_goals nofun
  | _ => cases h

def isOperation : Expr → Bool
  | .binary _ _ _ | .inList _ _ _ | .inQuery _ _ _ | .between _ _ _ _ | .isNull _ _ | .like _ _ _ => true
  | _ => false

def waiting (c : Option (BinaryOp × Reading)) (stack : List Frame) : List Frame :=
  match c with
  | none => stack
  | some (op, left) => .binary op left :: stack

/-- The expression may stand without parentheses behind the operators: only the one that it shares a chain
with binds as strongly. -/
structure Fits (c : Option (BinaryOp × Reading)) (stack : List Frame) (e : Expr) : Prop where
  chain : ∀ op left, c = some (op, left) → op.isAssociative ∧ e.precedence = op.precedence
  below : isOperation e → ∀ f ∈ stack.head?, f.level < e.level

/-- From the items the reader gets what the expression is read as, up to the operators that still wait. -/
def Reads (r : Rules) (e : Expr) (is : List Item) : Prop :=
  ∀ done c stack, Fits c stack e → ∃ stack' v,
    Reader.items ⟨done, waiting c stack, .operand⟩ is = some ⟨done, stack', .after v⟩ ∧
      ∀ level ≤ e.level, reduce level stack' v = reduce level stack (e.reading r c)

def IsRead (r : Rules) (e : Expr) : Prop :=
  ∀ ts, e.tokens r = .ok ts → ∃ is, Outlined ts is ∧ Reads r e is

/-- The emitter leaves out parentheses by the strengths that the reader has. -/
theorem strength_eq_precedence (op : BinaryOp) : strength op = op.precedence := by cases op <;> rfl

theorem notStrength_eq : notStrength = Expr.notLevel := rfl

theorem predicateStrength_eq : predicateStrength = Expr.predicateLevel := rfl

theorem precedence_pos (op : BinaryOp) : 1 ≤ op.precedence := by cases op <;> decide

theorem level_pos (e : Expr) : 1 ≤ e.level := by
  cases e with
  | binary op _ _ => exact precedence_pos op
  | _ => exact Nat.le_of_ble_eq_true rfl

theorem precedence_lt_negLevel (op : BinaryOp) : op.precedence < negLevel := by cases op <;> decide

/-- Of the expressions that are not parenthesised as an atom only the minus sign is weaker than its precedence. -/
theorem lt_level {n : Nat} (small : n < negLevel) (h : n < e.precedence) : n < e.level := by
  cases e with
  | neg => exact small
  | _ => exact h

theorem le_level {n : Nat} (small : n ≤ negLevel) (h : n ≤ e.precedence) : n ≤ e.level := by
  cases e with
  | neg => exact small
  | _ => exact h

theorem fits_start : Fits none [] e := ⟨nofun, fun _ => nofun⟩

theorem fits_behind {f : Frame} (h : f.level < e.level) : Fits none (f :: stack) e :=
  ⟨nofun, fun _ _ top => Option.some.inj top ▸ h⟩

theorem associative_precedence {op : BinaryOp} (h : op.isAssociative) :
    op.precedence ≠ Expr.notLevel ∧ op.precedence ≠ Expr.predicateLevel ∧ op.precedence ≠ Expr.atomLevel := by
  cases op <;> revert h <;> decide

theorem Fits.unchained (h : Fits c stack e) (plain : ∀ op left right, e ≠ .binary op left right) : c = none := by
  cases c with
  | none => rfl
  | some x =>
    obtain ⟨assoc, same⟩ := h.chain x.1 x.2 rfl
    obtain ⟨h3, h4, h255⟩ := associative_precedence assoc
    rw [← same] at h3 h4 h255
    cases e with
    | binary op left right => exact (plain op left right rfl).elim
    | not => exact (h3 rfl).elim
    | inList | inQuery | between | isNull | like => exact (h4 rfl).elim
    | _ => exact (h255 rfl).elim

theorem reads_of (plain : ∀ op left right, e ≠ .binary op left right)
    (h : ∀ done stack, Fits none stack e → ∃ stack' v,
      Reader.items ⟨done, stack, .operand⟩ is = some ⟨done, stack', .after v⟩ ∧
        ∀ level ≤ e.level, reduce level stack' v = reduce level stack (e.reading r none)) : Reads r e is := by
  intro done c stack fits
  obtain rfl := fits.unchained plain
  exact h done stack fits

theorem Reads.whole (h : Reads r e is) :
    (Reader.start.items is).bind Reader.finish = some [e.reading r none] := by
  obtain ⟨stack', v, run, reduced⟩ := h [] none [] fits_start
  have closed := reduced 1 (level_pos e)
  rw [Reader.start]
  simp only [waiting] at run
  rw [run, Option.bind_some]
  simp only [Reader.finish, closed, reduce, List.nil_append]

theorem group_read (h : Reads r e is) (silent : words is = []) (done : List Reading) (stack : List Frame) :
    Reader.items ⟨done, stack, .operand⟩ [.group is] = some ⟨done, stack, .after (e.reading r none)⟩ := by
  rw [Reader.items_singleton, Reader.item, h.whole]
  simp [Reader.group, Reader.isQuery, silent]

theorem operand_read {b : Bool} (h : IsRead r e) (emitted : e.tokens r = .ok ts) :
    ∃ is, Outlined (parensIf b ts) is ∧ ∀ done stack, (b = false → Fits none stack e) → ∃ stack' v,
      Reader.items ⟨done, stack, .operand⟩ is = some ⟨done, stack', .after v⟩ ∧
        ∀ level, (b = false → level ≤ e.level) → reduce level stack' v = reduce level stack (e.reading r none) := by
  obtain ⟨is, outlined, reads⟩ := h ts emitted
  cases b with
  | false =>
    refine ⟨is, outlined, fun done stack fits => ?_⟩
    obtain ⟨stack', v, run, reduced⟩ := reads done none stack (fits rfl)
    exact ⟨stack', v, run, fun level le => reduced level (le rfl)⟩
  | true =>
    refine ⟨[.group is], outlined.parens, fun done stack _ => ?_⟩
    exact ⟨stack, _, group_read reads (expr_silent emitted outlined) done stack, fun _ _ => rfl⟩

section

variable {op : BinaryOp} {left right : Expr} {l : Reading}

theorem Fits.head (fits : Fits c stack (.binary op left right)) : ∀ f ∈ stack.head?, f.level < op.precedence :=
  fits.below rfl

theorem reduce_waiting (fits : Fits c stack (.binary op left right)) :
    reduce op.precedence (waiting c stack) v = (stack, joined c v) := by
  have below := fits.head
  cases c with
  | none => exact reduce_below below
  | some x =>
    have same : op.precedence ≤ (Frame.binary x.1 x.2).level :=
      Nat.le_of_eq ((fits.chain x.1 x.2 rfl).2.trans (strength_eq_precedence x.1).symm)
    exact (reduce_close same rfl).trans (reduce_below below)

theorem waiting_lt (fits : Fits c stack (.binary op left right)) (h : op.precedence < left.precedence) :
    Fits none (waiting c stack) left := by
  have stronger : op.precedence < left.level := lt_level (precedence_lt_negLevel op) h
  cases c with
  | none => exact ⟨nofun, fun _ f top => Nat.lt_trans (fits.head f top) stronger⟩
  | some x =>
    have same : strength x.1 = op.precedence := (strength_eq_precedence x.1).trans (fits.chain x.1 x.2 rfl).2.symm
    exact fits_behind (Nat.lt_of_le_of_lt (Nat.le_of_eq same) stronger)

/-- What stands in front of an operator is complete once the operator is read. -/
theorem left_read (op : BinaryOp) (right : Expr) (h : IsRead r left) (emitted : left.tokens r = .ok ts) :
    ∃ is, Outlined (parensIf (left.needsParensLeft op) ts) is ∧
      ∀ done c stack, Fits c stack (.binary op left right) → ∃ stack' v,
        Reader.items ⟨done, waiting c stack, .operand⟩ is = some ⟨done, stack', .after v⟩ ∧
          reduce op.precedence stack' v = (stack, if left.precedence = op.precedence then left.reading r c
            else joined c (left.reading r none)) := by
  by_cases same : left.precedence = op.precedence
  · have bare : left.needsParensLeft op = false := by simp [Expr.needsParensLeft, same]
    obtain ⟨is, outlined, reads⟩ := h ts emitted
    rw [bare]
    refine ⟨is, outlined, fun done c stack fits => ?_⟩
    have level : op.precedence ≤ left.level := le_level (Nat.le_of_lt (precedence_lt_negLevel op)) (Nat.le_of_eq same.symm)
    have inside : Fits c stack left :=
      ⟨fun op' l' e => same ▸ fits.chain op' l' e, fun _ f top => Nat.lt_of_lt_of_le (fits.head f top) level⟩
    obtain ⟨stack', v, run, reduced⟩ := reads done c stack inside
    refine ⟨stack', v, run, ?_⟩
    rw [reduced _ level, if_pos same, reduce_below fits.head]
  · obtain ⟨is, outlined, read⟩ := operand_read (b := left.needsParensLeft op) h emitted
    refine ⟨is, outlined, fun done c stack fits => ?_⟩
    have stronger (bare : left.needsParensLeft op = false) : op.precedence < left.precedence := by
      simp only [Expr.needsParensLeft, decide_eq_false_iff_not] at bare
      omega
    obtain ⟨stack', v, run, reduced⟩ := read done (waiting c stack) fun bare => waiting_lt fits (stronger bare)
    refine ⟨stack', v, run, ?_⟩
    rw [reduced _ fun bare => Nat.le_of_lt (lt_level (precedence_lt_negLevel op) (stronger bare)), if_neg same,
      reduce_waiting fits]

/-- The operator waits for its right operand; no BETWEEN takes its AND. -/
theorem operator_read {stack' : List Frame} (done : List Reading) (closed : reduce op.precedence stack' v = (stack, l))
    (below : ∀ f ∈ stack.head?, f.level < op.precedence) : Reader.items ⟨done, stack', .after v⟩ [.token op.token]
      = some ⟨done, .binary op l :: stack, .operand⟩ := by
  have step : Reader.token ⟨done, stack', .after v⟩ op.token
      = some (Reader.binaryToken ⟨done, stack', .after v⟩ v op) := by
    cases op <;> rfl
  rw [Reader.items_singleton, Reader.item, step, Reader.binaryToken.eq_def, strength_eq_precedence, closed]
  split
  · rename_i operand negated stack w eq
    cases eq
    exact absurd (below _ rfl) (by decide : ¬predicateStrength < BinaryOp.and.precedence)
  · rename_i eq
    cases eq
    rfl

theorem right_read (op : BinaryOp) (h : IsRead r right) (emitted : right.tokens r = .ok ts) :
    ∃ is, Outlined (parensIf (right.needsParensRight op) ts) is ∧
      ∀ done stack l, (∀ f ∈ stack.head?, f.level < op.precedence) → ∃ stack' v,
        Reader.items ⟨done, .binary op l :: stack, .operand⟩ is = some ⟨done, stack', .after v⟩ ∧
          ∀ level ≤ op.precedence, reduce level stack' v = reduce level stack
            (if right.precedence = op.precedence ∧ op.isAssociative then right.reading r (some (op, l))
              else .binary op l (right.reading r none)) := by
  -- Without parentheses a chain on the right goes on with the operator that waits.
  by_cases same : right.precedence = op.precedence ∧ op.isAssociative
  · have bare : right.needsParensRight op = false := by simp [Expr.needsParensRight, same.1, same.2]
    obtain ⟨is, outlined, reads⟩ := h ts emitted
    rw [bare]
    refine ⟨is, outlined, fun done stack l below => ?_⟩
    have level : op.precedence ≤ right.level := le_level (Nat.le_of_lt (precedence_lt_negLevel op)) (Nat.le_of_eq same.1.symm)
    have inside : Fits (some (op, l)) stack right :=
      ⟨fun op' l' e => by cases e; exact ⟨same.2, same.1⟩, fun _ f top => Nat.lt_of_lt_of_le (below f top) level⟩
    obtain ⟨stack', v, run, reduced⟩ := reads done _ stack inside
    refine ⟨stack', v, run, fun n le => ?_⟩
    rw [if_pos same, reduced n (Nat.le_trans le level)]
  · obtain ⟨is, outlined, read⟩ := operand_read (b := right.needsParensRight op) h emitted
    refine ⟨is, outlined, fun done stack l below => ?_⟩
    have stronger (bare : right.needsParensRight op = false) : op.precedence < right.level := by
      refine lt_level (precedence_lt_negLevel op) ?_
      simp only [Expr.needsParensRight, Bool.or_eq_false_iff, decide_eq_false_iff_not, Bool.and_eq_false_iff,
        beq_eq_false_iff_ne, Bool.not_eq_false'] at bare
      exact Nat.lt_of_le_of_ne (Nat.le_of_not_lt bare.1) fun equal =>
        bare.2.elim (fun other => other equal.symm) fun assoc => same ⟨equal.symm, assoc⟩
    have level : (Frame.binary op l).level = op.precedence := strength_eq_precedence op
    obtain ⟨stack', v, run, reduced⟩ := read done (.binary op l :: stack) fun bare =>
      fits_behind (Nat.lt_of_le_of_lt (Nat.le_of_eq level) (stronger bare))
    refine ⟨stack', v, run, fun n le => ?_⟩
    rw [reduced n fun bare => Nat.le_trans le (Nat.le_of_lt (stronger bare)), if_neg same,
      reduce_close (Nat.le_trans le (Nat.le_of_eq level.symm)) rfl]

theorem binary_read (hl : IsRead r left) (hr : IsRead r right) : IsRead r (.binary op left right) := by
  intro ts emitted
  obtain ⟨a, b, el, er, rfl⟩ := Expr.tokens_binary_ok.1 emitted
  obtain ⟨is, left_outlined, left_reads⟩ := left_read op right hl el
  obtain ⟨js, right_outlined, right_reads⟩ := right_read op hr er
  have operator : Outlined [space, op.token, space] [.token op.token] :=
    ((Outlined.token (by cases op <;> rfl)).append .space).cons_space
  refine ⟨is ++ [Item.token op.token] ++ js, (left_outlined.append operator).append right_outlined, ?_⟩
  intro done c stack fits
  obtain ⟨stack₁, v₁, run₁, closed⟩ := left_reads done c stack fits
  obtain ⟨stack₂, v₂, run₂, reduced⟩ := right_reads done stack _ fits.head
  refine ⟨stack₂, v₂, ?_, fun n le => ?_⟩
  · rw [Reader.items_append, Reader.items_append, run₁, Option.bind_some, operator_read done closed fits.head,
      Option.bind_some, run₂]
  · rw [reduced n le, Expr.reading]

end

theorem block_isRead (block : e.isBlock) : IsRead r e := by
  intro ts emitted
  obtain ⟨is, outlined, atom⟩ := block_read block emitted
  have plain : ∀ op left right, e ≠ .binary op left right := by
    rintro op left right rfl
    cases block
  refine ⟨is, outlined, reads_of plain fun done stack _ => ⟨stack, _, atom done stack, fun n _ => ?_⟩⟩
  rw [reading_block block, block_eq emitted outlined, joined]

theorem paren_read (h : IsRead r e) : IsRead r (.paren e) := by
  intro ts emitted
  obtain ⟨t, inner, rfl⟩ := Expr.tokens_paren_ok.1 emitted
  obtain ⟨is, outlined, reads⟩ := h t inner
  refine ⟨[.group is], outlined.parens, reads_of nofun fun done stack _ => ?_⟩
  refine ⟨stack, _, group_read reads (expr_silent inner outlined) done stack, fun n _ => ?_⟩
  rw [Expr.reading, joined]

theorem operation_level (h : isOperation e) : e.level ≠ notStrength := by
  cases e with
  | binary op left right =>
    intro same
    change op.precedence = notStrength at same
    cases op <;> cases same
  | inList | inQuery | between | isNull | like => exact (by decide : Expr.predicateLevel ≠ notStrength)
  | _ => cases h

theorem not_read (h : IsRead r e) : IsRead r (.not e) := by
  intro ts emitted
  obtain ⟨t, operand, rfl⟩ := Expr.tokens_not_ok.1 emitted
  obtain ⟨is, outlined, read⟩ := operand_read (b := e.precedence < Expr.notLevel) h operand
  refine ⟨.token (.keyword .not) :: is, outlined.cons_space.cons rfl, reads_of nofun fun done stack _ => ?_⟩
  have level (bare : decide (e.precedence < Expr.notLevel) = false) : notStrength ≤ e.level :=
    le_level (by decide) (notStrength_eq ▸ Nat.le_of_not_lt (of_decide_eq_false bare))
  obtain ⟨stack', v, run, reduced⟩ := read done (.not :: stack) fun bare => ⟨nofun, fun operation f top =>
    Option.some.inj top ▸ Nat.lt_of_le_of_ne (level bare) (operation_level operation).symm⟩
  refine ⟨stack', v, Reader.items_token.trans run, fun n le => ?_⟩
  rw [reduced n fun bare => Nat.le_trans le (level bare), reduce_close le rfl, Expr.reading, joined]

theorem operation_loose (h : isOperation e) : e.precedence < negLevel := by
  cases e with
  | binary op => exact precedence_lt_negLevel op
  | inList | inQuery | between | isNull | like => exact (by decide : Expr.predicateLevel < negLevel)
  | _ => cases h

theorem neg_read (h : IsRead r e) : IsRead r (.neg e) := by
  intro ts emitted
  obtain ⟨t, operand, rfl⟩ := Expr.tokens_neg_ok.1 emitted
  obtain ⟨is, outlined, read⟩ := operand_read (b := e.needsParensAsAtom) h operand
  refine ⟨.token (.symbol .minus) :: is, outlined.cons rfl, reads_of nofun fun done stack _ => ?_⟩
  have atom (bare : e.needsParensAsAtom = false) : negLevel < e.precedence := by
    have same : e.precedence = Expr.atomLevel := by simpa [Expr.needsParensAsAtom] using bare
    rw [same]
    decide
  have fits (bare : e.needsParensAsAtom = false) : Fits none (.neg :: stack) e :=
    ⟨nofun, fun operation => absurd (atom bare) (Nat.lt_asymm (operation_loose operation))⟩
  obtain ⟨stack', v, run, reduced⟩ := read done (.neg :: stack) fits
  refine ⟨stack', v, Reader.items_token.trans run, fun n le => ?_⟩
  have level (bare : e.needsParensAsAtom = false) : n ≤ e.level :=
    Nat.le_trans le (le_level Nat.le.refl (Nat.le_of_lt (atom bare)))
  rw [reduced n level, reduce_close le rfl, Expr.reading, joined]

/-- The operand of a predicate is complete once the predicate's keyword is read. -/
theorem tested_read (h : IsRead r e) (emitted : e.tokens r = .ok ts) :
    ∃ is, Outlined (parensIf e.needsParensInPredicate ts) is ∧
      ∀ done stack, (∀ f ∈ stack.head?, f.level < predicateStrength) → ∃ stack' v,
        Reader.items ⟨done, stack, .operand⟩ is = some ⟨done, stack', .after v⟩ ∧
          reduce predicateStrength stack' v = (stack, e.reading r none) := by
  obtain ⟨is, outlined, read⟩ := operand_read (b := e.needsParensInPredicate) h emitted
  refine ⟨is, outlined, fun done stack below => ?_⟩
  have level (bare : e.needsParensInPredicate = false) : predicateStrength < e.level :=
    lt_level (by decide) (by simpa [Expr.needsParensInPredicate, predicateStrength_eq] using bare)
  obtain ⟨stack', v, run, reduced⟩ := read done stack fun bare =>
    ⟨nofun, fun _ f top => Nat.lt_trans (below f top) (level bare)⟩
  refine ⟨stack', v, run, ?_⟩
  rw [reduced _ fun bare => Nat.le_of_lt (level bare), reduce_below below]

theorem bound_read (h : IsRead r e) (emitted : e.tokens r = .ok ts) :
    ∃ is, Outlined (parensIf e.needsParensInPredicate ts) is ∧
      ∀ done f stack, f.level = predicateStrength → ∃ stack' v,
        Reader.items ⟨done, f :: stack, .operand⟩ is = some ⟨done, stack', .after v⟩ ∧
          ∀ level ≤ predicateStrength, reduce level stack' v = reduce level (f :: stack) (e.reading r none) := by
  obtain ⟨is, outlined, read⟩ := operand_read (b := e.needsParensInPredicate) h emitted
  refine ⟨is, outlined, fun done f stack same => ?_⟩
  have level (bare : e.needsParensInPredicate = false) : predicateStrength < e.level :=
    lt_level (by decide) (by simpa [Expr.needsParensInPredicate, predicateStrength_eq] using bare)
  obtain ⟨stack', v, run, reduced⟩ := read done (f :: stack) fun bare => fits_behind (same ▸ level bare)
  exact ⟨stack', v, run, fun n le => reduced n fun bare => Nat.le_trans le (Nat.le_of_lt (level bare))⟩

def negationItems (negated : Bool) : List Item := if negated then [.token (.keyword .not)] else []

theorem negation_outlined (negated : Bool) : Outlined (Expr.tokens.negation negated) (negationItems negated) := by
  cases negated with
  | false => exact .nil
  | true => exact (Outlined.token rfl).cons_space

theorem predicate_read {k : Keyword} (known : k = .in_ ∨ k = .between ∨ k = .like) (done : List Reading)
    (negated : Bool) {stack' : List Frame} {w : Reading} (closed : reduce predicateStrength stack' v = (stack, w)) :
    Reader.items ⟨done, stack', .after v⟩ (negationItems negated ++ [Item.token (.keyword k)])
      = Reader.predicate done stack w negated k := by
  have taken (place : Place) : Reader.predicateToken ⟨done, stack', place⟩ v negated (.keyword k)
      = Reader.predicate done stack w negated k := by
    rw [Reader.predicateToken.eq_def, closed]
  cases negated with
  | true =>
    have step : Reader.token ⟨done, stack', .after v⟩ (.keyword .not) = some ⟨done, stack', .negation v⟩ := rfl
    rw [negationItems, if_pos rfl, List.singleton_append, Reader.items_token, step, Option.bind_some,
      Reader.items_singleton, Reader.item]
    exact taken _
  | false =>
    have step : Reader.token ⟨done, stack', .after v⟩ (.keyword k)
        = Reader.predicateToken ⟨done, stack', .after v⟩ v false (.keyword k) := by
      rcases known with rfl | rfl | rfl <;> rfl
    rw [negationItems, if_neg Bool.false_ne_true, List.nil_append, Reader.items_singleton, Reader.item, step]
    exact taken _

theorem front_read {k : Keyword} (negated : Bool) (known : k = .in_ ∨ k = .between ∨ k = .like) (h : IsRead r e)
    (emitted : e.tokens r = .ok ts) :
    ∃ is, Outlined (parensIf e.needsParensInPredicate ts ++ Expr.tokens.negation negated ++ [space, .keyword k, space]) is ∧
      ∀ done stack, (∀ f ∈ stack.head?, f.level < predicateStrength) →
        Reader.items ⟨done, stack, .operand⟩ is = Reader.predicate done stack (e.reading r none) negated k := by
  obtain ⟨is, outlined, tested⟩ := tested_read h emitted
  have keyword : Outlined [space, .keyword k, space] [.token (.keyword k)] :=
    ((Outlined.token (by rcases known with rfl | rfl | rfl <;> rfl)).append .space).cons_space
  refine ⟨is ++ negationItems negated ++ [.token (.keyword k)],
    (outlined.append (negation_outlined negated)).append keyword, fun done stack below => ?_⟩
  obtain ⟨stack', v, run, closed⟩ := tested done stack below
  rw [List.append_assoc, Reader.items_append, run, Option.bind_some, predicate_read known done negated closed]

theorem inQuery_read {q : Query} {negated : Bool} (h : IsRead r e) : IsRead r (.inQuery e q negated) := by
  intro ts emitted
  obtain ⟨a, b, operand, query, rfl⟩ := Expr.tokens_inQuery_ok.1 emitted
  obtain ⟨is, outlined, front⟩ := front_read (k := .in_) negated (by simp) h operand
  refine ⟨is ++ [.group (q.block r)], outlined.append (query_outlined query).1.parens,
    reads_of nofun fun done stack fits => ⟨stack, _, ?_, fun n _ => rfl⟩⟩
  rw [Reader.items_append, front done stack (fits.below rfl), Reader.predicate, Option.bind_some,
    Reader.items_singleton, Reader.item, Expr.reading, joined]
  simp [Reader.group, isQuery_block query]

theorem like_read {pattern : Expr} {negated : Bool} (h : IsRead r e) (hp : IsRead r pattern) :
    IsRead r (.like e pattern negated) := by
  intro ts emitted
  obtain ⟨a, b, operand, bound, rfl⟩ := Expr.tokens_like_ok.1 emitted
  obtain ⟨is, outlined, front⟩ := front_read (k := .like) negated (by simp) h operand
  obtain ⟨js, outlined', read⟩ := bound_read hp bound
  refine ⟨is ++ js, ?_, reads_of nofun fun done stack fits => ?_⟩
  · simpa [clause] using outlined.append outlined'
  obtain ⟨stack', v, run, reduced⟩ := read done (.like (e.reading r none) negated) stack rfl
  refine ⟨stack', v, ?_, fun n le => ?_⟩
  · rw [Reader.items_append, front done stack (fits.below rfl), Reader.predicate, Option.bind_some, run]
  · rw [reduced n le, reduce_close le rfl, Expr.reading, joined]

theorem between_read {low high : Expr} {negated : Bool} (h : IsRead r e) (hl : IsRead r low) (hh : IsRead r high) :
    IsRead r (.between e low high negated) := by
  intro ts emitted
  obtain ⟨a, b, c, operand, lower, upper, rfl⟩ := Expr.tokens_between_ok.1 emitted
  obtain ⟨is, outlined, front⟩ := front_read (k := .between) negated (by simp) h operand
  obtain ⟨js, outlined₁, read₁⟩ := bound_read hl lower
  obtain ⟨ks, outlined₂, read₂⟩ := bound_read hh upper
  have and_ : Outlined [space, .keyword .and, space] [.token (.keyword .and)] :=
    ((Outlined.token rfl).append .space).cons_space
  refine ⟨is ++ js ++ [.token (.keyword .and)] ++ ks, ?_, reads_of nofun fun done stack fits => ?_⟩
  · simpa [clause] using ((outlined.append outlined₁).append and_).append outlined₂
  obtain ⟨stack₁, v₁, run₁, reduced₁⟩ := read₁ done (.low (e.reading r none) negated) stack rfl
  obtain ⟨stack₂, v₂, run₂, reduced₂⟩ := read₂ done (.high (e.reading r none) (low.reading r none) negated) stack rfl
  -- the AND finds the BETWEEN on top of the stack
  have closed : reduce (strength .and) stack₁ v₁
      = (.low (e.reading r none) negated :: stack, low.reading r none) := reduced₁ _ (by decide)
  have step : Reader.items ⟨done, stack₁, .after v₁⟩ [.token (.keyword .and)]
      = some ⟨done, .high (e.reading r none) (low.reading r none) negated :: stack, .operand⟩ := by
    have token : Reader.token ⟨done, stack₁, .after v₁⟩ (.keyword .and)
        = some (Reader.binaryToken ⟨done, stack₁, .after v₁⟩ v₁ .and) := rfl
    rw [Reader.items_singleton, Reader.item, token, Reader.binaryToken.eq_def, closed]
  refine ⟨stack₂, v₂, ?_, fun n le => ?_⟩
  · rw [Reader.items_append, Reader.items_append, Reader.items_append, front done stack (fits.below rfl),
      Reader.predicate, Option.bind_some, run₁, Option.bind_some, step, Option.bind_some, run₂]
  · rw [reduced₂ n le, reduce_close le rfl, Expr.reading, joined]

theorem isNull_read {negated : Bool} (h : IsRead r e) : IsRead r (.isNull e negated) := by
  intro ts emitted
  obtain ⟨t, operand, rfl⟩ := Expr.tokens_isNull_ok.1 emitted
  obtain ⟨is, outlined, tested⟩ := tested_read h operand
  have keyword : Outlined [space, .keyword (if negated then .isNotNull else .isNull)]
      [.token (.keyword (if negated then .isNotNull else .isNull))] :=
    (Outlined.token (by cases negated <;> rfl)).cons_space
  refine ⟨_, outlined.append keyword, reads_of nofun fun done stack fits => ?_⟩
  obtain ⟨stack', v, run, closed⟩ := tested done stack (fits.below rfl)
  refine ⟨stack, .isNull (e.reading r none) negated, ?_, fun n _ => by rw [Expr.reading, joined]⟩
  rw [Reader.items_append, run, Option.bind_some, Reader.items_singleton, Reader.item]
  cases negated with
  | true => simp only [if_true, Reader.token, Reader.nextToken.eq_def, closed]
  | false => simp only [Bool.false_eq_true, if_false, Reader.token, Reader.nextToken.eq_def, closed]

theorem finish_read {done : List Reading} {w : Reading} (closed : reduce 1 stack v = ([], w)) :
    Reader.finish ⟨done, stack, .after v⟩ = some (done ++ [w]) := by
  simp only [Reader.finish, closed]

theorem comma_read {done : List Reading} {w : Reading} (closed : reduce 1 stack v = ([], w)) :
    Reader.items ⟨done, stack, .after v⟩ [.token (.symbol .comma)] = some ⟨done ++ [w], [], .operand⟩ := by
  have step : Reader.token ⟨done, stack, .after v⟩ (.symbol .comma)
      = (Reader.finish ⟨done, stack, .after v⟩).map fun done => ⟨done, [], .operand⟩ := rfl
  rw [Reader.items_singleton, Reader.item, step, finish_read closed, Option.map_some]

theorem values_read {es : List Expr} {tss : List (List Token)} (h : ∀ e' ∈ e :: es, IsRead r e')
    (first : e.tokens r = .ok ts) (rest : List.Forall₂ (fun e t => e.tokens r = .ok t) es tss) :
    ∃ is, Outlined (commaList (ts :: tss)) is ∧ words is = [] ∧
      ∀ done, (Reader.items ⟨done, [], .operand⟩ is).bind Reader.finish = some (done ++ readings r (e :: es)) := by
  induction es generalizing e ts tss with
  | nil =>
    cases rest
    obtain ⟨is, outlined, reads⟩ := h e List.mem_cons_self ts first
    refine ⟨is, by simpa [commaList] using outlined, expr_silent first outlined, fun done => ?_⟩
    obtain ⟨stack, v, run, reduced⟩ := reads done none [] fits_start
    change Reader.items ⟨done, [], .operand⟩ is = some ⟨done, stack, .after v⟩ at run
    rw [run, Option.bind_some, finish_read (reduced 1 (level_pos e)), readings, readings]
  | cons e' es ih =>
    obtain ⟨t', tss', next, others, rfl⟩ := List.forall₂_cons_left_iff.1 rest
    obtain ⟨is, outlined, reads⟩ := h e List.mem_cons_self ts first
    obtain ⟨js, outlined', silent', read'⟩ := ih (List.forall_mem_cons.1 h).2 next others
    have comma : Outlined [.symbol .comma, space] [.token (.symbol .comma)] := (Outlined.token rfl).append .space
    refine ⟨is ++ [Item.token (.symbol .comma)] ++ js, ?_, ?_, fun done => ?_⟩
    · simpa [commaList] using (outlined.append comma).append outlined'
    · simp only [words_append, silent', expr_silent first outlined]
      rfl
    obtain ⟨stack, v, run, reduced⟩ := reads done none [] fits_start
    change Reader.items ⟨done, [], .operand⟩ is = some ⟨done, stack, .after v⟩ at run
    rw [Reader.items_append, Reader.items_append, run, Option.bind_some, comma_read (reduced 1 (level_pos e)),
      Option.bind_some, read', List.append_assoc, List.singleton_append]
    rfl

theorem inList_read {values : List Expr} {negated : Bool} (h : IsRead r e) (hvs : ∀ v ∈ values, IsRead r v)
    (nonempty : values ≠ []) : IsRead r (.inList e values negated) := by
  intro ts emitted
  rcases Expr.tokens_inList_ok.1 emitted with ⟨empty, -⟩ | ⟨-, t, tss, operand, list, rfl⟩
  · exact (nonempty empty).elim
  obtain ⟨is, outlined, front⟩ := front_read (k := .in_) negated (by simp) h operand
  cases list with
  | nil => exact (nonempty rfl).elim
  | cons first rest =>
    obtain ⟨js, outlined', silent, read⟩ := values_read hvs first rest
    refine ⟨is ++ [.group js], outlined.append outlined'.parens,
      reads_of nofun fun done stack fits => ⟨stack, _, ?_, fun n _ => rfl⟩⟩
    rw [Reader.items_append, front done stack (fits.below rfl), Reader.predicate, Option.bind_some,
      Reader.items_singleton, Reader.item, Reader.start, read, Expr.reading, joined]
    simp [Reader.group, Reader.isQuery, silent]

mutual

theorem isRead : ∀ e : Expr, e.Readable → IsRead r e
  | .binary _ left right, h => binary_read (isRead left h.1) (isRead right h.2)
  | .not e, h => not_read (isRead e h)
  | .neg e, h => neg_read (isRead e h)
  | .inList e values _, h => inList_read (isRead e h.1) (allRead values h.2.2) h.2.1
  | .inQuery e _ _, h => inQuery_read (isRead e h)
  | .between e low high _, h => between_read (isRead e h.1) (isRead low h.2.1) (isRead high h.2.2)
  | .isNull e _, h => isNull_read (isRead e h)
  | .like e pattern _, h => like_read (isRead e h.1) (isRead pattern h.2)
  | .paren e, h => paren_read (isRead e h)
  | .column _ _, _ => block_isRead rfl
  | .literal _, _ => block_isRead rfl
  | .keyword _, _ => block_isRead rfl
  | .call _ _ _, _ => block_isRead rfl
  | .case _ _ _, _ => block_isRead rfl
  | .subquery _, _ => block_isRead rfl
  | .exists _ _, h => block_isRead (by cases h; rfl)
  | .cast _ _, _ => block_isRead rfl

theorem allRead : ∀ es : List Expr, AllReadable es → ∀ e ∈ es, IsRead r e
  | [], _ => nofun
  | e :: es, h => List.forall_mem_cons.2 ⟨isRead e h.1, allRead es h.2⟩

end

theorem read_emitted (readable : e.Readable) (emitted : e.tokens r = .ok ts) :
    read ts = some (e.reading r none) := by
  obtain ⟨is, outlined, reads⟩ := isRead e readable ts emitted
  rw [read, outlined.outline_eq, Option.bind_some, reads.whole]

end Emission

end QueryBridge
