import QueryBridge.Proofs.Emission.Arithmetic
import QueryBridge.Tree.Builder

set_option autoImplicit false

/-! Two numbers are calculated before they are written: an index is lowered by one where the first
element has the number zero, and a limit or an offset comes from an unsigned count. Both have 64
bits and wrap around at the end of the signed range. An index that is no literal is written as a
difference, which is read as one. -/

namespace QueryBridge

open Token (space parens parensIf brackets clause)

theorem toInt_sub_one (n : Int64) :
    (n - 1).toInt = if n = Int64.minValue then Int64.maxValue.toInt else n.toInt - 1 := by
  have lowest : n = Int64.minValue ↔ n.toInt = Int64.minValue.toInt := Int64.toInt_inj.symm
  have low := Int64.le_toInt n
  have high := Int64.toInt_lt n
  have one : (1 : Int64).toInt = 1 := by decide
  have least := Int64.toInt_minValue
  have greatest := Int64.toInt_maxValue
  rw [Int64.toInt_sub, one, Int.bmod_def]
  simp only [lowest]
  split_ifs <;> omega

theorem toInt_toInt64 (n : UInt64) :
    n.toInt64.toInt = if n.toNat ≤ Int64.maxValue.toInt then (n.toNat : Int) else n.toNat - UInt64.size := by
  have bits : n.toInt64.toInt = n.toBitVec.toInt := rfl
  have greatest := Int64.toInt_maxValue
  have size : UInt64.size = 18446744073709551616 := rfl
  rw [bits, BitVec.toInt_eq_toNat_cond, UInt64.toNat_toBitVec]
  split_ifs <;> omega

def Query.unbounded (q : Query) : Query := { q with limit := none, offset := none }

namespace Emission

/-- What stands behind an index that is no literal where the first element has the number zero. -/
def minusOne : List Token := [space, .symbol .minus, space, .int 1]

def Reading.lessOne (v : Reading) : Reading := .binary .minus v (.atom [.token (.int 1)])

variable {r : Rules} {e : Expr} {t : List Token} {is : List Item} {v : Reading}

theorem difference_outlined (h : Outlined t is) :
    Outlined (parens t ++ minusOne) [.group is, .token (.symbol .minus), .token (.int 1)] := by
  have behind : Outlined minusOne [.token (.symbol .minus), .token (.int 1)] :=
    .cons_space (.cons rfl (.cons_space (.cons rfl .nil)))
  exact h.parens.append behind

theorem difference_read (emitted : e.tokens r = .ok t) (known : read t = some v) :
    read (parens t ++ minusOne) = some v.lessOne := by
  obtain ⟨is, outlined, silent⟩ := speaking_ascends.expr_holds e t emitted
  have inside : (Reader.start.items is).bind Reader.finish = some [v] := by
    rw [read, outlined.outline_eq, Option.bind_some] at known
    split at known
    · rename_i w whole
      rw [whole, Option.some.inj known]
    · cases known
  have group : Reader.start.item (.group is) = some ⟨[], [], .after v⟩ := by
    rw [Reader.item, inside]
    simp [Reader.group, Reader.start, Reader.isQuery, silent]
  have behind : Reader.items ⟨[], [], .after v⟩ [.token (.symbol .minus), .token (.int 1)] =
      some ⟨[], [.binary .minus v], .after (.atom [.token (.int 1)])⟩ := by
    simp only [Reader.items, Reader.item]
    rfl
  rw [read, (difference_outlined outlined).outline_eq, Option.bind_some, Reader.items_cons, group,
    Option.bind_some, behind]
  rfl

theorem lessOne_value (columns : List String → Int) : v.lessOne.value columns = (v.value columns).map (· - 1) := by
  rw [Reading.lessOne, Reading.value, Reading.value, blockValue]
  cases v.value columns <;> rfl

/-- What is written for an index where the first element has the number zero. -/
structure WritesIndexes (r : Rules) : Prop where
  literal (array : Expr) (n : Int64) (ts : List Token) :
    (Expr.index array (.literal (.int n))).tokens r = .ok ts ↔
      ∃ a, array.tokens r = .ok a ∧ ts = parensIf array.needsParensAsAtom a ++ brackets [.int (n - 1)]
  literalText (n : Int64) : (Token.int (n - 1)).text r =
    toString (if n = Int64.minValue then Int64.maxValue.toInt else n.toInt - 1)
  other (array e : Expr) (ts : List Token) (h : ∀ n, e ≠ .literal (.int n)) :
    (Expr.index array e).tokens r = .ok ts ↔ ∃ a t, array.tokens r = .ok a ∧ e.tokens r = .ok t ∧
      ts = parensIf array.needsParensAsAtom a ++ brackets (parens t ++ minusOne)
  /-- The text of the index is one operand, and what is read is its reading less one. -/
  difference (e : Expr) (t : List Token) (emitted : e.tokens r = .ok t) :
    (∃ is, outline t = some is ∧
      outline (parens t ++ minusOne) = some [.group is, .token (.symbol .minus), .token (.int 1)]) ∧
    ∀ v, read t = some v → read (parens t ++ minusOne) = some v.lessOne ∧
      ∀ columns, v.lessOne.value columns = (v.value columns).map (· - 1)
  value (e : Expr) (arithmetic : e.IsArithmetic) (grouped : e.Regroupable) :
    ∃ t v, e.tokens r = .ok t ∧ read (parens t ++ minusOne) = some v ∧
      ∀ columns, v.value columns = (e.value columns).map (· - 1)

theorem writesIndexes (style : r.indexStyle = .zeroBased) : WritesIndexes r where
  literal array n ts := by
    rw [Expr.tokens_index_ok]
    constructor
    · rintro ⟨a, i, ha, layout, rfl⟩
      cases layout with
      | shifted _ same =>
        cases same
        exact ⟨a, ha, rfl⟩
      | oneBased other | ordinal other => simp [style] at other
      | difference _ other => exact (other n rfl).elim
    · rintro ⟨a, ha, rfl⟩
      exact ⟨a, _, ha, .shifted style rfl, rfl⟩
  literalText n := by
    rw [← toInt_sub_one]
    rfl
  other array e ts h := by
    rw [Expr.tokens_index_ok]
    constructor
    · rintro ⟨a, i, ha, layout, rfl⟩
      cases layout with
      | shifted _ same => exact (h _ same).elim
      | oneBased other | ordinal other => simp [style] at other
      | difference _ _ ht => exact ⟨a, _, ha, ht, rfl⟩
    · rintro ⟨a, t, ha, ht, rfl⟩
      exact ⟨a, _, ha, .difference style h ht, rfl⟩
  difference e t emitted := by
    obtain ⟨is, outlined, -⟩ := speaking_ascends.expr_holds e t emitted
    exact ⟨⟨is, outlined.outline_eq, (difference_outlined outlined).outline_eq⟩,
      fun v known => ⟨difference_read emitted known, lessOne_value⟩⟩
  value e arithmetic grouped := by
    obtain ⟨t, emitted⟩ := arithmetic_emitted r e arithmetic
    have known := read_emitted (arithmetic_readable e arithmetic) emitted
    refine ⟨t, _, emitted, difference_read emitted known, fun columns => ?_⟩
    rw [lessOne_value, (keepsValue e arithmetic grouped).alone]

/-- What is written for a query to which a limit or an offset is given. -/
structure WritesCounts (r : Rules) : Prop where
  limit (q : Query) (n : UInt64) (ts : List Token) : (q.withLimit n).tokens r = .ok ts ↔
    ∃ front f, q.unbounded.tokens r = .ok front ∧
      Led [space, .keyword .offset, space] (fun e t => e.tokens r = .ok t) q.offset f ∧
      ts = front ++ clause .limit [.int n.toInt64] ++ f
  offset (q : Query) (n : UInt64) (ts : List Token) : (q.withOffset n).tokens r = .ok ts ↔
    ∃ front l, q.unbounded.tokens r = .ok front ∧
      Led [space, .keyword .limit, space] (fun e t => e.tokens r = .ok t) q.limit l ∧
      ts = front ++ l ++ offsetPrelude r q.limit.isSome ++ clause .offset [.int n.toInt64]
  text (n : UInt64) : (Token.int n.toInt64).text r =
    toString (if n.toNat ≤ Int64.maxValue.toInt then (n.toNat : Int) else n.toNat - UInt64.size)

theorem tokens_unbounded {q : Query} {ts : List Token} : q.tokens r = .ok ts ↔
    ∃ front l f, q.unbounded.tokens r = .ok front ∧
      Led [space, .keyword .limit, space] (fun e t => e.tokens r = .ok t) q.limit l ∧
      Led (offsetPrelude r q.limit.isSome ++ [space, .keyword .offset, space])
        (fun e t => e.tokens r = .ok t) q.offset f ∧ ts = front ++ l ++ f := by
  simp only [Query.tokens_ok, Query.unbounded, led_none]
  constructor
  · rintro ⟨c, b, o, l, f, ctes, body, orders, limit, offset, rfl⟩
    exact ⟨_, l, f, ⟨c, b, o, [], [], ctes, body, orders, rfl, rfl, rfl⟩, limit, offset, by simp⟩
  · rintro ⟨front, l, f, ⟨c, b, o, _, _, ctes, body, orders, rfl, rfl, rfl⟩, limit, offset, rfl⟩
    exact ⟨c, b, o, l, f, ctes, body, orders, limit, offset, by simp⟩

theorem led_int {lead ts : List Token} {n : Int64} :
    Led lead (fun e t => e.tokens r = .ok t) (some (.int n)) ts ↔ ts = lead ++ [.int n] := by
  have written : (Expr.int n).tokens r = .ok [.int n] := Expr.tokens_literal_ok.2 ⟨_, rfl, rfl⟩
  constructor
  · intro h
    cases h with
    | some h => rw [← Except.ok.inj (written.symm.trans h)]
  · rintro rfl
    exact .some written

theorem writesCounts (r : Rules) : WritesCounts r where
  limit q n ts := by
    have given : offsetPrelude r true = [] := by simp [offsetPrelude]
    rw [tokens_unbounded]
    simp only [Query.withLimit, Query.unbounded, Option.isSome_some, given, List.nil_append, led_int]
    constructor
    · rintro ⟨front, _, f, body, rfl, offset, rfl⟩
      exact ⟨front, f, body, offset, rfl⟩
    · rintro ⟨front, f, body, offset, rfl⟩
      exact ⟨front, _, f, body, rfl, offset, rfl⟩
  offset q n ts := by
    rw [tokens_unbounded]
    simp only [Query.withOffset, Query.unbounded, led_int]
    constructor
    · rintro ⟨front, l, _, body, limit, rfl, rfl⟩
      exact ⟨front, l, body, limit, by simp [clause]⟩
    · rintro ⟨front, l, body, limit, rfl⟩
      exact ⟨front, l, _, body, limit, rfl, by simp [clause]⟩
  text n := by
    rw [← toInt_toInt64]
    rfl

/-- Indexes and counts are written exactly, but for the least index and the counts that no signed number has. -/
theorem integers_written (r : Rules) : (r.indexStyle = .zeroBased → WritesIndexes r) ∧ WritesCounts r :=
  ⟨writesIndexes, writesCounts r⟩

/-- `arr[5]` and `arr[i + 1]`, and ten rows of them. -/
theorem snowflake_integers_written :
    (Expr.index (.column [] "arr") (.literal (.int 5))).tokens Dialect.snowflake.rules =
      .ok ([.ident "arr"] ++ brackets [.int 4]) ∧
    (∃ t v, (Expr.binary .plus (.column [] "i") (.literal (.int 1))).tokens Dialect.snowflake.rules = .ok t ∧
      read (parens t ++ minusOne) = some v ∧ ∀ columns, v.value columns = some (columns ["i"])) ∧
    (Token.int (10 : UInt64).toInt64).text Dialect.snowflake.rules = "10" := by
  obtain ⟨indexes, counts⟩ := integers_written Dialect.snowflake.rules
  have shifted := indexes rfl
  refine ⟨(shifted.literal _ 5 _).2 ⟨_, rfl, rfl⟩, ?_, counts.text 10⟩
  obtain ⟨t, v, emitted, known, value⟩ := shifted.value (.binary .plus (.column [] "i") (.literal (.int 1)))
    (by simp only [Expr.IsArithmetic]; decide) (by simp [Expr.Regroupable])
  refine ⟨t, v, emitted, known, fun columns => ?_⟩
  rw [value]
  simp [Expr.value, BinaryOp.lift, BinaryOp.apply]

/-- The greatest count asks for -1 rows, and in front of the least index is the greatest. -/
theorem greatestCount_wraps :
    ((Query.empty.select [⟨.column [] "a", none⟩]).withLimit 18446744073709551615).sql .sqlite =
      .ok "SELECT \"a\" LIMIT -1" ∧
    (Expr.index (.column [] "arr") (.literal (.int Int64.minValue))).sql .snowflake =
      .ok "\"arr\"[9223372036854775807]" := ⟨rfl, rfl⟩

end Emission

end QueryBridge
