import Mathlib.Data.List.Forall2
import QueryBridge.Emission.Tree

set_option autoImplicit false

/-! A piece of a tree has tokens exactly if its parts have, and then they are the tokens of the parts as
the piece lays them out. One equivalence for each kind of piece says so; nothing after this module
opens the emitter. -/

namespace QueryBridge

open Token (space parens parensIf brackets commaList clause path)

section

variable {ε α β : Type}

theorem bind_eq_ok {x : Except ε α} {f : α → Except ε β} {b : β} :
    (x >>= f) = .ok b ↔ ∃ a, x = .ok a ∧ f a = .ok b := by
  cases x with
  | error e => exact ⟨nofun, fun ⟨_, h, _⟩ => nomatch h⟩
  | ok a => exact ⟨fun h => ⟨a, rfl, h⟩, fun ⟨_, h, h'⟩ => by cases h; exact h'⟩

theorem pure_eq_ok {a b : α} : (pure a : Except ε α) = .ok b ↔ b = a :=
  ⟨fun h => (Except.ok.inj h).symm, fun h => h ▸ rfl⟩

theorem ok_eq_ok {a b : α} : (Except.ok a : Except ε α) = .ok b ↔ b = a := pure_eq_ok

end

/-- Nothing, or what belongs to the expression, behind `lead`. -/
inductive Led (lead : List Token) (p : Expr → List Token → Prop) : Option Expr → List Token → Prop
  | none : Led lead p none []
  | some {e : Expr} {t : List Token} (h : p e t) : Led lead p (some e) (lead ++ t)

theorem led_none {lead ts : List Token} {p : Expr → List Token → Prop} : Led lead p none ts ↔ ts = [] :=
  ⟨fun h => by cases h; rfl, fun h => h ▸ .none⟩

abbrev Branched (p : Expr → List Token → Prop) :
    List (Expr × Expr) → List (List Token × List Token) → Prop :=
  List.Forall₂ fun b t => p b.1 t.1 ∧ p b.2 t.2

def branchTokens (ts : List (List Token × List Token)) : List Token :=
  ts.flatMap fun t => clause .when_ t.1 ++ clause .then_ t.2

def joinTokens (ts : List (List Token)) : List Token := ts.flatMap (space :: ·)

variable {r : Rules} {ts : List Token}

section

-- makes the equations of the emitter, which every proof below needs, here and once
attribute [local simp] Expr.tokens tokensOfExprs tokensOfOption tokensOfBranches SelectItem.tokens tokensOfItems
  Relation.tokens JoinConstraint.tokens Join.tokens tokensOfJoins FromItem.tokens tokensOfSources Select.tokens
  Body.tokens Body.operandTokens Query.bodyOperandTokens OrderItem.tokens tokensOfOrder Cte.tokens tokensOfCtes
  Query.tokens

theorem tokensOfExprs_ok {es : List Expr} {tss : List (List Token)} :
    tokensOfExprs r es = .ok tss ↔ List.Forall₂ (fun e t => e.tokens r = .ok t) es tss := by
  induction es generalizing tss with
  | nil => rw [tokensOfExprs, ok_eq_ok, List.forall₂_nil_left_iff]
  | cons e es ih =>
    simp only [tokensOfExprs, bind_eq_ok, pure_eq_ok, ih, List.forall₂_cons_left_iff]
    exact ⟨fun ⟨t, h, ts, h', e⟩ => ⟨t, ts, h, h', e⟩, fun ⟨t, ts, h, h', e⟩ => ⟨t, h, ts, h', e⟩⟩

theorem tokensOfOption_ok {lead : List Token} {o : Option Expr} :
    tokensOfOption r lead o = .ok ts ↔ Led lead (fun e t => e.tokens r = .ok t) o ts := by
  cases o with
  | none =>
    rw [tokensOfOption, ok_eq_ok]
    exact ⟨fun h => h ▸ .none, fun h => by cases h; rfl⟩
  | some e =>
    rw [tokensOfOption, bind_eq_ok]
    simp only [pure_eq_ok]
    exact ⟨fun ⟨t, h, e⟩ => e ▸ .some h, fun h => by cases h with | some h => exact ⟨_, h, rfl⟩⟩

theorem tokensOfBranches_ok {bs : List (Expr × Expr)} : tokensOfBranches r bs = .ok ts ↔
    ∃ tss, Branched (fun e t => e.tokens r = .ok t) bs tss ∧ ts = branchTokens tss := by
  induction bs generalizing ts with
  | nil => simp [tokensOfBranches, branchTokens]
  | cons b bs ih =>
    obtain ⟨condition, result⟩ := b
    simp only [tokensOfBranches, bind_eq_ok, pure_eq_ok, ih, List.forall₂_cons_left_iff]
    constructor
    · rintro ⟨a, ha, b, hb, _, ⟨tss, h, rfl⟩, rfl⟩
      exact ⟨(a, b) :: tss, ⟨_, _, ⟨ha, hb⟩, h, rfl⟩, rfl⟩
    · rintro ⟨_, ⟨⟨a, b⟩, tss, ⟨ha, hb⟩, h, rfl⟩, rfl⟩
      exact ⟨a, ha, b, hb, _, ⟨tss, h, rfl⟩, rfl⟩

theorem tokensOfItems_ok {is : List SelectItem} {tss : List (List Token)} :
    tokensOfItems r is = .ok tss ↔ List.Forall₂ (fun i t => i.tokens r = .ok t) is tss := by
  induction is generalizing tss with
  | nil => rw [tokensOfItems, ok_eq_ok, List.forall₂_nil_left_iff]
  | cons i is ih =>
    simp only [tokensOfItems, bind_eq_ok, pure_eq_ok, ih, List.forall₂_cons_left_iff]
    exact ⟨fun ⟨t, h, ts, h', e⟩ => ⟨t, ts, h, h', e⟩, fun ⟨t, ts, h, h', e⟩ => ⟨t, h, ts, h', e⟩⟩

theorem tokensOfJoins_ok {js : List Join} : tokensOfJoins r js = .ok ts ↔
    ∃ tss, List.Forall₂ (fun j t => j.tokens r = .ok t) js tss ∧ ts = joinTokens tss := by
  induction js generalizing ts with
  | nil => simp [tokensOfJoins, joinTokens]
  | cons j js ih =>
    simp only [tokensOfJoins, bind_eq_ok, pure_eq_ok, ih, List.forall₂_cons_left_iff]
    constructor
    · rintro ⟨t, ht, _, ⟨tss, h, rfl⟩, rfl⟩
      exact ⟨t :: tss, ⟨_, _, ht, h, rfl⟩, rfl⟩
    · rintro ⟨_, ⟨t, tss, ht, h, rfl⟩, rfl⟩
      exact ⟨t, ht, _, ⟨tss, h, rfl⟩, rfl⟩

theorem tokensOfSources_ok {fs : List FromItem} {tss : List (List Token)} :
    tokensOfSources r fs = .ok tss ↔ List.Forall₂ (fun f t => f.tokens r = .ok t) fs tss := by
  induction fs generalizing tss with
  | nil => rw [tokensOfSources, ok_eq_ok, List.forall₂_nil_left_iff]
  | cons f fs ih =>
    simp only [tokensOfSources, bind_eq_ok, pure_eq_ok, ih, List.forall₂_cons_left_iff]
    exact ⟨fun ⟨t, h, ts, h', e⟩ => ⟨t, ts, h, h', e⟩, fun ⟨t, ts, h, h', e⟩ => ⟨t, h, ts, h', e⟩⟩

theorem tokensOfOrder_ok {os : List OrderItem} {tss : List (List Token)} :
    tokensOfOrder r os = .ok tss ↔ List.Forall₂ (fun o t => o.tokens r = .ok t) os tss := by
  induction os generalizing tss with
  | nil => rw [tokensOfOrder, ok_eq_ok, List.forall₂_nil_left_iff]
  | cons o os ih =>
    simp only [tokensOfOrder, bind_eq_ok, pure_eq_ok, ih, List.forall₂_cons_left_iff]
    exact ⟨fun ⟨t, h, ts, h', e⟩ => ⟨t, ts, h, h', e⟩, fun ⟨t, ts, h, h', e⟩ => ⟨t, h, ts, h', e⟩⟩

theorem tokensOfCtes_ok {ks : List Cte} {tss : List (List Token)} :
    tokensOfCtes r ks = .ok tss ↔ List.Forall₂ (fun k t => k.tokens r = .ok t) ks tss := by
  induction ks generalizing tss with
  | nil => rw [tokensOfCtes, ok_eq_ok, List.forall₂_nil_left_iff]
  | cons k ks ih =>
    simp only [tokensOfCtes, bind_eq_ok, pure_eq_ok, ih, List.forall₂_cons_left_iff]
    exact ⟨fun ⟨t, h, ts, h', e⟩ => ⟨t, ts, h, h', e⟩, fun ⟨t, ts, h, h', e⟩ => ⟨t, h, ts, h', e⟩⟩

end

namespace Expr

theorem tokens_column_ok {qualifier : List String} {name : String} :
    (column qualifier name).tokens r = .ok ts ↔ ts = qualifierTokens qualifier ++ [Token.ident name] := by
  rw [Expr.tokens, ok_eq_ok]

theorem tokens_literal_ok {value : Literal} :
    (literal value).tokens r = .ok ts ↔ ∃ t, value.token = .ok t ∧ ts = [t] := by
  simp only [Expr.tokens, bind_eq_ok, pure_eq_ok]

theorem tokens_binary_ok {op : BinaryOp} {left right : Expr} : (binary op left right).tokens r = .ok ts ↔
    ∃ a b, left.tokens r = .ok a ∧ right.tokens r = .ok b ∧
      ts = parensIf (left.needsParensLeft op) a ++ [space, op.token, space]
        ++ parensIf (right.needsParensRight op) b := by
  simp only [Expr.tokens, bind_eq_ok, pure_eq_ok]
  exact ⟨fun ⟨a, ha, b, hb, e⟩ => ⟨a, b, ha, hb, e⟩, fun ⟨a, b, ha, hb, e⟩ => ⟨a, ha, b, hb, e⟩⟩

theorem tokens_not_ok {e : Expr} : e.not.tokens r = .ok ts ↔
    ∃ t, e.tokens r = .ok t ∧ ts = [.keyword .not, space] ++ parensIf (e.precedence < notLevel) t := by
  simp only [Expr.tokens, bind_eq_ok, pure_eq_ok]

theorem tokens_neg_ok {e : Expr} : e.neg.tokens r = .ok ts ↔
    ∃ t, e.tokens r = .ok t ∧ ts = .symbol .minus :: parensIf e.needsParensAsAtom t := by
  simp only [Expr.tokens, bind_eq_ok, pure_eq_ok]

theorem tokens_keyword_ok {word : String} : (keyword word).tokens r = .ok ts ↔
    isBareWord word ∧ ts = [.word (Text.upper word)] := by
  rw [Expr.tokens]
  split
  · rename_i h
    rw [ok_eq_ok]
    exact ⟨fun e => ⟨h, e⟩, fun e => e.2⟩
  · rename_i h
    exact ⟨nofun, fun e => (h e.1).elim⟩

theorem tokens_case_ok {operand : Option Expr} {branches : List (Expr × Expr)} {otherwise : Option Expr} :
    (Expr.case operand branches otherwise).tokens r = .ok ts ↔
      ∃ o tss e, Led [space] (fun e t => e.tokens r = .ok t) operand o ∧
        Branched (fun e t => e.tokens r = .ok t) branches tss ∧
        Led [space, .keyword .else_, space] (fun e t => e.tokens r = .ok t) otherwise e ∧
        ts = .keyword .case_ :: o ++ branchTokens tss ++ e ++ [space, .keyword .end_] := by
  simp only [Expr.tokens, bind_eq_ok, pure_eq_ok, tokensOfOption_ok, tokensOfBranches_ok]
  constructor
  · rintro ⟨o, ho, _, ⟨tss, hb, rfl⟩, e, he, h⟩
    exact ⟨o, tss, e, ho, hb, he, h⟩
  · rintro ⟨o, tss, e, ho, hb, he, h⟩
    exact ⟨o, ho, _, ⟨tss, hb, rfl⟩, e, he, h⟩

theorem tokens_subquery_ok {q : Query} :
    (subquery q).tokens r = .ok ts ↔ ∃ t, q.tokens r = .ok t ∧ ts = parens t := by
  simp only [Expr.tokens, bind_eq_ok, pure_eq_ok]

theorem tokens_exists_ok {q : Query} {negated : Bool} : (Expr.exists q negated).tokens r = .ok ts ↔
    ∃ t, q.tokens r = .ok t ∧
      ts = (if negated then [.keyword .not, space] else []) ++ [.keyword .exists_, space] ++ parens t := by
  simp only [Expr.tokens, bind_eq_ok, pure_eq_ok]

theorem tokens_inList_ok {e : Expr} {values : List Expr} {negated : Bool} :
    (inList e values negated).tokens r = .ok ts ↔
      (values = [] ∧ ts = [.keyword (if negated then .true_ else .false_)]) ∨
      (values ≠ [] ∧ ∃ t tss, e.tokens r = .ok t ∧
        List.Forall₂ (fun e t => e.tokens r = .ok t) values tss ∧
        ts = parensIf e.needsParensInPredicate t ++ tokens.negation negated
          ++ [space, .keyword .in_, space] ++ parens (commaList tss)) := by
  cases values with
  | nil => simp [Expr.tokens, eq_comm]
  | cons v vs =>
    simp only [Expr.tokens, List.isEmpty_cons, Bool.false_eq_true, if_false, bind_eq_ok, pure_eq_ok,
      tokensOfExprs_ok, reduceCtorEq, false_and, false_or, ne_eq, not_false_eq_true, true_and]
    exact ⟨fun ⟨t, h, tss, h', e⟩ => ⟨t, tss, h, h', e⟩, fun ⟨t, tss, h, h', e⟩ => ⟨t, h, tss, h', e⟩⟩

theorem tokens_inQuery_ok {e : Expr} {q : Query} {negated : Bool} : (inQuery e q negated).tokens r = .ok ts ↔
    ∃ a b, e.tokens r = .ok a ∧ q.tokens r = .ok b ∧
      ts = parensIf e.needsParensInPredicate a ++ tokens.negation negated
        ++ [space, .keyword .in_, space] ++ parens b := by
  simp only [Expr.tokens, bind_eq_ok, pure_eq_ok]
  exact ⟨fun ⟨a, ha, b, hb, e⟩ => ⟨a, b, ha, hb, e⟩, fun ⟨a, b, ha, hb, e⟩ => ⟨a, ha, b, hb, e⟩⟩

theorem tokens_between_ok {e low high : Expr} {negated : Bool} :
    (between e low high negated).tokens r = .ok ts ↔
      ∃ a b c, e.tokens r = .ok a ∧ low.tokens r = .ok b ∧ high.tokens r = .ok c ∧
        ts = parensIf e.needsParensInPredicate a ++ tokens.negation negated
          ++ clause .between (parensIf low.needsParensInPredicate b)
          ++ clause .and (parensIf high.needsParensInPredicate c) := by
  simp only [Expr.tokens, bind_eq_ok, pure_eq_ok]
  exact ⟨fun ⟨a, ha, b, hb, c, hc, e⟩ => ⟨a, b, c, ha, hb, hc, e⟩,
    fun ⟨a, b, c, ha, hb, hc, e⟩ => ⟨a, ha, b, hb, c, hc, e⟩⟩

theorem tokens_isNull_ok {e : Expr} {negated : Bool} : (isNull e negated).tokens r = .ok ts ↔
    ∃ t, e.tokens r = .ok t ∧ ts = parensIf e.needsParensInPredicate t
      ++ [space, .keyword (if negated then .isNotNull else .isNull)] := by
  simp only [Expr.tokens, bind_eq_ok, pure_eq_ok]

theorem tokens_like_ok {e pattern : Expr} {negated : Bool} : (like e pattern negated).tokens r = .ok ts ↔
    ∃ a b, e.tokens r = .ok a ∧ pattern.tokens r = .ok b ∧
      ts = parensIf e.needsParensInPredicate a ++ tokens.negation negated
        ++ clause .like (parensIf pattern.needsParensInPredicate b) := by
  simp only [Expr.tokens, bind_eq_ok, pure_eq_ok]
  exact ⟨fun ⟨a, ha, b, hb, e⟩ => ⟨a, b, ha, hb, e⟩, fun ⟨a, b, ha, hb, e⟩ => ⟨a, ha, b, hb, e⟩⟩

theorem tokens_cast_ok {e : Expr} {type : DataType} : (cast e type).tokens r = .ok ts ↔
    ∃ name t, r.typeName type = .ok name ∧ e.tokens r = .ok t ∧
      ts = .keyword .cast :: parens (t ++ [space, .keyword .as_, space, .typeName name]) := by
  simp only [Expr.tokens, bind_eq_ok, pure_eq_ok]
  exact ⟨fun ⟨a, ha, b, hb, e⟩ => ⟨a, b, ha, hb, e⟩, fun ⟨a, b, ha, hb, e⟩ => ⟨a, ha, b, hb, e⟩⟩

theorem tokens_star_ok {qualifier : List String} :
    (star qualifier).tokens r = .ok ts ↔ ts = qualifierTokens qualifier ++ [Token.symbol .star] := by
  rw [Expr.tokens, ok_eq_ok]

theorem tokens_paren_ok {e : Expr} :
    (paren e).tokens r = .ok ts ↔ ∃ t, e.tokens r = .ok t ∧ ts = parens t := by
  simp only [Expr.tokens, bind_eq_ok, pure_eq_ok]

theorem tokens_unsupported_ok {detail : String} : (unsupported detail).tokens r = .ok ts ↔ False := by
  rw [Expr.tokens]
  exact ⟨nofun, nofun⟩

inductive CallLayout (r : Rules) (p : Expr → List Token → Prop) (function : String) (args : List Expr)
    (distinct : Bool) : List Token → Prop
  | plain {tss : List (List Token)} (form : callForm r function = .plain) (h : List.Forall₂ p args tss) :
    CallLayout r p function args distinct (.function function
      :: parens ((if distinct then [.keyword .distinct, space] else []) ++ commaList tss))
  | singleValue {arg : Expr} {t : List Token} (form : callForm r function = .singleValue)
    (single : args = [arg]) (all : distinct = false) (h : p arg t) :
    CallLayout r p function args distinct (singleValueTokens r t)
  | truncUnitLast {unit : String} {e : Expr} {t : List Token} (form : callForm r function = .truncUnitLast)
    (two : args = [.literal (.string unit), e]) (part : isDatePart unit) (h : p e t) :
    CallLayout r p function args distinct
      (.function "DATE_TRUNC" :: parens (t ++ [.symbol .comma, space, .word (Text.upper unit)]))

theorem truncUnit_ok {e : Expr} {t : Token} : truncUnit e = .ok t ↔
    ∃ unit, e = .literal (.string unit) ∧ isDatePart unit ∧ t = .word (Text.upper unit) := by
  unfold truncUnit
  split
  · rename_i unit
    split
    · rename_i part
      rw [ok_eq_ok]
      constructor
      · exact fun h => ⟨unit, rfl, part, h⟩
      · rintro ⟨unit, same, -, h⟩
        cases same
        exact h
    · rename_i part
      refine ⟨nofun, ?_⟩
      rintro ⟨unit, same, h, -⟩
      cases same
      exact (part h).elim
  · rename_i other
    refine ⟨nofun, ?_⟩
    rintro ⟨unit, same, -⟩
    exact (other unit same).elim

theorem tokens_call_ok {function : String} {args : List Expr} {distinct : Bool} :
    (call function args distinct).tokens r = .ok ts ↔
      CallLayout r (fun e t => e.tokens r = .ok t) function args distinct ts := by
  rw [Expr.tokens.eq_def r (call function args distinct)]
  dsimp only
  constructor
  · intro h
    split at h
    · rename_i form
      simp only [bind_eq_ok, pure_eq_ok, tokensOfExprs_ok] at h
      obtain ⟨tss, hs, rfl⟩ := h
      exact .plain form hs
    · rename_i form
      split at h
      · cases distinct with
        | true => cases h
        | false =>
          obtain ⟨t, ht, e⟩ := bind_eq_ok.1 h
          obtain rfl := pure_eq_ok.1 e
          exact .singleValue form rfl rfl ht
      · cases h
    · rename_i form
      split at h
      · obtain ⟨u, hu, h⟩ := bind_eq_ok.1 h
        obtain ⟨t, ht, e⟩ := bind_eq_ok.1 h
        obtain ⟨unit, rfl, part, rfl⟩ := truncUnit_ok.1 hu
        obtain rfl := pure_eq_ok.1 e
        exact .truncUnitLast form rfl part ht
      · cases h
  · rintro (⟨form, h⟩ | ⟨form, rfl, rfl, h⟩ | ⟨form, rfl, part, h⟩)
    · simp only [form, tokensOfExprs_ok.2 h]
      rfl
    · simp only [form, h]
      rfl
    · simp only [form, truncUnit_ok.2 ⟨_, rfl, part, rfl⟩, h]
      rfl

inductive IndexLayout (r : Rules) (p : Expr → List Token → Prop) (index : Expr) : List Token → Prop
  | oneBased {t : List Token} (style : r.indexStyle = .oneBased) (h : p index t) : IndexLayout r p index t
  | ordinal {t : List Token} (style : r.indexStyle = .ordinal) (h : p index t) :
    IndexLayout r p index (.function "ORDINAL" :: parens t)
  | shifted {n : Int64} (style : r.indexStyle = .zeroBased) (literal : index = .literal (.int n)) :
    IndexLayout r p index [.int (n - 1)]
  | difference {t : List Token} (style : r.indexStyle = .zeroBased) (other : ∀ n, index ≠ .literal (.int n))
    (h : p index t) : IndexLayout r p index (parens t ++ [space, .symbol .minus, space, .int 1])

theorem tokens_index_ok {array index : Expr} : (Expr.index array index).tokens r = .ok ts ↔
    ∃ a i, array.tokens r = .ok a ∧ IndexLayout r (fun e t => e.tokens r = .ok t) index i ∧
      ts = parensIf array.needsParensAsAtom a ++ brackets i := by
  rw [Expr.tokens]
  constructor
  · intro h
    split at h
    · cases h
    · rename_i style
      simp only [bind_eq_ok, pure_eq_ok] at h
      obtain ⟨a, ha, i, hi, e⟩ := h
      exact ⟨a, i, ha, .oneBased style hi, e⟩
    · rename_i style
      simp only [bind_eq_ok, pure_eq_ok] at h
      obtain ⟨a, ha, i, hi, e⟩ := h
      exact ⟨a, _, ha, .ordinal style hi, e⟩
    · rename_i style
      obtain ⟨a, ha, h⟩ := bind_eq_ok.1 h
      split at h
      · obtain rfl := pure_eq_ok.1 h
        exact ⟨a, _, ha, .shifted style rfl, rfl⟩
      · rename_i other
        obtain ⟨i, hi, e⟩ := bind_eq_ok.1 h
        obtain rfl := pure_eq_ok.1 e
        exact ⟨a, _, ha, .difference style other hi, rfl⟩
  · rintro ⟨a, i, ha, hi, rfl⟩
    rcases hi with ⟨style, h⟩ | ⟨style, h⟩ | ⟨style, rfl⟩ | ⟨style, other, h⟩
    · simp only [style, ha, h]
      rfl
    · simp only [style, ha, h]
      rfl
    · simp only [style, ha]
      rfl
    · simp only [style, ha, h]
      rfl

inductive ArrayLayout (r : Rules) (p : Expr → List Token → Prop) (items : List Expr) : List Token → Prop
  | bracket {tss : List (List Token)} (style : r.arrayStyle = .bracket) (h : List.Forall₂ p items tss) :
    ArrayLayout r p items (brackets (commaList tss))
  | keyword {tss : List (List Token)} (style : r.arrayStyle = .keyword) (h : List.Forall₂ p items tss) :
    ArrayLayout r p items (.keyword .array :: brackets (commaList tss))
  | call {function : String} {tss : List (List Token)} (style : r.arrayStyle = .call function)
    (h : List.Forall₂ p items tss) : ArrayLayout r p items (.function function :: parens (commaList tss))

theorem tokens_array_ok {items : List Expr} : (Expr.array items).tokens r = .ok ts ↔
    ArrayLayout r (fun e t => e.tokens r = .ok t) items ts := by
  rw [Expr.tokens]
  constructor
  · intro h
    split at h
    all_goals try (simp only [bind_eq_ok, pure_eq_ok, tokensOfExprs_ok] at h; obtain ⟨tss, hs, rfl⟩ := h)
    · exact .bracket ‹_› hs
    · exact .keyword ‹_› hs
    · exact .call ‹_› hs
    · cases h
  · rintro (⟨style, h⟩ | ⟨style, h⟩ | ⟨style, h⟩) <;>
    · simp only [style, tokensOfExprs_ok.2 h]
      rfl

end Expr

theorem SelectItem.tokens_ok {e : Expr} {label : Option String} :
    (SelectItem.mk e label).tokens r = .ok ts ↔ ∃ t, e.tokens r = .ok t ∧ ts = t ++ columnAliasTokens label := by
  simp only [SelectItem.tokens, bind_eq_ok, pure_eq_ok]

theorem Relation.tokens_table_ok {name : List String} {label : Option TableAlias} :
    (Relation.table name label).tokens r = .ok ts ↔ ts = path name ++ aliasTokens label := by
  rw [Relation.tokens, ok_eq_ok]

theorem Relation.tokens_derived_ok {q : Query} {label : Option TableAlias} :
    (Relation.derived q label).tokens r = .ok ts ↔
      ∃ t, q.tokens r = .ok t ∧ ts = parens t ++ aliasTokens label := by
  simp only [Relation.tokens, bind_eq_ok, pure_eq_ok]

theorem Relation.tokens_unnest_ok {es : List Expr} {label : Option TableAlias} :
    (Relation.unnest es label).tokens r = .ok ts ↔
      r.unnest ∧ ∃ tss, List.Forall₂ (fun e t => e.tokens r = .ok t) es tss ∧
        ts = .keyword .unnest :: parens (commaList tss) ++ aliasTokens label := by
  rw [Relation.tokens]
  cases r.unnest with
  | true => simp only [if_true, bind_eq_ok, pure_eq_ok, tokensOfExprs_ok, true_and]
  | false => simp

theorem JoinConstraint.tokens_on_ok {e : Expr} :
    (JoinConstraint.on e).tokens r = .ok ts ↔ ∃ t, e.tokens r = .ok t ∧ ts = clause .on_ t := by
  simp only [JoinConstraint.tokens, bind_eq_ok, pure_eq_ok]

theorem JoinConstraint.tokens_using_ok {columns : List String} :
    (JoinConstraint.using columns).tokens r = .ok ts ↔ ts = clause .using_ (parens (identList columns)) := by
  rw [JoinConstraint.tokens, ok_eq_ok]

theorem JoinConstraint.tokens_none_ok : JoinConstraint.none.tokens r = .ok ts ↔ ts = [] := by
  rw [JoinConstraint.tokens, ok_eq_ok]

theorem Join.tokens_ok {type : JoinType} {relation : Relation} {constraint : JoinConstraint} :
    (Join.mk type relation constraint).tokens r = .ok ts ↔ (type = .full → r.fullJoin) ∧
      ∃ a b, relation.tokens r = .ok a ∧ constraint.tokens r = .ok b ∧
        ts = type.keywords ++ space :: a ++ b := by
  rw [Join.tokens]
  split
  · rename_i h
    exact ⟨nofun, fun h' => by simp [h'.1 h.1] at h⟩
  · rename_i h
    simp only [bind_eq_ok, pure_eq_ok]
    constructor
    · rintro ⟨a, ha, b, hb, e⟩
      exact ⟨by simpa using h, a, b, ha, hb, e⟩
    · rintro ⟨-, a, b, ha, hb, e⟩
      exact ⟨a, ha, b, hb, e⟩

theorem FromItem.tokens_ok {relation : Relation} {joins : List Join} :
    (FromItem.mk relation joins).tokens r = .ok ts ↔ ∃ t tss, relation.tokens r = .ok t ∧
      List.Forall₂ (fun j t => j.tokens r = .ok t) joins tss ∧ ts = t ++ joinTokens tss := by
  simp only [FromItem.tokens, bind_eq_ok, pure_eq_ok, tokensOfJoins_ok]
  constructor
  · rintro ⟨t, ht, _, ⟨tss, h, rfl⟩, e⟩
    exact ⟨t, tss, ht, h, e⟩
  · rintro ⟨t, tss, ht, h, e⟩
    exact ⟨t, ht, _, ⟨tss, h, rfl⟩, e⟩

def selectTokens (distinct : Bool) (items : List (List Token)) (sources : List (List Token))
    (selection : List Token) (groupBy : List (List Token)) (having : List Token) : List Token :=
  .keyword .select :: (if distinct then [space, .keyword .distinct] else [])
    ++ (if items.isEmpty then [] else space :: commaList items)
    ++ listClause .from_ sources ++ selection ++ listClause .groupBy groupBy ++ having

theorem Select.tokens_ok {s : Select} : s.tokens r = .ok ts ↔
    ∃ p f w g h, List.Forall₂ (fun i t => i.tokens r = .ok t) s.projection p ∧
      List.Forall₂ (fun f t => f.tokens r = .ok t) s.sources f ∧
      Led [space, .keyword .where_, space] (fun e t => e.tokens r = .ok t) s.selection w ∧
      List.Forall₂ (fun e t => e.tokens r = .ok t) s.groupBy g ∧
      Led [space, .keyword .having_, space] (fun e t => e.tokens r = .ok t) s.having h ∧
      ts = selectTokens s.distinct p f w g h := by
  obtain ⟨distinct, projection, sources, selection, groupBy, having⟩ := s
  simp only [Select.tokens, bind_eq_ok, pure_eq_ok, tokensOfItems_ok, tokensOfSources_ok, tokensOfOption_ok,
    tokensOfExprs_ok]
  constructor
  · rintro ⟨p, hp, f, hf, w, hw, g, hg, h, hh, e⟩
    exact ⟨p, f, w, g, h, hp, hf, hw, hg, hh, e⟩
  · rintro ⟨p, f, w, g, h, hp, hf, hw, hg, hh, e⟩
    exact ⟨p, hp, f, hf, w, hw, g, hg, h, hh, e⟩

namespace Body

theorem tokens_select_ok {s : Select} : (Body.select s).tokens r = .ok ts ↔ s.tokens r = .ok ts := by
  rw [Body.tokens]

theorem tokens_setOp_ok {op : SetOp} {all : Bool} {left right : Body} :
    (Body.setOp op all left right).tokens r = .ok ts ↔ ∃ a b, left.operandTokens r = .ok a ∧
      right.operandTokens r = .ok b ∧ ts = setOpTokens r op all a b := by
  simp only [Body.tokens, bind_eq_ok, pure_eq_ok]
  exact ⟨fun ⟨a, ha, b, hb, e⟩ => ⟨a, b, ha, hb, e⟩, fun ⟨a, b, ha, hb, e⟩ => ⟨a, ha, b, hb, e⟩⟩

theorem tokens_query_ok {q : Query} : (Body.query q).tokens r = .ok ts ↔ q.tokens r = .ok ts := by
  rw [Body.tokens]

theorem operandTokens_parens_ok (h : r.operandParens) {b : Body} :
    b.operandTokens r = .ok ts ↔ ∃ t, b.tokens r = .ok t ∧ ts = parens t := by
  cases b with
  | select s => simp only [Body.operandTokens, Body.tokens, h, bind_eq_ok, pure_eq_ok, parensIf, if_true]
  | setOp op all left right =>
    simp only [Body.operandTokens, Body.tokens, h, bind_eq_ok, pure_eq_ok, parensIf, if_true]
    constructor
    · rintro ⟨a, ha, b, hb, e⟩
      exact ⟨_, ⟨a, ha, b, hb, rfl⟩, e⟩
    · rintro ⟨_, ⟨a, ha, b, hb, rfl⟩, e⟩
      exact ⟨a, ha, b, hb, e⟩
  | query q => simp only [Body.operandTokens, Body.tokens, h, bind_eq_ok, pure_eq_ok, if_true]

/-- Without parentheses a wrapped query loses its wrapper and may not have clauses. -/
theorem operandTokens_bare_query_ok (h : r.operandParens = false) {q : Query} :
    (Body.query q).operandTokens r = .ok ts ↔ q.hasClauses = false ∧ q.body.operandTokens r = .ok ts := by
  rw [Body.operandTokens]
  simp only [h, Bool.false_eq_true, if_false]
  obtain ⟨ctes, recursive, body, orderBy, limit, offset⟩ := q
  rw [Query.bodyOperandTokens]
  split
  · rename_i clauses
    exact ⟨nofun, fun h => by simp [h.1] at clauses⟩
  · rename_i clauses
    exact ⟨fun h => ⟨by simpa using clauses, h⟩, fun h => h.2⟩

theorem operandTokens_bare_ok (h : r.operandParens = false) {b : Body} (plain : ∀ q, b ≠ .query q) :
    b.operandTokens r = .ok ts ↔ b.tokens r = .ok ts := by
  cases b with
  | select s => simp [Body.operandTokens, Body.tokens, h, parensIf]
  | setOp op all left right => simp [Body.operandTokens, Body.tokens, h, parensIf]
  | query q => exact (plain q rfl).elim

end Body

theorem OrderItem.tokens_ok {e : Expr} {dir : Option SortDir} {nulls : Option NullsOrder} :
    (OrderItem.mk e dir nulls).tokens r = .ok ts ↔
      ∃ t, e.tokens r = .ok t ∧ ts = t ++ SortDir.tokens dir ++ NullsOrder.tokens nulls := by
  simp only [OrderItem.tokens, bind_eq_ok, pure_eq_ok]

def cteHead (name : String) (columns : List String) : List Token :=
  .ident name :: (if columns.isEmpty then [] else space :: parens (identList columns))

theorem Cte.tokens_ok {name : String} {columns : List String} {q : Query} :
    (Cte.mk name columns q).tokens r = .ok ts ↔
      ∃ t, q.tokens r = .ok t ∧ ts = cteHead name columns ++ clause .as_ (parens t) := by
  simp only [Cte.tokens, bind_eq_ok, pure_eq_ok, cteHead]

def withTokens (recursive : Bool) (ctes : List (List Token)) : List Token :=
  if ctes.isEmpty then []
  else .keyword .with_ :: (if recursive then [space, .keyword .recursive] else [])
    ++ space :: commaList ctes ++ [space]

theorem Query.tokens_ok {q : Query} : q.tokens r = .ok ts ↔
    ∃ c b o l f, List.Forall₂ (fun k t => k.tokens r = .ok t) q.ctes c ∧ q.body.tokens r = .ok b ∧
      List.Forall₂ (fun o t => o.tokens r = .ok t) q.orderBy o ∧
      Led [space, .keyword .limit, space] (fun e t => e.tokens r = .ok t) q.limit l ∧
      Led (offsetPrelude r q.limit.isSome ++ [space, .keyword .offset, space])
        (fun e t => e.tokens r = .ok t) q.offset f ∧
      ts = withTokens q.recursive c ++ b ++ listClause .orderBy o ++ l ++ f := by
  obtain ⟨ctes, recursive, body, orderBy, limit, offset⟩ := q
  simp only [Query.tokens, bind_eq_ok, pure_eq_ok, tokensOfCtes_ok, tokensOfOrder_ok, tokensOfOption_ok]
  constructor
  · rintro ⟨c, hc, b, hb, o, ho, l, hl, f, hf, e⟩
    exact ⟨c, b, o, l, f, hc, hb, ho, hl, hf, e⟩
  · rintro ⟨c, b, o, l, f, hc, hb, ho, hl, hf, e⟩
    exact ⟨c, hc, b, hb, o, ho, l, hl, f, hf, e⟩

theorem Query.hasClauses_eq_false {q : Query} :
    q.hasClauses = false ↔ q.ctes = [] ∧ q.orderBy = [] ∧ q.limit = none ∧ q.offset = none := by
  simp [Query.hasClauses, and_assoc]

theorem Body.tokens_wrapper_ok {q : Query} (free : q.hasClauses = false) :
    (Body.query q).tokens r = .ok ts ↔ q.body.tokens r = .ok ts := by
  obtain ⟨ctes, orders, limit, offset⟩ := Query.hasClauses_eq_false.1 free
  rw [Body.tokens_query_ok, Query.tokens_ok]
  simp [ctes, orders, limit, offset, led_none, withTokens, listClause]

end QueryBridge
