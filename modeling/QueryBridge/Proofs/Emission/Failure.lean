import QueryBridge.Proofs.Emission.Positions
import QueryBridge.Proofs.Emission.Success
import QueryBridge.Proofs.Tree.Induction

set_option autoImplicit false

namespace QueryBridge.Emission

def HasUnrecognized : DataType → Prop
  | .unrecognized _ => True
  | .array element => HasUnrecognized element
  | _ => False

mutual

/-- Behind wrappers without clauses stands a query that has some. -/
def WrapsClauses : Body → Prop
  | .select _ | .setOp _ _ _ _ => False
  | .query q => QueryWrapsClauses q

def QueryWrapsClauses : Query → Prop
  | ⟨ctes, recursive, body, orderBy, limit, offset⟩ =>
    (⟨ctes, recursive, body, orderBy, limit, offset⟩ : Query).hasClauses ∨ WrapsClauses body

end

/-- The arguments of a truncation to a date part. -/
def AreTruncation (args : List Expr) : Prop :=
  ∃ unit e, args = [.literal (.string unit), e] ∧ unit ≠ "" ∧ ∀ c ∈ unit.toList, c.isAlpha ∨ c = '_'

/-- What the dialect cannot express, apart from the parts of the piece. -/
def Piece.Fault (d : Dialect) : Piece → Prop
  | .expr (.unsupported _) => True
  | .expr (.keyword word) => word = "" ∨ ∃ c ∈ word.toList, ¬ (c.isAlphanum ∨ c = '_')
  | .expr (.literal (.float x)) => ¬ x.isFinite
  | .expr (.cast _ type) => HasUnrecognized type
  | .expr (.call function args distinct) =>
    (Text.upper function = "SINGLE_VALUE" ∧ (distinct ∨ args.length ≠ 1)) ∨
      (Text.upper function = "DATE_TRUNC" ∧ d = .bigquery ∧ ¬ AreTruncation args)
  | .expr (.index _ _) | .expr (.array _) => d = .sqlite
  | .relation (.unnest _ _) => d = .sqlite ∨ d = .snowflake
  | .join j => j.type = .full ∧ d = .sqlite
  | .body (.setOp _ _ left right) => d = .sqlite ∧ (WrapsClauses left ∨ WrapsClauses right)
  | _ => False

/-- The dialect can express the piece and all that is emitted below it. -/
abbrev Piece.Expressible (d : Dialect) : Piece → Prop := Piece.Everywhere fun y => ¬ y.Fault d

section

variable {d : Dialect}

section

attribute [local simp] Dialect.rules

theorem indexStyle_unsupported : d.rules.indexStyle = .unsupported ↔ d = .sqlite := by
  cases d <;> simp

theorem arrayStyle_unsupported : d.rules.arrayStyle = .unsupported ↔ d = .sqlite := by
  cases d <;> simp

theorem unnest_iff : d.rules.unnest = true ↔ ¬ (d = .sqlite ∨ d = .snowflake) := by
  cases d <;> simp

theorem fullJoin_iff : d.rules.fullJoin = true ↔ d ≠ .sqlite := by
  cases d <;> simp

theorem operandParens_iff : d.rules.operandParens = true ↔ d ≠ .sqlite := by
  cases d <;> simp

theorem truncStyle_unitLast : d.rules.truncStyle = .unitLast ↔ d = .bigquery := by
  cases d <;> simp

end

theorem typeName_ok {r : Rules} {t : DataType} : (∃ name, r.typeName t = .ok name) ↔ ¬ HasUnrecognized t := by
  have mapped {x : Except EmitError String} {f : String → String} :
      (∃ name, x.map f = .ok name) ↔ ∃ name, x = .ok name := by
    cases x <;> simp [Except.map]
  unfold Rules.typeName
  cases r.typeStyle with
  | parameters =>
    induction t with
    | array e ih => simpa only [Rules.parameterTypeName, mapped, HasUnrecognized] using ih
    | _ => simp [Rules.parameterTypeName, HasUnrecognized]
  | angles =>
    induction t with
    | array e ih => simpa only [Rules.angleTypeName, mapped, HasUnrecognized] using ih
    | decimal p s => cases p <;> simp [Rules.angleTypeName, HasUnrecognized]
    | _ => simp [Rules.angleTypeName, HasUnrecognized]

theorem isBareWord_iff {word : String} :
    isBareWord word ↔ ¬ (word = "" ∨ ∃ c ∈ word.toList, ¬ (c.isAlphanum ∨ c = '_')) := by
  rw [not_or, not_exists]
  simp only [isBareWord, Text.isAsciiWord, Bool.and_eq_true, Bool.not_eq_true', List.all_eq_true,
    Bool.or_eq_true, beq_iff_eq, not_and, not_not]
  simp

theorem isDatePart_iff {unit : String} :
    isDatePart unit ↔ unit ≠ "" ∧ ∀ c ∈ unit.toList, c.isAlpha ∨ c = '_' := by
  simp [isDatePart]

theorem wrapsClauses_query {q : Query} :
    WrapsClauses (.query q) ↔ q.hasClauses ∨ WrapsClauses q.body := by
  rw [WrapsClauses]
  cases q
  rw [QueryWrapsClauses]

theorem callForm_singleValue {r : Rules} {function : String} :
    callForm r function = .singleValue ↔ Text.upper function = "SINGLE_VALUE" := by
  simp only [callForm]
  split
  · simp [*]
  · split <;> simp [*]

theorem callForm_truncUnitLast {r : Rules} {function : String} :
    callForm r function = .truncUnitLast ↔ Text.upper function = "DATE_TRUNC" ∧ r.truncStyle = .unitLast := by
  simp only [callForm]
  split
  · rename_i single
    simp [single]
  · split <;> simp [*]

theorem areTruncation_iff {args : List Expr} :
    AreTruncation args ↔ ∃ unit e, args = [.literal (.string unit), e] ∧ isDatePart unit := by
  simp only [AreTruncation, isDatePart_iff]

theorem exists_led {lead : List Token} {p : Expr → List Token → Prop} {o : Option Expr} :
    (∃ ts, Led lead p o ts) ↔ ∀ e ∈ o, ∃ t, p e t := by
  cases o with
  | none => exact ⟨fun _ _ => nofun, fun _ => ⟨[], .none⟩⟩
  | some e =>
    simp only [Option.mem_def, Option.some.injEq, forall_eq']
    constructor
    · rintro ⟨_, h⟩
      cases h with
      | some h => exact ⟨_, h⟩
    · rintro ⟨_, h⟩
      exact ⟨_, .some h⟩

theorem exists_forall₂ {α β : Type} {p : α → β → Prop} {l : List α} :
    (∃ m, List.Forall₂ p l m) ↔ ∀ a ∈ l, ∃ b, p a b := by
  induction l with
  | nil => simp
  | cons a l ih =>
    rw [List.forall_mem_cons, ← ih]
    simp only [List.forall₂_cons_left_iff]
    constructor
    · rintro ⟨_, b, m, hb, hm, -⟩
      exact ⟨⟨b, hb⟩, m, hm⟩
    · rintro ⟨⟨b, hb⟩, m, hm⟩
      exact ⟨_, b, m, hb, hm, rfl⟩

attribute [local simp] Piece.Fault Piece.parts Piece.ofExpr

theorem expressible_iff {x : Piece} : x.Expressible d ↔ ¬ x.Fault d ∧ ∀ y ∈ x.parts, y.Expressible d :=
  Piece.everywhere_iff

/-- The operand of a set operation can be written: without parentheses it may not wrap clauses. -/
def OperandSucceeds (d : Dialect) (b : Body) : Prop :=
  (∃ ts, b.operandTokens d.rules = .ok ts) ↔
    (Piece.body b).Expressible d ∧ ¬ (d = .sqlite ∧ WrapsClauses b)

def succeeding (d : Dialect) : PieceProperty where
  expr e := (∃ ts, e.tokens d.rules = .ok ts) ↔ (Piece.expr e).Expressible d
  exprs es := ∀ e ∈ es, (∃ ts, e.tokens d.rules = .ok ts) ↔ (Piece.expr e).Expressible d
  option o := ∀ e ∈ o, (∃ ts, e.tokens d.rules = .ok ts) ↔ (Piece.expr e).Expressible d
  branches bs := ∀ b ∈ bs, ((∃ ts, b.1.tokens d.rules = .ok ts) ↔ (Piece.expr b.1).Expressible d) ∧
    ((∃ ts, b.2.tokens d.rules = .ok ts) ↔ (Piece.expr b.2).Expressible d)
  item i := (∃ ts, i.tokens d.rules = .ok ts) ↔ (Piece.expr i.expr).Expressible d
  items is := ∀ i ∈ is, (∃ ts, i.tokens d.rules = .ok ts) ↔ (Piece.expr i.expr).Expressible d
  relation x := (∃ ts, x.tokens d.rules = .ok ts) ↔ (Piece.relation x).Expressible d
  constraint k := (∃ ts, k.tokens d.rules = .ok ts) ↔ ∀ y ∈ Piece.ofConstraint k, y.Expressible d
  join j := (∃ ts, j.tokens d.rules = .ok ts) ↔ (Piece.join j).Expressible d
  joins js := ∀ j ∈ js, (∃ ts, j.tokens d.rules = .ok ts) ↔ (Piece.join j).Expressible d
  source f := (∃ ts, f.tokens d.rules = .ok ts) ↔
    (Piece.relation f.relation).Expressible d ∧ ∀ j ∈ f.joins, (Piece.join j).Expressible d
  sources fs := ∀ f ∈ fs, (∃ ts, f.tokens d.rules = .ok ts) ↔
    (Piece.relation f.relation).Expressible d ∧ ∀ j ∈ f.joins, (Piece.join j).Expressible d
  select s := (∃ ts, s.tokens d.rules = .ok ts) ↔ (Piece.select s).Expressible d
  body b := ((∃ ts, b.tokens d.rules = .ok ts) ↔ (Piece.body b).Expressible d) ∧ OperandSucceeds d b
  order o := (∃ ts, o.tokens d.rules = .ok ts) ↔ (Piece.expr o.expr).Expressible d
  orders os := ∀ o ∈ os, (∃ ts, o.tokens d.rules = .ok ts) ↔ (Piece.expr o.expr).Expressible d
  cte k := (∃ ts, k.tokens d.rules = .ok ts) ↔ (Piece.query k.query).Expressible d
  ctes ks := ∀ k ∈ ks, (∃ ts, k.tokens d.rules = .ok ts) ↔ (Piece.query k.query).Expressible d
  query q := ((∃ ts, q.tokens d.rules = .ok ts) ↔ (Piece.query q).Expressible d) ∧ OperandSucceeds d q.body

section

variable {es : List Expr} (h : (succeeding d).exprs es)

include h

theorem exprs_succeed : (∃ tss, List.Forall₂ (fun e t => e.tokens d.rules = .ok t) es tss) ↔
    ∀ y ∈ Piece.ofExprs es, y.Expressible d := by
  rw [exists_forall₂, Piece.ofExprs, List.forall_mem_map]
  exact forall₂_congr h

theorem call_succeeds {function : String} {distinct : Bool} :
    (∃ ts, (Expr.call function es distinct).tokens d.rules = .ok ts) ↔
      (Piece.expr (.call function es distinct)).Expressible d := by
  rw [expressible_iff]
  simp only [Expr.tokens_call_ok, Piece.Fault, ← callForm_singleValue (r := d.rules), areTruncation_iff,
    ← truncStyle_unitLast, ← and_assoc, ← callForm_truncUnitLast, Piece.parts, Piece.ofExpr, not_or]
  constructor
  · rintro ⟨ts, ⟨form, parts⟩ | ⟨form, rfl, rfl, arg⟩ | ⟨form, rfl, part, operand⟩⟩
    · exact ⟨by simp [form], (exprs_succeed h).1 ⟨_, parts⟩⟩
    · exact ⟨by simp [form], (exprs_succeed h).1 ⟨_, .cons arg .nil⟩⟩
    · rename_i unit e t
      have literal : (Expr.literal (.string unit)).tokens d.rules = .ok [.string unit] :=
        Expr.tokens_literal_ok.2 ⟨_, rfl, rfl⟩
      exact ⟨by simp [form, part], (exprs_succeed h).1 ⟨_, .cons literal (.cons operand .nil)⟩⟩
  · rintro ⟨⟨single, trunc⟩, parts⟩
    obtain ⟨tss, parts⟩ := (exprs_succeed h).2 parts
    cases form : callForm d.rules function with
    | plain => exact ⟨_, .plain form parts⟩
    | singleValue =>
      simp only [form, true_and, not_or, Bool.not_eq_true, not_not] at single
      obtain ⟨e, rfl⟩ := List.length_eq_one_iff.1 single.2
      cases parts with
      | cons arg => exact ⟨_, .singleValue form rfl single.1 arg⟩
    | truncUnitLast =>
      simp only [form, true_and, not_not] at trunc
      obtain ⟨unit, e, rfl, part⟩ := trunc
      cases parts with
      | cons _ rest => cases rest with
        | cons operand => exact ⟨_, .truncUnitLast form rfl part operand⟩

theorem array_succeeds : (∃ ts, (Expr.array es).tokens d.rules = .ok ts) ↔
    (Piece.expr (.array es)).Expressible d := by
  rw [expressible_iff]
  simp only [Expr.tokens_array_ok, Piece.Fault, ← arrayStyle_unsupported, Piece.parts, Piece.ofExpr]
  constructor
  · rintro ⟨ts, ⟨style, parts⟩ | ⟨style, parts⟩ | ⟨style, parts⟩⟩ <;>
      exact ⟨by simp [style], (exprs_succeed h).1 ⟨_, parts⟩⟩
  · rintro ⟨supported, parts⟩
    obtain ⟨tss, parts⟩ := (exprs_succeed h).2 parts
    cases style : d.rules.arrayStyle with
    | bracket => exact ⟨_, .bracket style parts⟩
    | keyword => exact ⟨_, .keyword style parts⟩
    | call function => exact ⟨_, .call style parts⟩
    | unsupported => exact (supported style).elim

theorem inList_succeeds {e : Expr} {negated : Bool}
    (he : (∃ ts, e.tokens d.rules = .ok ts) ↔ (Piece.expr e).Expressible d) :
    (∃ ts, (Expr.inList e es negated).tokens d.rules = .ok ts) ↔
      (Piece.expr (.inList e es negated)).Expressible d := by
  rw [expressible_iff]
  simp only [Expr.tokens_inList_ok, Piece.Fault, Piece.parts, not_false_eq_true, true_and]
  cases es with
  | nil => simp [Piece.ofExpr]
  | cons v vs =>
    have parts : Piece.ofExpr (.inList e (v :: vs) negated) = .expr e :: Piece.ofExprs (v :: vs) := rfl
    rw [parts, List.forall_mem_cons, ← exprs_succeed h, ← he]
    simp

end

theorem index_succeeds {array index : Expr}
    (ha : (∃ ts, array.tokens d.rules = .ok ts) ↔ (Piece.expr array).Expressible d)
    (hi : (∃ ts, index.tokens d.rules = .ok ts) ↔ (Piece.expr index).Expressible d) :
    (∃ ts, (Expr.index array index).tokens d.rules = .ok ts) ↔
      (Piece.expr (.index array index)).Expressible d := by
  rw [expressible_iff]
  simp only [Expr.tokens_index_ok, Piece.Fault, ← indexStyle_unsupported, Piece.parts, Piece.ofExpr,
    List.forall_mem_cons, List.not_mem_nil, false_imp_iff, implies_true, and_true, ← ha, ← hi]
  constructor
  · rintro ⟨ts, a, i, harray, ⟨style, h⟩ | ⟨style, h⟩ | ⟨style, rfl⟩ | ⟨style, -, h⟩, rfl⟩
    · exact ⟨by simp [style], ⟨a, harray⟩, _, h⟩
    · exact ⟨by simp [style], ⟨a, harray⟩, _, h⟩
    · exact ⟨by simp [style], ⟨a, harray⟩, _, Expr.tokens_literal_ok.2 ⟨_, rfl, rfl⟩⟩
    · exact ⟨by simp [style], ⟨a, harray⟩, _, h⟩
  · rintro ⟨supported, ⟨a, harray⟩, i, hindex⟩
    cases style : d.rules.indexStyle with
    | oneBased => exact ⟨_, a, _, harray, .oneBased style hindex, rfl⟩
    | ordinal => exact ⟨_, a, _, harray, .ordinal style hindex, rfl⟩
    | zeroBased =>
      by_cases literal : ∃ n, index = .literal (.int n)
      · obtain ⟨n, rfl⟩ := literal
        exact ⟨_, a, _, harray, .shifted style rfl, rfl⟩
      · exact ⟨_, a, _, harray, .difference style (fun n same => literal ⟨n, same⟩) hindex, rfl⟩
    | unsupported => exact (supported style).elim

theorem option_succeeds {o : Option Expr} (h : (succeeding d).option o) (lead : List Token) :
    (∃ ts, Led lead (fun e t => e.tokens d.rules = .ok t) o ts) ↔ ∀ y ∈ Piece.ofOption o, y.Expressible d := by
  rw [exists_led, Piece.ofOption, List.forall_mem_map]
  simp only [Option.mem_toList]
  exact forall₂_congr h

theorem branches_succeed {bs : List (Expr × Expr)} (h : (succeeding d).branches bs) :
    (∃ tss, Branched (fun e t => e.tokens d.rules = .ok t) bs tss) ↔
      ∀ y ∈ Piece.ofBranches bs, y.Expressible d := by
  rw [exists_forall₂, Piece.ofBranches, List.forall_mem_flatMap]
  refine forall₂_congr fun b hb => ?_
  rw [List.forall_mem_cons, List.forall_mem_singleton, ← (h b hb).1, ← (h b hb).2]
  exact ⟨fun ⟨t, hc, hr⟩ => ⟨⟨_, hc⟩, _, hr⟩, fun ⟨⟨c, hc⟩, r, hr⟩ => ⟨(c, r), hc, hr⟩⟩

theorem select_succeeds {distinct : Bool} {is : List SelectItem} {fs : List FromItem} {w h : Option Expr}
    {g : List Expr} (his : (succeeding d).items is) (hfs : (succeeding d).sources fs)
    (hw : (succeeding d).option w) (hg : (succeeding d).exprs g) (hh : (succeeding d).option h) :
    (∃ ts, (Select.mk distinct is fs w g h).tokens d.rules = .ok ts) ↔
      (Piece.select ⟨distinct, is, fs, w, g, h⟩).Expressible d := by
  have items : (∃ tss, List.Forall₂ (fun i t => i.tokens d.rules = .ok t) is tss) ↔
      ∀ y ∈ Piece.ofExprs (is.map (·.expr)), y.Expressible d := by
    rw [exists_forall₂, Piece.ofExprs, List.map_map, List.forall_mem_map]
    exact forall₂_congr his
  have sources : (∃ tss, List.Forall₂ (fun f t => f.tokens d.rules = .ok t) fs tss) ↔
      ∀ y ∈ Piece.ofSources fs, y.Expressible d := by
    rw [exists_forall₂, Piece.ofSources, List.forall_mem_flatMap]
    refine forall₂_congr fun f hf => ?_
    rw [List.forall_mem_cons, List.forall_mem_map]
    exact hfs f hf
  rw [expressible_iff]
  simp only [Piece.Fault, Piece.parts, List.forall_mem_append, ← items, ← sources,
    ← option_succeeds hw [.space, .keyword .where_, .space], ← exprs_succeed hg,
    ← option_succeeds hh [.space, .keyword .having_, .space], Select.tokens_ok]
  simp [and_assoc]

theorem query_succeeds {ks : List Cte} {recursive : Bool} {b : Body} {os : List OrderItem} {l f : Option Expr}
    (hks : (succeeding d).ctes ks)
    (hb : (∃ ts, b.tokens d.rules = .ok ts) ↔ (Piece.body b).Expressible d)
    (hos : (succeeding d).orders os) (hl : (succeeding d).option l) (hf : (succeeding d).option f) :
    (∃ ts, (Query.mk ks recursive b os l f).tokens d.rules = .ok ts) ↔
      (Piece.query ⟨ks, recursive, b, os, l, f⟩).Expressible d := by
  have ctes : (∃ tss, List.Forall₂ (fun k t => k.tokens d.rules = .ok t) ks tss) ↔
      ∀ y ∈ ks.map (fun k => Piece.query k.query), y.Expressible d := by
    rw [exists_forall₂, List.forall_mem_map]
    exact forall₂_congr hks
  have orders : (∃ tss, List.Forall₂ (fun o t => o.tokens d.rules = .ok t) os tss) ↔
      ∀ y ∈ Piece.ofExprs (os.map (·.expr)), y.Expressible d := by
    rw [exists_forall₂, Piece.ofExprs, List.map_map, List.forall_mem_map]
    exact forall₂_congr hos
  rw [expressible_iff]
  simp only [Piece.Fault, Piece.parts, List.forall_mem_append, List.forall_mem_singleton, ← ctes, ← hb,
    ← orders, ← option_succeeds hl [Token.space, .keyword .limit, .space],
    ← option_succeeds hf (offsetPrelude d.rules l.isSome ++ [Token.space, .keyword .offset, .space]),
    Query.tokens_ok]
  simp [and_assoc]

theorem operand_succeeds {b : Body}
    (h : (∃ ts, b.tokens d.rules = .ok ts) ↔ (Piece.body b).Expressible d) (clean : ¬ WrapsClauses b)
    (plain : ∀ q, b ≠ .query q) : OperandSucceeds d b := by
  unfold OperandSucceeds
  by_cases parens : d.rules.operandParens = true
  · simp [Body.operandTokens_parens_ok parens, h, clean]
  · simp [Body.operandTokens_bare_ok (Bool.eq_false_iff.2 parens) plain, h, clean]

theorem wrapped_succeeds {q : Query}
    (h : (∃ ts, (Body.query q).tokens d.rules = .ok ts) ↔ (Piece.body (.query q)).Expressible d)
    (hb : OperandSucceeds d q.body) : OperandSucceeds d (.query q) := by
  unfold OperandSucceeds at *
  by_cases parens : d.rules.operandParens = true
  · simp [Body.operandTokens_parens_ok parens, h, operandParens_iff.1 parens]
  · have sqlite : d = .sqlite := by simpa [operandParens_iff] using parens
    have operand : (∃ ts, (Body.query q).operandTokens d.rules = .ok ts) ↔
        q.hasClauses = false ∧ ∃ ts, q.body.operandTokens d.rules = .ok ts := by
      simp [Body.operandTokens_bare_query_ok (Bool.eq_false_iff.2 parens)]
    have clauseFree (free : q.hasClauses = false) :
        (Piece.body (.query q)).Expressible d ↔ (Piece.body q.body).Expressible d := by
      simp [Piece.Expressible, Piece.everywhere_wrapper free]
    rw [operand, hb, wrapsClauses_query]
    simp only [sqlite, true_and, not_or, Bool.not_eq_true] at *
    constructor
    · rintro ⟨free, all, clean⟩
      exact ⟨(clauseFree free).2 all, free, clean⟩
    · rintro ⟨all, free, clean⟩
      exact ⟨free, (clauseFree free).1 all, clean⟩

theorem succeeding_ascends : (succeeding d).Ascends where
  leaf e he := by
    simp only [succeeding]
    rw [expressible_iff]
    cases e with
    | column qualifier name => simp [Expr.tokens_column_ok]
    | literal value =>
      cases value with
      | float x =>
        simp only [Expr.tokens_literal_ok, Literal.token, Piece.Fault, Piece.parts, Piece.ofExpr]
        cases x.isFinite <;> simp
      | _ => simp [Expr.tokens_literal_ok, Literal.token]
    | keyword word =>
      simp only [Expr.tokens_keyword_ok, isBareWord_iff, Piece.Fault, Piece.parts, Piece.ofExpr]
      simp
    | star qualifier => simp [Expr.tokens_star_ok]
    | unsupported detail => simp [Expr.tokens_unsupported_ok]
    | _ => cases he
  binary op l r hl hr := by
    simp only [succeeding] at *
    rw [expressible_iff]
    simp [Expr.tokens_binary_ok, hl, hr]
  not e he := by
    simp only [succeeding] at *
    rw [expressible_iff]
    simp [Expr.tokens_not_ok, he]
  neg e he := by
    simp only [succeeding] at *
    rw [expressible_iff]
    simp [Expr.tokens_neg_ok, he]
  call f es distinct hes := call_succeeds hes
  case o bs t ho hbs ht := by
    simp only [succeeding] at *
    rw [expressible_iff]
    simp only [Piece.Fault, Piece.parts, Piece.ofExpr, List.forall_mem_append,
      ← option_succeeds ho [.space], ← branches_succeed hbs,
      ← option_succeeds ht [.space, .keyword .else_, .space]]
    simp [Expr.tokens_case_ok, and_assoc]
  subquery q hq := by
    simp only [succeeding] at *
    rw [expressible_iff]
    simp [Expr.tokens_subquery_ok, hq]
  existential q negated hq := by
    simp only [succeeding] at *
    rw [expressible_iff]
    simp [Expr.tokens_exists_ok, hq]
  inList e es negated he hes := inList_succeeds hes he
  inQuery e q negated he hq := by
    simp only [succeeding] at *
    rw [expressible_iff]
    simp [Expr.tokens_inQuery_ok, he, hq]
  between e l u negated he hl hu := by
    simp only [succeeding] at *
    rw [expressible_iff]
    simp [Expr.tokens_between_ok, he, hl, hu]
  isNull e negated he := by
    simp only [succeeding] at *
    rw [expressible_iff]
    simp [Expr.tokens_isNull_ok, he]
  like e pattern negated he hp := by
    simp only [succeeding] at *
    rw [expressible_iff]
    simp [Expr.tokens_like_ok, he, hp]
  cast e type he := by
    simp only [succeeding] at *
    rw [expressible_iff]
    simp [Expr.tokens_cast_ok, typeName_ok, he]
  index a i ha hi := index_succeeds ha hi
  array es hes := array_succeeds hes
  paren e he := by
    simp only [succeeding] at *
    rw [expressible_iff]
    simp [Expr.tokens_paren_ok, he]
  exprsNil := List.forall_mem_nil _
  exprsCons e es he hes := List.forall_mem_cons.2 ⟨he, hes⟩
  optionNone := nofun
  optionSome e he := fun _ same => Option.some.inj same ▸ he
  branchesNil := List.forall_mem_nil _
  branchesCons k t bs hk ht hbs := List.forall_mem_cons.2 ⟨⟨hk, ht⟩, hbs⟩
  item e label he := by
    simp only [succeeding, SelectItem.tokens_ok] at *
    simp [he]
  itemsNil := List.forall_mem_nil _
  itemsCons i is hi his := List.forall_mem_cons.2 ⟨hi, his⟩
  table path label := by
    simp only [succeeding]
    rw [expressible_iff]
    simp [Relation.tokens_table_ok]
  derived q label hq := by
    simp only [succeeding] at *
    rw [expressible_iff]
    simp [Relation.tokens_derived_ok, hq.1]
  unnest es label hes := by
    simp only [succeeding]
    rw [expressible_iff]
    simp only [Piece.Fault, ← unnest_iff, Piece.parts, ← exprs_succeed hes]
    simp [Relation.tokens_unnest_ok]
  on e he := by
    simp only [succeeding] at *
    simp [JoinConstraint.tokens_on_ok, he, Piece.ofConstraint]
  usingColumns columns := by
    simp only [succeeding]
    simp [JoinConstraint.tokens_using_ok, Piece.ofConstraint]
  unconstrained := by
    simp only [succeeding]
    simp [JoinConstraint.tokens_none_ok, Piece.ofConstraint]
  join type x k hx hk := by
    simp only [succeeding] at *
    rw [expressible_iff]
    simp only [Piece.Fault, Piece.parts, List.forall_mem_cons, ← hx, ← hk]
    simp [Join.tokens_ok, fullJoin_iff]
  joinsNil := List.forall_mem_nil _
  joinsCons j js hj hjs := List.forall_mem_cons.2 ⟨hj, hjs⟩
  source x js hx hjs := by
    have joins : (∃ tss, List.Forall₂ (fun j t => j.tokens d.rules = .ok t) js tss) ↔
        ∀ j ∈ js, (Piece.join j).Expressible d := by
      rw [exists_forall₂]
      exact forall₂_congr hjs
    simp only [succeeding] at *
    simp only [← hx, ← joins]
    simp [FromItem.tokens_ok]
  sourcesNil := List.forall_mem_nil _
  sourcesCons f fs hf hfs := List.forall_mem_cons.2 ⟨hf, hfs⟩
  select distinct is fs w g k his hfs hw hg hk := select_succeeds his hfs hw hg hk
  bodySelect s hs := by
    have same : (∃ ts, (Body.select s).tokens d.rules = .ok ts) ↔ (Piece.body (.select s)).Expressible d := by
      rw [expressible_iff]
      simp only [succeeding] at hs
      simp [Body.tokens_select_ok, hs]
    exact ⟨same, operand_succeeds same (by simp [WrapsClauses]) fun _ same => by cases same⟩
  setOp op all l r hl hr := by
    have same : (∃ ts, (Body.setOp op all l r).tokens d.rules = .ok ts) ↔
        (Piece.body (.setOp op all l r)).Expressible d := by
      rw [expressible_iff]
      have left := hl.2
      have right := hr.2
      simp only [OperandSucceeds] at left right
      simp only [Piece.Fault, Piece.parts, List.forall_mem_cons, Body.tokens_setOp_ok]
      simp [left, right]
      constructor
      · rintro ⟨⟨leftOk, leftBare⟩, rightOk, rightBare⟩
        exact ⟨fun lite => ⟨leftBare lite, rightBare lite⟩, leftOk, rightOk⟩
      · rintro ⟨bare, leftOk, rightOk⟩
        exact ⟨⟨leftOk, fun lite => (bare lite).1⟩, rightOk, fun lite => (bare lite).2⟩
    exact ⟨same, operand_succeeds same (by simp [WrapsClauses]) fun _ same => by cases same⟩
  bodyQuery q hq := by
    have same : (∃ ts, (Body.query q).tokens d.rules = .ok ts) ↔ (Piece.body (.query q)).Expressible d := by
      rw [expressible_iff]
      simp only [succeeding] at hq
      simp [Body.tokens_query_ok, hq.1]
    exact ⟨same, wrapped_succeeds same hq.2⟩
  order e dir nulls he := by
    simp only [succeeding, OrderItem.tokens_ok] at *
    simp [he]
  ordersNil := List.forall_mem_nil _
  ordersCons o os ho hos := List.forall_mem_cons.2 ⟨ho, hos⟩
  cte name columns q hq := by
    simp only [succeeding, Cte.tokens_ok] at *
    simp [hq.1]
  ctesNil := List.forall_mem_nil _
  ctesCons k ks hk hks := List.forall_mem_cons.2 ⟨hk, hks⟩
  query ks recursive b os l f hks hb hos hl hf :=
    ⟨query_succeeds hks hb.1 hos hl hf, hb.2⟩

/-- Emission fails exactly on a fault at an emitted position. -/
theorem sql_fails_iff (d : Dialect) (q : Query) :
    (∃ e, q.sql d = .error e) ↔ ∃ x, (Piece.query q).Emits x ∧ x.Fault d := by
  rw [← Piece.not_everywhere_not, Query.sql]
  change _ ↔ ¬ (Piece.query q).Expressible d
  rw [← (succeeding_ascends.query_holds q).1]
  cases q.tokens d.rules <;> simp [Except.map]

end

end QueryBridge.Emission
