import QueryBridge.Proofs.Emission.Positions
import QueryBridge.Proofs.Emission.Separators
import QueryBridge.Proofs.Tree.Induction

set_option autoImplicit false

namespace QueryBridge

/-- The text of the expression begins with a dash. -/
def Expr.startsWithDash : Expr → Bool
  | .neg _ => true
  | .literal (.int n) => n < 0
  | .literal (.float x) => x.negative
  | .index a _ => a.startsWithDash
  | _ => false

namespace Emission

open Token (space parens parensIf brackets commaList clause path)

namespace Piece

/-- The texts that are emitted as they stand in the tree. -/
def verbatim : Piece → List String
  | .expr (.literal (.decimal text)) | .expr (.literal (.placeholder text)) => [text]
  | .expr (.call function _ _) => [function]
  | .expr (.cast _ type) => intervalTexts type
  | _ => []

/-- The verbatim texts at emitted positions neither open a comment nor begin or end with a mark. -/
abbrev Tamed : Piece → Prop := Everywhere fun y => ∀ s ∈ y.verbatim, Tame s.toList

/-- A minus sign whose operand begins with a dash. -/
def DoublesDash : Piece → Prop
  | .expr (.neg e) => e.startsWithDash
  | _ => False

abbrev Calm : Piece → Prop := Everywhere fun y => ¬ y.DoublesDash

end Piece

variable {d : Dialect} {ps qs : List Piece} {x : Piece} {ts : List Token} {free free' : Prop}

/-- With tame texts, that no comment opens means that no piece doubles a dash. -/
def Agrees (ps : List Piece) (free : Prop) : Prop :=
  (∀ y ∈ ps, y.Tamed) → (free ↔ ∀ y ∈ ps, y.Calm)

theorem agrees_nil (h : free) : Agrees [] free := fun _ => by simpa using h

theorem Agrees.congr (h : Agrees ps free) (same : free' ↔ free) : Agrees ps free' :=
  fun tamed => same.trans (h tamed)

theorem Agrees.append (hp : Agrees ps free) (hq : Agrees qs free') : Agrees (ps ++ qs) (free ∧ free') := by
  intro tamed
  rw [List.forall_mem_append] at tamed ⊢
  rw [hp tamed.1, hq tamed.2]

/-- A piece that is no minus sign agrees if its parts do. -/
theorem agrees_of_parts (h : (∀ s ∈ x.verbatim, Tame s.toList) → Agrees x.parts free)
    (calm : ¬ x.DoublesDash) : Agrees [x] free := by
  intro tamed
  rw [List.forall_mem_singleton, Piece.Tamed, Piece.everywhere_iff] at tamed
  rw [List.forall_mem_singleton, Piece.Calm, Piece.everywhere_iff, h tamed.1 tamed.2]
  exact (and_iff_right calm).symm

theorem agrees_list {α β : Type} {pieces : α → List Piece} {free : β → Prop} {p : α → β → Prop} {as : List α}
    {bs : List β} (h : ∀ a ∈ as, ∀ b, p a b → Agrees (pieces a) (free b)) (emitted : List.Forall₂ p as bs) :
    Agrees (as.flatMap pieces) (∀ b ∈ bs, free b) := by
  induction emitted with
  | nil => exact agrees_nil nofun
  | cons first _ ih =>
    obtain ⟨head, tail⟩ := List.forall_mem_cons.1 h
    exact ((head _ first).append (ih tail)).congr List.forall_mem_cons

theorem agrees_led {o : Option Expr} {lead : List Token} {p : Expr → List Token → Prop}
    (h : ∀ e ∈ o, ∀ ts, p e ts → Agrees [.expr e] (Free d.rules ts)) (emitted : Led lead p o ts)
    (free : ∀ us, Free d.rules (lead ++ us) ↔ Free d.rules us) :
    Agrees (Piece.ofOption o) (Free d.rules ts) := by
  cases emitted with
  | none => exact agrees_nil free_nil
  | some emitted => exact (h _ rfl _ emitted).congr (free _)

theorem fresh_led {r : Rules} {o : Option Expr} {lead : List Token} {p : Expr → List Token → Prop}
    (emitted : Led lead p o ts) (fresh : ∀ us, Fresh r (lead ++ us)) : Fresh r ts := by
  cases emitted with
  | none => exact fresh_nil
  | some => exact fresh _

/-- Parentheses keep a dash from being the first character, but only what is no atom has them. -/
theorem dashed_operand {e : Expr} (h : e.needsParensAsAtom = false → (Dashed d.rules ts ↔ e.startsWithDash)) :
    Dashed d.rules (parensIf e.needsParensAsAtom ts) ↔ e.startsWithDash := by
  cases atom : e.needsParensAsAtom with
  | false => exact h atom
  | true =>
    refine iff_of_false fresh_parens.not_dashed ?_
    cases e with
    | neg | literal | index => cases atom
    | _ => exact nofun

theorem literal_text {value : Literal} (emitted : (Expr.literal value).tokens d.rules = .ok ts)
    (tame : ∀ s ∈ (Piece.expr (.literal value)).verbatim, Tame s.toList) :
    Free d.rules ts ∧ (Dashed d.rules ts ↔ (Expr.literal value).startsWithDash) := by
  obtain ⟨t, token, rfl⟩ := Expr.tokens_literal_ok.1 emitted
  have dashless {t : Token} (free : Free d.rules [t]) (fresh : Fresh d.rules [t]) :
      Free d.rules [t] ∧ (Dashed d.rules [t] ↔ false) :=
    ⟨free, iff_of_false fresh.not_dashed nofun⟩
  have tamed {t : Token} (bare : t.isQuoted = false) (tame : Tame (t.text d.rules).toList) :=
    dashless (free_of_tame bare tame) (fresh_of_tame bare tame)
  cases value with
  | int n =>
    cases token
    exact ⟨free_of_signed rfl (signed_int64 n), dashed_of_signed rfl (signed_int64 n)⟩
  | float x =>
    rw [Literal.token] at token
    split at token
    · rename_i finite
      cases token
      exact ⟨free_of_signed rfl (signed_float finite), dashed_of_signed rfl (signed_float finite)⟩
    · cases token
  | decimal text | placeholder text =>
    cases token
    exact tamed rfl (tame text List.mem_cons_self)
  | string text =>
    cases token
    exact dashless (free_of_quoted rfl) (fresh_of_quoted rfl)
  | bool b =>
    cases token
    exact tamed rfl (plain_formatBool d b).tame
  | null =>
    cases token
    exact dashless (inert_keyword _).free fresh_keyword_cons

theorem fresh_call {function : String} {args : List Expr} {distinct : Bool} {p : Expr → List Token → Prop}
    (emitted : Expr.CallLayout d.rules p function args distinct ts) (tame : Tame function.toList) :
    Fresh d.rules ts := by
  cases emitted with
  | plain => exact fresh_function tame fresh_parens
  | singleValue => simp [singleValueTokens]
  | truncUnitLast => exact fresh_function (Plain.tame (by decide)) fresh_parens

theorem fresh_array {items : List Expr} {p : Expr → List Token → Prop}
    (emitted : Expr.ArrayLayout d.rules p items ts) : Fresh d.rules ts := by
  cases emitted with
  | bracket => exact fresh_brackets
  | keyword => exact fresh_keyword_cons
  | call style =>
    exact fresh_function (tame_arrayFunction style) fresh_parens

/-- Of the atoms only those that `startsWithDash` lists begin with a dash. -/
theorem dashed_iff : ∀ {e : Expr} {ts : List Token}, e.tokens d.rules = .ok ts → (Piece.expr e).Tamed →
    e.needsParensAsAtom = false → (Dashed d.rules ts ↔ e.startsWithDash)
  | .binary op _ _, _, _, _, atom => by cases op <;> cases atom
  | .neg e, _, emitted, _, _ => by
    obtain ⟨t, -, rfl⟩ := Expr.tokens_neg_ok.1 emitted
    exact iff_of_true dashed_minus_cons rfl
  | .index a i, _, emitted, tamed, _ => by
    obtain ⟨t, u, array, -, rfl⟩ := Expr.tokens_index_ok.1 emitted
    have below := dashed_iff array ((Piece.everywhere_iff.1 tamed).2 _ List.mem_cons_self)
    exact (dashed_append fresh_brackets).trans (dashed_operand below)
  | .literal value, _, emitted, tamed, _ => (literal_text emitted (Piece.everywhere_iff.1 tamed).1).2
  | .column qualifier name, _, emitted, _, _ => by
    obtain rfl := Expr.tokens_column_ok.1 emitted
    exact iff_of_false (fresh_qualifierTokens (by simp)).not_dashed nofun
  | .star qualifier, _, emitted, _, _ => by
    obtain rfl := Expr.tokens_star_ok.1 emitted
    exact iff_of_false not_dashed_star nofun
  | .call f args distinct, _, emitted, tamed, _ =>
    have tame := (Piece.everywhere_iff.1 tamed).1 f List.mem_cons_self
    iff_of_false (fresh_call (Expr.tokens_call_ok.1 emitted) tame).not_dashed nofun
  | .array items, _, emitted, _, _ =>
    iff_of_false (fresh_array (Expr.tokens_array_ok.1 emitted)).not_dashed nofun
  | .keyword word, _, emitted, _, _ => by
    obtain ⟨bare, rfl⟩ := Expr.tokens_keyword_ok.1 emitted
    refine iff_of_false (Fresh.not_dashed (fresh_of_tame rfl ?_)) nofun
    exact tame_bareWord bare
  | .case _ _ _, _, emitted, _, _ => by
    obtain ⟨o, tss, e, -, -, -, rfl⟩ := Expr.tokens_case_ok.1 emitted
    exact iff_of_false (Fresh.not_dashed (by simp)) nofun
  | .subquery _, _, emitted, _, _ => by
    obtain ⟨t, -, rfl⟩ := Expr.tokens_subquery_ok.1 emitted
    exact iff_of_false fresh_parens.not_dashed nofun
  | .exists _ negated, _, emitted, _, _ => by
    obtain ⟨t, -, rfl⟩ := Expr.tokens_exists_ok.1 emitted
    exact iff_of_false (Fresh.not_dashed (by cases negated <;> simp)) nofun
  | .cast _ _, _, emitted, _, _ => by
    obtain ⟨name, t, -, -, rfl⟩ := Expr.tokens_cast_ok.1 emitted
    exact iff_of_false fresh_keyword_cons.not_dashed nofun
  | .paren _, _, emitted, _, _ => by
    obtain ⟨t, -, rfl⟩ := Expr.tokens_paren_ok.1 emitted
    exact iff_of_false fresh_parens.not_dashed nofun
  | .unsupported _, _, emitted, _, _ => (Expr.tokens_unsupported_ok.1 emitted).elim

def agreeing (d : Dialect) : PieceProperty where
  expr e := ∀ ts, e.tokens d.rules = .ok ts → Agrees [.expr e] (Free d.rules ts)
  exprs es := ∀ e ∈ es, ∀ ts, e.tokens d.rules = .ok ts → Agrees [.expr e] (Free d.rules ts)
  option o := ∀ e ∈ o, ∀ ts, e.tokens d.rules = .ok ts → Agrees [.expr e] (Free d.rules ts)
  branches bs := ∀ b ∈ bs, (∀ ts, b.1.tokens d.rules = .ok ts → Agrees [.expr b.1] (Free d.rules ts)) ∧
    ∀ ts, b.2.tokens d.rules = .ok ts → Agrees [.expr b.2] (Free d.rules ts)
  item i := ∀ ts, i.tokens d.rules = .ok ts → Agrees [.expr i.expr] (Free d.rules ts)
  items is := ∀ i ∈ is, ∀ ts, i.tokens d.rules = .ok ts → Agrees [.expr i.expr] (Free d.rules ts)
  relation x := ∀ ts, x.tokens d.rules = .ok ts → Agrees [.relation x] (Free d.rules ts)
  constraint k := ∀ ts, k.tokens d.rules = .ok ts → Agrees (Piece.ofConstraint k) (Free d.rules ts) ∧ Fresh d.rules ts
  join j := ∀ ts, j.tokens d.rules = .ok ts → Agrees [.join j] (Free d.rules ts)
  joins js := ∀ j ∈ js, ∀ ts, j.tokens d.rules = .ok ts → Agrees [.join j] (Free d.rules ts)
  source f := ∀ ts, f.tokens d.rules = .ok ts → Agrees (.relation f.relation :: f.joins.map .join) (Free d.rules ts)
  sources fs := ∀ f ∈ fs, ∀ ts, f.tokens d.rules = .ok ts →
    Agrees (.relation f.relation :: f.joins.map .join) (Free d.rules ts)
  select s := ∀ ts, s.tokens d.rules = .ok ts → Agrees [.select s] (Free d.rules ts)
  body b := (∀ ts, b.tokens d.rules = .ok ts → Agrees [.body b] (Free d.rules ts)) ∧
    ∀ ts, b.operandTokens d.rules = .ok ts → Agrees [.body b] (Free d.rules ts)
  order o := ∀ ts, o.tokens d.rules = .ok ts → Agrees [.expr o.expr] (Free d.rules ts)
  orders os := ∀ o ∈ os, ∀ ts, o.tokens d.rules = .ok ts → Agrees [.expr o.expr] (Free d.rules ts)
  cte k := ∀ ts, k.tokens d.rules = .ok ts → Agrees [.query k.query] (Free d.rules ts)
  ctes ks := ∀ k ∈ ks, ∀ ts, k.tokens d.rules = .ok ts → Agrees [.query k.query] (Free d.rules ts)
  query q := (∀ ts, q.tokens d.rules = .ok ts → Agrees [.query q] (Free d.rules ts)) ∧
    ∀ ts, q.body.operandTokens d.rules = .ok ts → Agrees [.body q.body] (Free d.rules ts)

theorem agrees_exprs {es : List Expr} {tss : List (List Token)} (h : (agreeing d).exprs es)
    (emitted : List.Forall₂ (fun e t => e.tokens d.rules = .ok t) es tss) :
    Agrees (Piece.ofExprs es) (∀ ts ∈ tss, Free d.rules ts) := by
  rw [Piece.ofExprs, List.map_eq_flatMap]
  exact agrees_list h emitted

theorem agrees_branches {bs : List (Expr × Expr)} {tss : List (List Token × List Token)}
    (h : (agreeing d).branches bs) (emitted : Branched (fun e t => e.tokens d.rules = .ok t) bs tss) :
    Agrees (Piece.ofBranches bs) (Free d.rules (branchTokens tss)) := by
  refine (agrees_list (fun b hb ts emitted => ?_) emitted).congr free_branchTokens
  exact ((h b hb).1 _ emitted.1).append ((h b hb).2 _ emitted.2)

theorem agrees_leaf {e : Expr} (leaf : e.isLeaf) (emitted : e.tokens d.rules = .ok ts) :
    Agrees [.expr e] (Free d.rules ts) := by
  have none (tame : ∀ s ∈ (Piece.expr e).verbatim, Tame s.toList) : Free d.rules ts := by
    cases e with
    | column qualifier name =>
      obtain rfl := Expr.tokens_column_ok.1 emitted
      simp
    | literal value => exact (literal_text emitted tame).1
    | keyword word =>
      obtain ⟨bare, rfl⟩ := Expr.tokens_keyword_ok.1 emitted
      exact free_of_tame rfl (tame_bareWord bare)
    | star qualifier =>
      obtain rfl := Expr.tokens_star_ok.1 emitted
      simp
    | unsupported detail => exact (Expr.tokens_unsupported_ok.1 emitted).elim
    | _ => cases leaf
  cases e with
  | column | literal | keyword | star | unsupported => exact agrees_of_parts (fun tame => agrees_nil (none tame)) id
  | _ => cases leaf

theorem agrees_neg {e : Expr} (he : (agreeing d).expr e) (emitted : e.neg.tokens d.rules = .ok ts) :
    Agrees [.expr e.neg] (Free d.rules ts) := by
  obtain ⟨t, operand, rfl⟩ := Expr.tokens_neg_ok.1 emitted
  intro tamed
  rw [List.forall_mem_singleton] at tamed ⊢
  have below := (Piece.everywhere_iff.1 tamed).2 (.expr e) List.mem_cons_self
  have dash := dashed_operand (dashed_iff operand below)
  have inner := he t operand (List.forall_mem_singleton.2 below)
  rw [List.forall_mem_singleton] at inner
  rw [free_minus_cons, dash, free_parensIf, inner, Piece.Calm, Piece.everywhere_iff (x := .expr e.neg)]
  simp only [Piece.parts, Piece.ofExpr, List.forall_mem_singleton]
  exact and_comm

theorem agrees_call {function : String} {args : List Expr} {distinct : Bool} (h : (agreeing d).exprs args)
    (emitted : (Expr.call function args distinct).tokens d.rules = .ok ts) :
    Agrees [.expr (.call function args distinct)] (Free d.rules ts) := by
  refine agrees_of_parts (fun tame => ?_) id
  cases Expr.tokens_call_ok.1 emitted with
  | plain form parts =>
    have name : Tame function.toList := tame function List.mem_cons_self
    refine (agrees_exprs h parts).congr ?_
    cases distinct <;> simp [free_function name]
  | singleValue form single all part =>
    subst single
    exact (h _ List.mem_cons_self _ part).congr free_singleValueTokens
  | @truncUnitLast unit e t form two date part =>
    subst two
    have literal : Agrees [.expr (.literal (.string unit))] True :=
      agrees_of_parts (fun _ => agrees_nil trivial) id
    have operand := h e (by simp) t part
    refine (literal.append operand).congr ?_
    have word : Free d.rules [.word (Text.upper unit)] := free_of_tame rfl (tame_datePart date)
    have name : Tame "DATE_TRUNC".toList := Plain.tame (by decide)
    simp [free_function name, word]

theorem agrees_inList {e : Expr} {es : List Expr} {negated : Bool} (he : (agreeing d).expr e)
    (hes : (agreeing d).exprs es) (emitted : (Expr.inList e es negated).tokens d.rules = .ok ts) :
    Agrees [.expr (.inList e es negated)] (Free d.rules ts) := by
  refine agrees_of_parts (fun _ => ?_) id
  rcases Expr.tokens_inList_ok.1 emitted with ⟨rfl, rfl⟩ | ⟨nonempty, t, tss, operand, values, rfl⟩
  · exact agrees_nil (by simp)
  · cases es with
    | nil => exact (nonempty rfl).elim
    | cons v vs => exact ((he t operand).append (agrees_exprs hes values)).congr (by simp)

theorem agrees_index {a i : Expr} (ha : (agreeing d).expr a) (hi : (agreeing d).expr i)
    (emitted : (Expr.index a i).tokens d.rules = .ok ts) : Agrees [.expr (.index a i)] (Free d.rules ts) := by
  obtain ⟨t, u, array, index, rfl⟩ := Expr.tokens_index_ok.1 emitted
  refine agrees_of_parts (fun _ => ?_) id
  have inside : Agrees [.expr i] (Free d.rules u) := by
    cases index with
    | oneBased style part => exact hi _ part
    | ordinal style part =>
      have name : Tame "ORDINAL".toList := Plain.tame (by decide)
      exact (hi _ part).congr (by simp [free_function name])
    | shifted style literal =>
      subst literal
      exact agrees_of_parts (fun _ => agrees_nil (by simp)) id
    | difference style other part => exact (hi _ part).congr (by simp)
  exact ((ha t array).append inside).congr (by simp)

theorem agrees_array {items : List Expr} (h : (agreeing d).exprs items)
    (emitted : (Expr.array items).tokens d.rules = .ok ts) : Agrees [.expr (.array items)] (Free d.rules ts) := by
  refine agrees_of_parts (fun _ => ?_) id
  cases Expr.tokens_array_ok.1 emitted with
  | bracket style parts => exact (agrees_exprs h parts).congr (by simp)
  | keyword style parts => exact (agrees_exprs h parts).congr (by simp)
  | @call function tss style parts =>
    have name : Tame function.toList := tame_arrayFunction style
    exact (agrees_exprs h parts).congr (by simp [free_function name])

theorem agrees_select {s : Select} (his : (agreeing d).items s.projection) (hfs : (agreeing d).sources s.sources)
    (hw : (agreeing d).option s.selection) (hg : (agreeing d).exprs s.groupBy)
    (hh : (agreeing d).option s.having) (emitted : s.tokens d.rules = .ok ts) :
    Agrees [.select s] (Free d.rules ts) := by
  obtain ⟨p, f, w, g, h, items, sources, selection, groups, having, rfl⟩ := Select.tokens_ok.1 emitted
  refine agrees_of_parts (fun _ => ?_) id
  have projection : Agrees (Piece.ofExprs (s.projection.map (·.expr))) (∀ ts ∈ p, Free d.rules ts) := by
    rw [Piece.ofExprs, List.map_map, List.map_eq_flatMap]
    exact agrees_list his items
  have whole := (((projection.append (agrees_list hfs sources)).append
    (agrees_led hw selection (by simp))).append (agrees_exprs hg groups)).append (agrees_led hh having (by simp))
  refine whole.congr ?_
  have fresh : Fresh d.rules w ∧ Fresh d.rules h := ⟨fresh_led selection (by simp), fresh_led having (by simp)⟩
  rw [selectTokens, free_append fresh.2, free_append fresh_listClause, free_append fresh.1,
    free_append fresh_listClause, free_listClause, free_listClause]
  cases s.distinct <;> cases p <;> simp

theorem agrees_query {q : Query} (hks : (agreeing d).ctes q.ctes)
    (hb : ∀ ts, q.body.tokens d.rules = .ok ts → Agrees [.body q.body] (Free d.rules ts))
    (hos : (agreeing d).orders q.orderBy) (hl : (agreeing d).option q.limit) (hf : (agreeing d).option q.offset)
    (emitted : q.tokens d.rules = .ok ts) : Agrees [.query q] (Free d.rules ts) := by
  obtain ⟨c, b, o, l, f, ctes, body, orders, limit, offset, rfl⟩ := Query.tokens_ok.1 emitted
  refine agrees_of_parts (fun _ => ?_) id
  have tables : Agrees (q.ctes.map fun k => .query k.query) (∀ ts ∈ c, Free d.rules ts) := by
    rw [List.map_eq_flatMap]
    exact agrees_list hks ctes
  have order : Agrees (Piece.ofExprs (q.orderBy.map (·.expr))) (∀ ts ∈ o, Free d.rules ts) := by
    rw [Piece.ofExprs, List.map_map, List.map_eq_flatMap]
    exact agrees_list hos orders
  have fresh : Fresh d.rules l ∧ Fresh d.rules f := ⟨fresh_led limit (by simp), fresh_led offset (by simp)⟩
  have whole := (((tables.append (hb b body)).append order).append (agrees_led hl limit (by simp))).append
    (agrees_led hf offset (by simp))
  refine whole.congr ?_
  rw [free_append fresh.2, free_append fresh.1, free_append fresh_listClause, free_withTokens, free_listClause]

theorem agrees_operand {b : Body} (h : ∀ ts, b.tokens d.rules = .ok ts → Agrees [.body b] (Free d.rules ts))
    (plain : ∀ q, b ≠ .query q) (ts : List Token) (emitted : b.operandTokens d.rules = .ok ts) :
    Agrees [.body b] (Free d.rules ts) := by
  cases parens : d.rules.operandParens with
  | true =>
    obtain ⟨t, inner, rfl⟩ := (Body.operandTokens_parens_ok parens).1 emitted
    exact (h t inner).congr (by simp)
  | false => exact h ts ((Body.operandTokens_bare_ok parens plain).1 emitted)

theorem agrees_wrapped {q : Query}
    (h : ∀ ts, (Body.query q).tokens d.rules = .ok ts → Agrees [.body (.query q)] (Free d.rules ts))
    (hb : ∀ ts, q.body.operandTokens d.rules = .ok ts → Agrees [.body q.body] (Free d.rules ts))
    (ts : List Token) (emitted : (Body.query q).operandTokens d.rules = .ok ts) :
    Agrees [.body (.query q)] (Free d.rules ts) := by
  cases parens : d.rules.operandParens with
  | true =>
    obtain ⟨t, inner, rfl⟩ := (Body.operandTokens_parens_ok parens).1 emitted
    exact (h t inner).congr (by simp)
  | false =>
    obtain ⟨free, inner⟩ := (Body.operandTokens_bare_query_ok parens).1 emitted
    have below := hb ts inner
    simpa [Agrees, Piece.Tamed, Piece.Calm, Piece.everywhere_wrapper free, Piece.verbatim,
      Piece.DoublesDash] using below

theorem agreeing_ascends : (agreeing d).Ascends where
  leaf e leaf ts emitted := agrees_leaf leaf emitted
  binary op l r hl hr ts emitted := by
    obtain ⟨a, b, left, right, rfl⟩ := Expr.tokens_binary_ok.1 emitted
    exact agrees_of_parts (fun _ => ((hl a left).append (hr b right)).congr (by simp)) id
  not e he ts emitted := by
    obtain ⟨t, operand, rfl⟩ := Expr.tokens_not_ok.1 emitted
    exact agrees_of_parts (fun _ => (he t operand).congr (by simp)) id
  neg e he ts emitted := agrees_neg he emitted
  call f es distinct hes ts emitted := agrees_call hes emitted
  case o bs t ho hbs ht ts emitted := by
    obtain ⟨o, tss, e, operand, branches, otherwise, rfl⟩ := Expr.tokens_case_ok.1 emitted
    have whole := ((agrees_led ho operand (by simp)).append (agrees_branches hbs branches)).append
      (agrees_led ht otherwise (by simp))
    have fresh : Fresh d.rules e := fresh_led otherwise (by simp)
    exact agrees_of_parts (fun _ => whole.congr (by simp [fresh, -List.append_assoc])) id
  subquery q hq ts emitted := by
    obtain ⟨t, query, rfl⟩ := Expr.tokens_subquery_ok.1 emitted
    exact agrees_of_parts (fun _ => (hq.1 t query).congr (by simp)) id
  existential q negated hq ts emitted := by
    obtain ⟨t, query, rfl⟩ := Expr.tokens_exists_ok.1 emitted
    exact agrees_of_parts (fun _ => (hq.1 t query).congr (by cases negated <;> simp)) id
  inList e es negated he hes ts emitted := agrees_inList he hes emitted
  inQuery e q negated he hq ts emitted := by
    obtain ⟨a, b, operand, query, rfl⟩ := Expr.tokens_inQuery_ok.1 emitted
    exact agrees_of_parts (fun _ => ((he a operand).append (hq.1 b query)).congr (by simp)) id
  between e l u negated he hl hu ts emitted := by
    obtain ⟨a, b, c, operand, low, high, rfl⟩ := Expr.tokens_between_ok.1 emitted
    have whole := ((he a operand).append (hl b low)).append (hu c high)
    exact agrees_of_parts (fun _ => whole.congr (by simp [-List.append_assoc])) id
  isNull e negated he ts emitted := by
    obtain ⟨t, operand, rfl⟩ := Expr.tokens_isNull_ok.1 emitted
    exact agrees_of_parts (fun _ => (he t operand).congr (by simp)) id
  like e pattern negated he hp ts emitted := by
    obtain ⟨a, b, operand, pattern, rfl⟩ := Expr.tokens_like_ok.1 emitted
    exact agrees_of_parts (fun _ => ((he a operand).append (hp b pattern)).congr (by simp)) id
  cast e type he ts emitted := by
    obtain ⟨name, t, named, operand, rfl⟩ := Expr.tokens_cast_ok.1 emitted
    refine agrees_of_parts (fun tame => (he t operand).congr ?_) id
    have free : Free d.rules [.typeName name] := free_of_tame rfl (tame_typeName named tame)
    simp [free]
  index a i ha hi ts emitted := agrees_index ha hi emitted
  array es hes ts emitted := agrees_array hes emitted
  paren e he ts emitted := by
    obtain ⟨t, inner, rfl⟩ := Expr.tokens_paren_ok.1 emitted
    exact agrees_of_parts (fun _ => (he t inner).congr (by simp)) id
  exprsNil := nofun
  exprsCons e es he hes := List.forall_mem_cons.2 ⟨he, hes⟩
  optionNone := nofun
  optionSome e he := fun _ same => Option.some.inj same ▸ he
  branchesNil := nofun
  branchesCons k t bs hk ht hbs := List.forall_mem_cons.2 ⟨⟨hk, ht⟩, hbs⟩
  item e label he ts emitted := by
    obtain ⟨t, expr, rfl⟩ := SelectItem.tokens_ok.1 emitted
    exact (he t expr).congr (by simp)
  itemsNil := nofun
  itemsCons i is hi his := List.forall_mem_cons.2 ⟨hi, his⟩
  table path label ts emitted := by
    obtain rfl := Relation.tokens_table_ok.1 emitted
    exact agrees_of_parts (fun _ => agrees_nil (by simp)) id
  derived q label hq ts emitted := by
    obtain ⟨t, query, rfl⟩ := Relation.tokens_derived_ok.1 emitted
    exact agrees_of_parts (fun _ => (hq.1 t query).congr (by simp)) id
  unnest es label hes ts emitted := by
    obtain ⟨-, tss, exprs, rfl⟩ := Relation.tokens_unnest_ok.1 emitted
    exact agrees_of_parts (fun _ => (agrees_exprs hes exprs).congr (by simp)) id
  on e he ts emitted := by
    obtain ⟨t, condition, rfl⟩ := JoinConstraint.tokens_on_ok.1 emitted
    exact ⟨(he t condition).congr (by simp), by simp⟩
  usingColumns columns ts emitted := by
    obtain rfl := JoinConstraint.tokens_using_ok.1 emitted
    exact ⟨agrees_nil (by simp), by simp⟩
  unconstrained ts emitted := by
    obtain rfl := JoinConstraint.tokens_none_ok.1 emitted
    exact ⟨agrees_nil (by simp), by simp⟩
  join type x k hx hk ts emitted := by
    obtain ⟨-, a, b, relation, constraint, rfl⟩ := Join.tokens_ok.1 emitted
    obtain ⟨agrees, fresh⟩ := hk b constraint
    exact agrees_of_parts (fun _ => ((hx a relation).append agrees).congr (by simp [fresh])) id
  joinsNil := nofun
  joinsCons j js hj hjs := List.forall_mem_cons.2 ⟨hj, hjs⟩
  source x js hx hjs ts emitted := by
    obtain ⟨t, tss, relation, joins, rfl⟩ := FromItem.tokens_ok.1 emitted
    have below : Agrees (js.map .join) (∀ ts ∈ tss, Free d.rules ts) := by
      rw [List.map_eq_flatMap]
      exact agrees_list hjs joins
    exact ((hx t relation).append below).congr (by simp)
  sourcesNil := nofun
  sourcesCons f fs hf hfs := List.forall_mem_cons.2 ⟨hf, hfs⟩
  select distinct is fs w g k his hfs hw hg hk ts emitted := agrees_select his hfs hw hg hk emitted
  bodySelect s hs := by
    have same : ∀ ts, (Body.select s).tokens d.rules = .ok ts → Agrees [.body (.select s)] (Free d.rules ts) :=
      fun ts emitted => agrees_of_parts (fun _ => hs ts (Body.tokens_select_ok.1 emitted)) id
    exact ⟨same, agrees_operand same nofun⟩
  setOp op all l r hl hr := by
    have same : ∀ ts, (Body.setOp op all l r).tokens d.rules = .ok ts →
        Agrees [.body (.setOp op all l r)] (Free d.rules ts) := by
      intro ts emitted
      obtain ⟨a, b, left, right, rfl⟩ := Body.tokens_setOp_ok.1 emitted
      exact agrees_of_parts (fun _ => ((hl.2 a left).append (hr.2 b right)).congr (by simp)) id
    exact ⟨same, agrees_operand same nofun⟩
  bodyQuery q hq := by
    have same : ∀ ts, (Body.query q).tokens d.rules = .ok ts → Agrees [.body (.query q)] (Free d.rules ts) :=
      fun ts emitted => agrees_of_parts (fun _ => hq.1 ts (Body.tokens_query_ok.1 emitted)) id
    exact ⟨same, agrees_wrapped same hq.2⟩
  order e dir nulls he ts emitted := by
    obtain ⟨t, expr, rfl⟩ := OrderItem.tokens_ok.1 emitted
    exact (he t expr).congr (by simp)
  ordersNil := nofun
  ordersCons o os ho hos := List.forall_mem_cons.2 ⟨ho, hos⟩
  cte name columns q hq ts emitted := by
    obtain ⟨t, query, rfl⟩ := Cte.tokens_ok.1 emitted
    exact (hq.1 t query).congr (by simp [free_cteHead])
  ctesNil := nofun
  ctesCons k ks hk hks := List.forall_mem_cons.2 ⟨hk, hks⟩
  query ks recursive b os l f hks hb hos hl hf :=
    ⟨fun _ emitted => agrees_query hks hb.1 hos hl hf emitted, hb.2⟩

/-- With tame texts a comment opens in the text of a query exactly if a minus sign stands in front of a dash. -/
theorem comment_opens_iff {q : Query} (emitted : q.tokens d.rules = .ok ts)
    (tame : ∀ x, (Piece.query q).Emits x → ∀ s ∈ x.verbatim, Tame s.toList) :
    q.sql d = .ok (String.ofList ((spelled d.rules ts).map (·.1))) ∧
      (HasOpener (spelled d.rules ts) ↔
        ∃ e, (Piece.query q).Emits (.expr (.neg e)) ∧ e.startsWithDash) := by
  have doubled : (∃ x, (Piece.query q).Emits x ∧ x.DoublesDash) ↔
      ∃ e, (Piece.query q).Emits (.expr (.neg e)) ∧ e.startsWithDash := by
    constructor
    · rintro ⟨x, at_, dash⟩
      unfold Piece.DoublesDash at dash
      split at dash
      · exact ⟨_, at_, dash⟩
      · exact dash.elim
    · rintro ⟨e, at_, dash⟩
      exact ⟨_, at_, dash⟩
  have agrees := (agreeing_ascends.query_holds q).1 ts emitted (List.forall_mem_singleton.2 tame)
  rw [List.forall_mem_singleton] at agrees
  refine ⟨by simp [Query.sql, emitted, Except.map, spelled_text], ?_⟩
  rw [hasOpener_iff, ← doubled, ← Piece.not_everywhere_not]
  exact not_congr agrees

/-- `SELECT - -a.x FROM a`. -/
def doubledMinus : Query :=
  ⟨[], false, .select ⟨false, [⟨.neg (.neg (.column ["a"] "x")), none⟩], [⟨.table ["a"] none, []⟩], none, [],
    none⟩, [], none, none⟩

def doubledMinusTokens : List Token :=
  [.keyword .select, space, .symbol .minus, .symbol .minus, .ident "a", .symbol .dot, .ident "x", space,
    .keyword .from_, space, .ident "a"]

theorem doubledMinus_tokens : doubledMinus.tokens Dialect.postgres.rules = .ok doubledMinusTokens := by
  rfl

theorem doubledMinus_tame : (Piece.query doubledMinus).Tamed := by
  simp [doubledMinus, Piece.Tamed, Piece.everywhere_iff (x := .query _), Piece.everywhere_iff (x := .body _),
    Piece.everywhere_iff (x := .select _), Piece.everywhere_iff (x := .expr _),
    Piece.everywhere_iff (x := .relation _), Piece.parts, Piece.ofExpr, Piece.ofExprs, Piece.ofSources,
    Piece.ofOption, Piece.verbatim]

theorem doubledMinus_iff : (doubledMinus.tokens Dialect.postgres.rules = .ok doubledMinusTokens ∧
    (Piece.query doubledMinus).Tamed) ∧
      (HasOpener (spelled Dialect.postgres.rules doubledMinusTokens) ↔
        ∃ e, (Piece.query doubledMinus).Emits (.expr (.neg e)) ∧ e.startsWithDash) :=
  ⟨⟨doubledMinus_tokens, doubledMinus_tame⟩, (comment_opens_iff doubledMinus_tokens doubledMinus_tame).2⟩

/-- The text of a query without verbatim texts opens a comment. -/
theorem doubledMinus_opens : doubledMinus.sql .postgres = .ok "SELECT --\"a\".\"x\" FROM \"a\"" ∧
    (Piece.query doubledMinus).Tamed ∧ HasOpener (spelled Dialect.postgres.rules doubledMinusTokens) := by
  refine ⟨?_, doubledMinus_tame, ?_⟩
  · rw [Query.sql, doubledMinus_tokens]
    decide +kernel
  · decide +kernel

end Emission

end QueryBridge
