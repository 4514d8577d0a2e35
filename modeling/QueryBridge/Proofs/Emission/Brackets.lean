import Mathlib.Data.List.Count
import QueryBridge.Proofs.Emission.QueryWords

set_option autoImplicit false

namespace QueryBridge.Emission

open Token (space parens parensIf brackets commaList clause path)

inductive Enclosure where
  | parenthesis
  | bracket
  deriving DecidableEq

def Enclosure.opening : Enclosure → Token
  | parenthesis => .symbol .leftParen
  | bracket => .symbol .leftBracket

def Enclosure.closing : Enclosure → Token
  | parenthesis => .symbol .rightParen
  | bracket => .symbol .rightBracket

def isBracket : Token → Bool
  | .symbol .leftParen | .symbol .rightParen | .symbol .leftBracket | .symbol .rightBracket => true
  | _ => false

/-- Streams made of other tokens by concatenation and enclosing. -/
inductive Bracketed : List Token → Prop
  | nil : Bracketed []
  | token {t : Token} (plain : isBracket t = false) : Bracketed [t]
  | append {xs ys : List Token} (hx : Bracketed xs) (hy : Bracketed ys) : Bracketed (xs ++ ys)
  | enclosed {xs : List Token} (k : Enclosure) (hx : Bracketed xs) : Bracketed (k.opening :: xs ++ [k.closing])

/-- One token more, given the brackets that are open, the innermost first. -/
def enclose (opened : List Enclosure) : Token → Option (List Enclosure)
  | .symbol .leftParen => some (.parenthesis :: opened)
  | .symbol .leftBracket => some (.bracket :: opened)
  | .symbol .rightParen => if opened.head? = some .parenthesis then some opened.tail else none
  | .symbol .rightBracket => if opened.head? = some .bracket then some opened.tail else none
  | _ => some opened

/-- Every bracket is closed by one of its kind, no prefix closes more than it has opened, and none stays
open. -/
structure Balanced (ts : List Token) : Prop where
  nested : ts.foldlM enclose [] = some []
  prefixes : ∀ (k : Enclosure) (p : List Token), p <+: ts → p.count k.closing ≤ p.count k.opening
  totals : ∀ k : Enclosure, ts.count k.closing = ts.count k.opening

theorem enclose_plain {t : Token} (plain : isBracket t = false) (opened : List Enclosure) :
    enclose opened t = some opened := by
  unfold enclose
  split <;> first | rfl | cases plain

theorem enclose_opening (k : Enclosure) (opened : List Enclosure) :
    enclose opened k.opening = some (k :: opened) := by
  cases k <;> rfl

theorem enclose_closing (k : Enclosure) (opened : List Enclosure) :
    enclose (k :: opened) k.closing = some opened := by
  cases k <;> rfl

theorem Bracketed.run {ts : List Token} (h : Bracketed ts) (opened : List Enclosure) :
    ts.foldlM enclose opened = some opened := by
  induction h generalizing opened with
  | nil => rfl
  | token plain =>
    rw [List.foldlM_cons, enclose_plain plain]
    rfl
  | append _ _ ihx ihy =>
    rw [List.foldlM_append, ihx]
    exact ihy opened
  | enclosed k _ ih =>
    rw [List.cons_append, List.foldlM_cons, enclose_opening, Option.bind_eq_bind, Option.bind_some,
      List.foldlM_append, ih, Option.bind_eq_bind, Option.bind_some, List.foldlM_cons, enclose_closing]
    rfl

theorem enclose_count {t : Token} {opened now : List Enclosure} (h : enclose opened t = some now)
    (k : Enclosure) : opened.count k + [t].count k.opening = now.count k + [t].count k.closing := by
  unfold enclose at h
  split at h
  · cases h; cases k <;> simp [Enclosure.opening, Enclosure.closing]
  · cases h; cases k <;> simp [Enclosure.opening, Enclosure.closing]
  · split at h
    · rename_i first
      obtain ⟨rest, rfl⟩ := List.head?_eq_some_iff.1 first
      cases h; cases k <;> simp [Enclosure.opening, Enclosure.closing]
    · cases h
  · split at h
    · rename_i first
      obtain ⟨rest, rfl⟩ := List.head?_eq_some_iff.1 first
      cases h; cases k <;> simp [Enclosure.opening, Enclosure.closing]
    · cases h
  · rename_i other₁ other₂ other₃ other₄
    cases h
    have neither : t ≠ k.opening ∧ t ≠ k.closing := by
      cases k
      · exact ⟨other₁, other₃⟩
      · exact ⟨other₂, other₄⟩
    rw [List.count_singleton, List.count_singleton, if_neg (by simpa using neither.1),
      if_neg (by simpa using neither.2)]

theorem run_count {ts : List Token} {opened now : List Enclosure} (h : ts.foldlM enclose opened = some now)
    (k : Enclosure) : opened.count k + ts.count k.opening = now.count k + ts.count k.closing := by
  induction ts generalizing opened with
  | nil =>
    cases h
    rfl
  | cons t ts ih =>
    rw [List.foldlM_cons, Option.bind_eq_bind, Option.bind_eq_some_iff] at h
    obtain ⟨between, first, rest⟩ := h
    have one := enclose_count first k
    have others := ih rest
    rw [← List.singleton_append, List.count_append, List.count_append]
    omega

theorem Bracketed.balanced {ts : List Token} (h : Bracketed ts) : Balanced ts where
  nested := h.run []
  prefixes := by
    rintro k p ⟨rest, rfl⟩
    have run := h.run []
    rw [List.foldlM_append, Option.bind_eq_bind, Option.bind_eq_some_iff] at run
    obtain ⟨opened, first, -⟩ := run
    have counted := run_count first k
    rw [List.count_nil] at counted
    omega
  totals k := by
    have counted := run_count (h.run []) k
    rw [List.count_nil] at counted
    omega

section

variable {r : Rules} {xs ys : List Token} {xss : List (List Token)} {k : Keyword}

theorem Bracketed.cons {t : Token} (h : Bracketed xs) (plain : isBracket t = false) : Bracketed (t :: xs) :=
  (Bracketed.token plain).append h

theorem Bracketed.cons_space (h : Bracketed xs) : Bracketed (space :: xs) := h.cons rfl

theorem Bracketed.parens (h : Bracketed xs) : Bracketed (parens xs) := h.enclosed .parenthesis

theorem Bracketed.brackets (h : Bracketed xs) : Bracketed (brackets xs) := h.enclosed .bracket

theorem Bracketed.parensIf {b : Bool} (h : Bracketed xs) : Bracketed (parensIf b xs) := by
  cases b with
  | false => exact h
  | true => exact h.parens

theorem bracketed_words (h : ∀ t ∈ xs, isBracket t = false) : Bracketed xs := by
  induction xs with
  | nil => exact .nil
  | cons t xs ih =>
    obtain ⟨first, rest⟩ := List.forall_mem_cons.1 h
    exact (ih rest).cons first

theorem bracketed_flatMap {α : Type} {f : α → List Token} {as : List α} (h : ∀ a ∈ as, Bracketed (f a)) :
    Bracketed (as.flatMap f) := by
  induction as with
  | nil => exact .nil
  | cons a as ih =>
    obtain ⟨first, rest⟩ := List.forall_mem_cons.1 h
    exact first.append (ih rest)

theorem bracketed_intercalate {between : List Token} (hb : Bracketed between) (h : ∀ xs ∈ xss, Bracketed xs) :
    Bracketed (List.intercalate between xss) := by
  induction xss with
  | nil => exact .nil
  | cons xs xss ih =>
    obtain ⟨first, rest⟩ := List.forall_mem_cons.1 h
    cases xss with
    | nil => simpa using first
    | cons ys yss =>
      rw [List.intercalate_cons_cons]
      exact (first.append hb).append (ih rest)

theorem bracketed_commaList (h : ∀ xs ∈ xss, Bracketed xs) : Bracketed (commaList xss) :=
  bracketed_intercalate (bracketed_words (by decide)) h

theorem Bracketed.clause (h : Bracketed xs) : Bracketed (clause k xs) := ((h.cons_space).cons rfl).cons_space

theorem bracketed_listClause (h : ∀ xs ∈ xss, Bracketed xs) : Bracketed (listClause k xss) := by
  unfold listClause
  split
  · exact .nil
  · exact (bracketed_commaList h).clause

theorem bracketed_qualifierTokens {qualifier : List String} : Bracketed (qualifierTokens qualifier) :=
  bracketed_flatMap fun _ _ => (Bracketed.token (t := .symbol .dot) rfl).cons rfl

theorem bracketed_path {parts : List String} : Bracketed (path parts) :=
  bracketed_intercalate (.token rfl) (List.forall_mem_map.2 fun _ _ => .token rfl)

theorem bracketed_identList {names : List String} : Bracketed (identList names) :=
  bracketed_commaList (List.forall_mem_map.2 fun _ _ => .token rfl)

theorem bracketed_columns {names : List String} {xs : List Token} (h : Bracketed xs) :
    Bracketed (if names.isEmpty then [] else xs) := by
  split
  · exact .nil
  · exact h

theorem bracketed_aliasTokens {label : Option TableAlias} : Bracketed (aliasTokens label) := by
  cases label with
  | none => exact .nil
  | some a =>
    have name : Bracketed [space, .keyword .as_, space, .ident a.name] :=
      (((Bracketed.token (t := .ident a.name) rfl).cons_space).cons rfl).cons_space
    exact name.append (bracketed_columns bracketed_identList.parens)

theorem bracketed_columnAliasTokens {label : Option String} : Bracketed (columnAliasTokens label) := by
  cases label with
  | none => exact .nil
  | some name => exact (((Bracketed.token (t := .ident name) rfl).cons_space).cons rfl).cons_space

theorem bracketed_cteHead {name : String} {columns : List String} : Bracketed (cteHead name columns) :=
  (bracketed_columns bracketed_identList.parens.cons_space).cons rfl

theorem bracketed_tested {b negated : Bool} (h : Bracketed xs) :
    Bracketed (parensIf b xs ++ Expr.tokens.negation negated) := by
  have negation : Bracketed (Expr.tokens.negation negated) := by
    cases negated <;> exact bracketed_words (by decide)
  exact h.parensIf.append negation

theorem bracketed_offsetPrelude {hasLimit : Bool} : Bracketed (offsetPrelude r hasLimit) := by
  unfold offsetPrelude
  split
  · exact bracketed_words (by decide)
  · exact .nil

theorem bracketed_setOpTokens {op : SetOp} {all : Bool} (hx : Bracketed xs) (hy : Bracketed ys) :
    Bracketed (setOpTokens r op all xs ys) := by
  have operator : Bracketed [space, .keyword op.keyword] := (Bracketed.token rfl).cons_space
  have quantifier : Bracketed (if all then [space, .keyword .all]
      else if r.explicitDistinct then [space, .keyword .distinct] else []) := by
    split
    · exact bracketed_words (by decide)
    split
    · exact bracketed_words (by decide)
    · exact .nil
  exact ((hx.append operator).append quantifier).append hy.cons_space

theorem bracketed_singleValueTokens (h : Bracketed xs) : Bracketed (singleValueTokens r xs) := by
  have front : Bracketed ([.keyword .case_, space, .function "COUNT"] ++ parens [.symbol .star]) :=
    (bracketed_words (by decide)).append (Bracketed.token (t := .symbol .star) rfl).parens
  have whens : Bracketed [space, .keyword .when_, space, .int 0, space, .keyword .then_, space,
      .keyword .null] := bracketed_words (by decide)
  have thens : Bracketed [space, .keyword .when_, space, .int 1, space, .keyword .then_, space] :=
    bracketed_words (by decide)
  have value : Bracketed (.function r.singleValue :: parens xs) := h.parens.cons rfl
  have otherwise : Bracketed [space, .keyword .else_, space, .keyword .null, space, .keyword .end_] :=
    bracketed_words (by decide)
  have whole := (((front.append whens).append thens).append value).append otherwise
  simpa [singleValueTokens] using whole

theorem bracketed_led {o : Option Expr} {lead : List Token} {p : Expr → List Token → Prop}
    (emitted : Led lead p o xs) (h : ∀ e ∈ o, ∀ ts, p e ts → Bracketed ts) (front : Bracketed lead) :
    Bracketed xs := by
  cases emitted with
  | none => exact .nil
  | some emitted => exact front.append (h _ rfl _ emitted)

theorem bracketed_parts {α : Type} {p : α → List Token → Prop} {as : List α}
    (h : ∀ a ∈ as, ∀ ts, p a ts → Bracketed ts) (emitted : List.Forall₂ p as xss) : ∀ xs ∈ xss, Bracketed xs := by
  induction emitted with
  | nil => exact nofun
  | cons first _ ih =>
    obtain ⟨head, tail⟩ := List.forall_mem_cons.1 h
    exact List.forall_mem_cons.2 ⟨head _ first, ih tail⟩

def bracketing (r : Rules) : PieceProperty where
  expr e := ∀ ts, e.tokens r = .ok ts → Bracketed ts
  exprs es := ∀ e ∈ es, ∀ ts, e.tokens r = .ok ts → Bracketed ts
  option o := ∀ e ∈ o, ∀ ts, e.tokens r = .ok ts → Bracketed ts
  branches bs := ∀ b ∈ bs, (∀ ts, b.1.tokens r = .ok ts → Bracketed ts) ∧
    ∀ ts, b.2.tokens r = .ok ts → Bracketed ts
  item i := ∀ ts, i.tokens r = .ok ts → Bracketed ts
  items is := ∀ i ∈ is, ∀ ts, i.tokens r = .ok ts → Bracketed ts
  relation x := ∀ ts, x.tokens r = .ok ts → Bracketed ts
  constraint k := ∀ ts, k.tokens r = .ok ts → Bracketed ts
  join j := ∀ ts, j.tokens r = .ok ts → Bracketed ts
  joins js := ∀ j ∈ js, ∀ ts, j.tokens r = .ok ts → Bracketed ts
  source f := ∀ ts, f.tokens r = .ok ts → Bracketed ts
  sources fs := ∀ f ∈ fs, ∀ ts, f.tokens r = .ok ts → Bracketed ts
  select s := ∀ ts, s.tokens r = .ok ts → Bracketed ts
  body b := (∀ ts, b.tokens r = .ok ts → Bracketed ts) ∧ ∀ ts, b.operandTokens r = .ok ts → Bracketed ts
  order o := ∀ ts, o.tokens r = .ok ts → Bracketed ts
  orders os := ∀ o ∈ os, ∀ ts, o.tokens r = .ok ts → Bracketed ts
  cte k := ∀ ts, k.tokens r = .ok ts → Bracketed ts
  ctes ks := ∀ k ∈ ks, ∀ ts, k.tokens r = .ok ts → Bracketed ts
  query q := (∀ ts, q.tokens r = .ok ts → Bracketed ts) ∧
    ∀ ts, q.body.operandTokens r = .ok ts → Bracketed ts

theorem bracketed_leaf {e : Expr} (leaf : e.isLeaf) (emitted : e.tokens r = .ok xs) : Bracketed xs := by
  cases e with
  | column qualifier name =>
    obtain rfl := Expr.tokens_column_ok.1 emitted
    exact bracketed_qualifierTokens.append (.token rfl)
  | literal value =>
    obtain ⟨t, token, rfl⟩ := Expr.tokens_literal_ok.1 emitted
    have plain : isBracket t = false := by
      unfold Literal.token at token
      split at token
      all_goals try split at token
      all_goals cases token
      all_goals rfl
    exact .token plain
  | keyword word =>
    obtain ⟨-, rfl⟩ := Expr.tokens_keyword_ok.1 emitted
    exact .token rfl
  | star qualifier =>
    obtain rfl := Expr.tokens_star_ok.1 emitted
    exact bracketed_qualifierTokens.append (.token rfl)
  | unsupported detail => exact (Expr.tokens_unsupported_ok.1 emitted).elim
  | _ => cases leaf

theorem bracketed_call {f : String} {es : List Expr} {distinct : Bool} (hes : (bracketing r).exprs es)
    (emitted : (Expr.call f es distinct).tokens r = .ok xs) : Bracketed xs := by
  cases Expr.tokens_call_ok.1 emitted with
  | plain form parts =>
    have args := bracketed_commaList (bracketed_parts hes parts)
    have front : Bracketed (if distinct then [.keyword .distinct, space] else []) := by
      cases distinct <;> exact bracketed_words (by decide)
    exact (front.append args).parens.cons rfl
  | singleValue form single all part =>
    subst single
    exact bracketed_singleValueTokens (hes _ List.mem_cons_self _ part)
  | truncUnitLast form two date part =>
    subst two
    have operand := hes _ (.tail _ (.head _)) _ part
    exact (operand.append (((Bracketed.token rfl).cons_space).cons rfl)).parens.cons rfl

theorem bracketed_case {o t : Option Expr} {bs : List (Expr × Expr)} (ho : (bracketing r).option o)
    (hbs : (bracketing r).branches bs) (ht : (bracketing r).option t)
    (emitted : (Expr.case o bs t).tokens r = .ok xs) : Bracketed xs := by
  obtain ⟨a, tss, b, operand, branches, otherwise, rfl⟩ := Expr.tokens_case_ok.1 emitted
  have first : Bracketed a := bracketed_led operand ho (.token rfl)
  have last : Bracketed b := bracketed_led otherwise ht (bracketed_words (by decide))
  have middle : Bracketed (branchTokens tss) := by
    clear emitted
    induction branches with
    | nil => exact .nil
    | cons here _ ih =>
      obtain ⟨head, tail⟩ := List.forall_mem_cons.1 hbs
      exact ((head.1 _ here.1).clause.append (head.2 _ here.2).clause).append (ih tail)
  exact ((first.cons (t := .keyword .case_) rfl).append middle).append last |>.append
    (bracketed_words (by decide))

theorem bracketed_index {a i : Expr} (ha : (bracketing r).expr a) (hi : (bracketing r).expr i)
    (emitted : (Expr.index a i).tokens r = .ok xs) : Bracketed xs := by
  obtain ⟨t, u, array, index, rfl⟩ := Expr.tokens_index_ok.1 emitted
  have inside : Bracketed u := by
    cases index with
    | oneBased style part => exact hi _ part
    | ordinal style part => exact (hi _ part).parens.cons rfl
    | shifted style literal => exact .token rfl
    | difference style other part => exact (hi _ part).parens.append (bracketed_words (by decide))
  exact (ha t array).parensIf.append inside.brackets

theorem bracketed_array {es : List Expr} (hes : (bracketing r).exprs es)
    (emitted : (Expr.array es).tokens r = .ok xs) : Bracketed xs := by
  cases Expr.tokens_array_ok.1 emitted with
  | bracket style parts => exact (bracketed_commaList (bracketed_parts hes parts)).brackets
  | keyword style parts => exact (bracketed_commaList (bracketed_parts hes parts)).brackets.cons rfl
  | call style parts => exact (bracketed_commaList (bracketed_parts hes parts)).parens.cons rfl

theorem bracketed_select {s : Select} (his : (bracketing r).items s.projection)
    (hfs : (bracketing r).sources s.sources) (hw : (bracketing r).option s.selection)
    (hg : (bracketing r).exprs s.groupBy) (hh : (bracketing r).option s.having)
    (emitted : s.tokens r = .ok xs) : Bracketed xs := by
  obtain ⟨p, f, w, g, h, items, sources, selection, groups, having, rfl⟩ := Select.tokens_ok.1 emitted
  have distinct : Bracketed (.keyword .select :: if s.distinct then [space, .keyword .distinct] else []) := by
    cases s.distinct <;> exact bracketed_words (by decide)
  have projection : Bracketed (if p.isEmpty then [] else space :: commaList p) := by
    split
    · exact .nil
    · exact (bracketed_commaList (bracketed_parts his items)).cons_space
  have from_ : Bracketed (listClause .from_ f) := bracketed_listClause (bracketed_parts hfs sources)
  have where_ : Bracketed w := bracketed_led selection hw (bracketed_words (by decide))
  have groupBy : Bracketed (listClause .groupBy g) := bracketed_listClause (bracketed_parts hg groups)
  have having_ : Bracketed h := bracketed_led having hh (bracketed_words (by decide))
  exact ((((distinct.append projection).append from_).append where_).append groupBy).append having_

theorem bracketed_operand {b : Body} (h : ∀ ts, b.tokens r = .ok ts → Bracketed ts)
    (plain : ∀ q, b ≠ .query q) (ts : List Token) (emitted : b.operandTokens r = .ok ts) : Bracketed ts := by
  cases parens : r.operandParens with
  | true =>
    obtain ⟨t, inner, rfl⟩ := (Body.operandTokens_parens_ok parens).1 emitted
    exact (h t inner).parens
  | false => exact h ts ((Body.operandTokens_bare_ok parens plain).1 emitted)

theorem bracketed_wrapped {q : Query} (h : ∀ ts, (Body.query q).tokens r = .ok ts → Bracketed ts)
    (hb : ∀ ts, q.body.operandTokens r = .ok ts → Bracketed ts) (ts : List Token)
    (emitted : (Body.query q).operandTokens r = .ok ts) : Bracketed ts := by
  cases parens : r.operandParens with
  | true =>
    obtain ⟨t, inner, rfl⟩ := (Body.operandTokens_parens_ok parens).1 emitted
    exact (h t inner).parens
  | false =>
    obtain ⟨-, inner⟩ := (Body.operandTokens_bare_query_ok parens).1 emitted
    exact hb ts inner

theorem bracketed_query {q : Query} (hks : (bracketing r).ctes q.ctes)
    (hb : ∀ ts, q.body.tokens r = .ok ts → Bracketed ts) (hos : (bracketing r).orders q.orderBy)
    (hl : (bracketing r).option q.limit) (hf : (bracketing r).option q.offset)
    (emitted : q.tokens r = .ok xs) : Bracketed xs := by
  obtain ⟨c, b, o, l, f, ctes, body, orders, limit, offset, rfl⟩ := Query.tokens_ok.1 emitted
  have with_ : Bracketed (withTokens q.recursive c) := by
    have front : Bracketed (.keyword .with_ :: if q.recursive then [space, .keyword .recursive] else []) := by
      cases q.recursive <;> exact bracketed_words (by decide)
    unfold withTokens
    split
    · exact .nil
    · exact (front.append (bracketed_commaList (bracketed_parts hks ctes)).cons_space).append (.token rfl)
  have order : Bracketed (listClause .orderBy o) := bracketed_listClause (bracketed_parts hos orders)
  have limit_ : Bracketed l := bracketed_led limit hl (bracketed_words (by decide))
  have offset_ : Bracketed f :=
    bracketed_led offset hf (bracketed_offsetPrelude.append (bracketed_words (by decide)))
  exact (((with_.append (hb b body)).append order).append limit_).append offset_

theorem bracketing_ascends : (bracketing r).Ascends where
  leaf e leaf ts emitted := bracketed_leaf leaf emitted
  binary op a b ha hb ts emitted := by
    obtain ⟨x, y, left, right, rfl⟩ := Expr.tokens_binary_ok.1 emitted
    have operator : Bracketed [space, op.token, space] := by
      cases op <;> exact bracketed_words (by decide)
    exact ((ha x left).parensIf.append operator).append (hb y right).parensIf
  not e he ts emitted := by
    obtain ⟨t, operand, rfl⟩ := Expr.tokens_not_ok.1 emitted
    exact (he t operand).parensIf.cons_space.cons rfl
  neg e he ts emitted := by
    obtain ⟨t, operand, rfl⟩ := Expr.tokens_neg_ok.1 emitted
    exact (he t operand).parensIf.cons rfl
  call f es distinct hes ts emitted := bracketed_call hes emitted
  case o bs t ho hbs ht ts emitted := bracketed_case ho hbs ht emitted
  subquery q hq ts emitted := by
    obtain ⟨t, query, rfl⟩ := Expr.tokens_subquery_ok.1 emitted
    exact (hq.1 t query).parens
  existential q negated hq ts emitted := by
    obtain ⟨t, query, rfl⟩ := Expr.tokens_exists_ok.1 emitted
    have front : Bracketed ((if negated then [.keyword .not, space] else []) ++ [.keyword .exists_, space]) := by
      cases negated <;> exact bracketed_words (by decide)
    exact front.append (hq.1 t query).parens
  inList e es negated he hes ts emitted := by
    rcases Expr.tokens_inList_ok.1 emitted with ⟨-, rfl⟩ | ⟨-, t, tss, operand, values, rfl⟩
    · exact .token rfl
    · have list := (bracketed_commaList (bracketed_parts hes values)).parens
      exact ((bracketed_tested (he t operand)).append (bracketed_words (by decide))).append list
  inQuery e q negated he hq ts emitted := by
    obtain ⟨a, b, operand, query, rfl⟩ := Expr.tokens_inQuery_ok.1 emitted
    exact ((bracketed_tested (he a operand)).append (bracketed_words (by decide))).append (hq.1 b query).parens
  between e l u negated he hl hu ts emitted := by
    obtain ⟨a, b, c, operand, low, high, rfl⟩ := Expr.tokens_between_ok.1 emitted
    exact ((bracketed_tested (he a operand)).append (hl b low).parensIf.clause).append (hu c high).parensIf.clause
  isNull e negated he ts emitted := by
    obtain ⟨t, operand, rfl⟩ := Expr.tokens_isNull_ok.1 emitted
    exact (he t operand).parensIf.append (Bracketed.token rfl).cons_space
  like e p negated he hp ts emitted := by
    obtain ⟨a, b, operand, pattern, rfl⟩ := Expr.tokens_like_ok.1 emitted
    exact (bracketed_tested (he a operand)).append (hp b pattern).parensIf.clause
  cast e type he ts emitted := by
    obtain ⟨name, t, -, operand, rfl⟩ := Expr.tokens_cast_ok.1 emitted
    have as_ : Bracketed [space, .keyword .as_, space, .typeName name] :=
      (((Bracketed.token (t := .typeName name) rfl).cons_space).cons rfl).cons_space
    exact ((he t operand).append as_).parens.cons rfl
  index a i ha hi ts emitted := bracketed_index ha hi emitted
  array es hes ts emitted := bracketed_array hes emitted
  paren e he ts emitted := by
    obtain ⟨t, inner, rfl⟩ := Expr.tokens_paren_ok.1 emitted
    exact (he t inner).parens
  exprsNil := nofun
  exprsCons e es he hes := List.forall_mem_cons.2 ⟨he, hes⟩
  optionNone := nofun
  optionSome e he := fun _ same => Option.some.inj same ▸ he
  branchesNil := nofun
  branchesCons k t bs hk ht hbs := List.forall_mem_cons.2 ⟨⟨hk, ht⟩, hbs⟩
  item e label he ts emitted := by
    obtain ⟨t, expr, rfl⟩ := SelectItem.tokens_ok.1 emitted
    exact (he t expr).append bracketed_columnAliasTokens
  itemsNil := nofun
  itemsCons i is hi his := List.forall_mem_cons.2 ⟨hi, his⟩
  table path label ts emitted := by
    obtain rfl := Relation.tokens_table_ok.1 emitted
    exact bracketed_path.append bracketed_aliasTokens
  derived q label hq ts emitted := by
    obtain ⟨t, query, rfl⟩ := Relation.tokens_derived_ok.1 emitted
    exact (hq.1 t query).parens.append bracketed_aliasTokens
  unnest es label hes ts emitted := by
    obtain ⟨-, tss, exprs, rfl⟩ := Relation.tokens_unnest_ok.1 emitted
    have list := (bracketed_commaList (bracketed_parts hes exprs)).parens
    exact (list.cons rfl).append bracketed_aliasTokens
  on e he ts emitted := by
    obtain ⟨t, condition, rfl⟩ := JoinConstraint.tokens_on_ok.1 emitted
    exact (he t condition).clause
  usingColumns columns ts emitted := by
    obtain rfl := JoinConstraint.tokens_using_ok.1 emitted
    exact bracketed_identList.parens.clause
  unconstrained ts emitted := by
    obtain rfl := JoinConstraint.tokens_none_ok.1 emitted
    exact .nil
  join type x k hx hk ts emitted := by
    obtain ⟨-, a, b, relation, constraint, rfl⟩ := Join.tokens_ok.1 emitted
    have keywords : Bracketed type.keywords := by cases type <;> exact bracketed_words (by decide)
    exact (keywords.append (hx a relation).cons_space).append (hk b constraint)
  joinsNil := nofun
  joinsCons j js hj hjs := List.forall_mem_cons.2 ⟨hj, hjs⟩
  source x js hx hjs ts emitted := by
    obtain ⟨t, tss, relation, joins, rfl⟩ := FromItem.tokens_ok.1 emitted
    have joined := bracketed_flatMap fun ts hts => (bracketed_parts hjs joins ts hts).cons_space
    exact (hx t relation).append joined
  sourcesNil := nofun
  sourcesCons f fs hf hfs := List.forall_mem_cons.2 ⟨hf, hfs⟩
  select distinct is fs w g k his hfs hw hg hk ts emitted := bracketed_select his hfs hw hg hk emitted
  bodySelect s hs := by
    have same : ∀ ts, (Body.select s).tokens r = .ok ts → Bracketed ts :=
      fun ts emitted => hs ts (Body.tokens_select_ok.1 emitted)
    exact ⟨same, bracketed_operand same nofun⟩
  setOp op all a b ha hb := by
    have same : ∀ ts, (Body.setOp op all a b).tokens r = .ok ts → Bracketed ts := by
      intro ts emitted
      obtain ⟨x, y, left, right, rfl⟩ := Body.tokens_setOp_ok.1 emitted
      exact bracketed_setOpTokens (ha.2 x left) (hb.2 y right)
    exact ⟨same, bracketed_operand same nofun⟩
  bodyQuery q hq := by
    have same : ∀ ts, (Body.query q).tokens r = .ok ts → Bracketed ts :=
      fun ts emitted => hq.1 ts (Body.tokens_query_ok.1 emitted)
    exact ⟨same, bracketed_wrapped same hq.2⟩
  order e dir nulls he ts emitted := by
    obtain ⟨t, expr, rfl⟩ := OrderItem.tokens_ok.1 emitted
    have direction : Bracketed (SortDir.tokens dir) := by
      rcases dir with _ | _ | _ <;> exact bracketed_words (by decide)
    have place : Bracketed (NullsOrder.tokens nulls) := by
      rcases nulls with _ | _ | _ <;> exact bracketed_words (by decide)
    exact ((he t expr).append direction).append place
  ordersNil := nofun
  ordersCons o os ho hos := List.forall_mem_cons.2 ⟨ho, hos⟩
  cte name columns q hq ts emitted := by
    obtain ⟨t, query, rfl⟩ := Cte.tokens_ok.1 emitted
    exact bracketed_cteHead.append (hq.1 t query).parens.clause
  ctesNil := nofun
  ctesCons k ks hk hks := List.forall_mem_cons.2 ⟨hk, hks⟩
  query ks recursive b os l f hks hb hos hl hf :=
    ⟨fun _ emitted => bracketed_query hks hb.1 hos hl hf emitted, hb.2⟩

end

end QueryBridge.Emission
