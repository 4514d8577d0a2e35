import QueryBridge.Proofs.Emission.Outline
import QueryBridge.Proofs.Emission.Success
import QueryBridge.Proofs.Tree.Induction

set_option autoImplicit false

namespace QueryBridge

mutual

/-- The words of a body whose set operations have no parentheses around their operands. -/
def Body.bareWords : Body → List Keyword
  | .select _ => [.select]
  | .setOp op _ left right => left.bareWords ++ op.keyword :: right.bareWords
  | .query q => q.bareWords

def Query.bareWords : Query → List Keyword
  | ⟨_, _, body, _, _, _⟩ => body.bareWords

end

def Query.clauseWords (r : Rules) (q : Query) : List Keyword :=
  (if q.orderBy.isEmpty then [] else [.orderBy]) ++ (if q.limit.isSome then [.limit] else [])
    ++ (if q.offset.isSome then (if r.offsetNeedsLimit && !q.limit.isSome then [.limit] else []) ++ [.offset]
      else [])

def Query.withWords (q : Query) : List Keyword := if q.ctes.isEmpty then [] else [.with_]

def Body.operandWords (r : Rules) (b : Body) : List Keyword := if r.operandParens then [] else b.bareWords

mutual

def Body.words (r : Rules) : Body → List Keyword
  | .select _ => [.select]
  | .setOp op _ left right => left.operandWords r ++ op.keyword :: right.operandWords r
  | .query q => q.words r

def Query.words (r : Rules) : Query → List Keyword
  | ⟨ctes, recursive, body, orderBy, limit, offset⟩ =>
    let q : Query := ⟨ctes, recursive, body, orderBy, limit, offset⟩
    q.withWords ++ body.words r ++ q.clauseWords r

end

namespace Emission

open Token (space parens parensIf brackets commaList clause path)

variable {r : Rules} {xs ys : List Token} {xss : List (List Token)} {ws : List Keyword} {k : Keyword}

theorem HasWords.parensIf {b : Bool} (h : Quiet xs) : Quiet (parensIf b xs) := by
  cases b with
  | false => exact h
  | true => exact h.parens

theorem hasWords_brackets (h : Quiet xs) : Quiet (brackets xs) :=
  (h.append (hasWords_token (t := .symbol .rightBracket) rfl)).cons rfl

theorem hasWords_commaList (h : ∀ xs ∈ xss, Quiet xs) : Quiet (commaList xss) := by
  unfold commaList
  induction xss with
  | nil => exact hasWords_nil
  | cons xs xss ih =>
    obtain ⟨first, rest⟩ := List.forall_mem_cons.1 h
    cases xss with
    | nil => simpa using first
    | cons ys yss =>
      rw [List.intercalate_cons_cons]
      exact (first.append (hasWords_space.cons (t := .symbol .comma) rfl)).append (ih rest)

theorem hasWords_clause (plain : isPlain (.keyword k)) (h : Quiet xs) :
    HasWords (clause k xs) (queryWord? (.keyword k)).toList := by
  unfold clause
  simpa using (h.cons_space.cons plain).cons_space

theorem quiet_clause (plain : isPlain (.keyword k)) (silent : queryWord? (.keyword k) = none) (h : Quiet xs) :
    Quiet (clause k xs) := by
  simpa [silent] using hasWords_clause plain h

theorem hasWords_listClause (plain : isPlain (.keyword k)) (h : ∀ xs ∈ xss, Quiet xs) :
    HasWords (listClause k xss) (if xss.isEmpty then [] else (queryWord? (.keyword k)).toList) := by
  cases xss with
  | nil => exact hasWords_nil
  | cons xs xss => exact hasWords_clause plain (hasWords_commaList h)

theorem quiet_listClause (plain : isPlain (.keyword k)) (silent : queryWord? (.keyword k) = none)
    (h : ∀ xs ∈ xss, Quiet xs) : Quiet (listClause k xss) := by
  simpa [silent] using hasWords_listClause plain h

theorem quiet_flatMap {α : Type} {f : α → List Token} {as : List α} (h : ∀ a ∈ as, Quiet (f a)) :
    Quiet (as.flatMap f) := by
  induction as with
  | nil => exact hasWords_nil
  | cons a as ih =>
    obtain ⟨first, rest⟩ := List.forall_mem_cons.1 h
    exact first.append (ih rest)

theorem quiet_ident {name : String} : Quiet [.ident name] := hasWords_token rfl

theorem quiet_qualifierTokens {qualifier : List String} : Quiet (qualifierTokens qualifier) :=
  quiet_flatMap fun _ _ => (hasWords_token (t := .symbol .dot) rfl).cons rfl

theorem quiet_path {parts : List String} : Quiet (path parts) := by
  unfold path
  induction parts with
  | nil => exact hasWords_nil
  | cons part rest ih =>
    cases rest with
    | nil => exact quiet_ident
    | cons part' rest =>
      rw [List.map_cons, List.map_cons, List.intercalate_cons_cons]
      exact (quiet_ident.append (hasWords_token (t := .symbol .dot) rfl)).append ih

theorem quiet_identList {names : List String} : Quiet (identList names) :=
  hasWords_commaList (List.forall_mem_map.2 fun _ _ => quiet_ident)

theorem quiet_aliasTokens {label : Option TableAlias} : Quiet (aliasTokens label) := by
  cases label with
  | none => exact hasWords_nil
  | some a =>
    have name : Quiet [.keyword .as_, space, .ident a.name] := (quiet_ident.cons_space).cons rfl
    unfold aliasTokens TableAlias.tokens
    refine (name.append ?_).cons_space
    split
    · exact hasWords_nil
    · exact quiet_identList.parens

theorem quiet_columnAliasTokens {label : Option String} : Quiet (columnAliasTokens label) := by
  cases label with
  | none => exact hasWords_nil
  | some name => exact (quiet_ident.cons_space.cons (t := .keyword .as_) rfl).cons_space

theorem quiet_cteHead {name : String} {columns : List String} : Quiet (cteHead name columns) := by
  unfold cteHead
  refine HasWords.cons (t := .ident name) rfl ?_
  split
  · exact hasWords_nil
  · exact quiet_identList.parens.cons_space

theorem quiet_negation {negated : Bool} : Quiet (Expr.tokens.negation negated) := by
  cases negated with
  | false => exact hasWords_nil
  | true => exact (hasWords_token (t := .keyword .not) rfl).cons_space

theorem quiet_tested {b negated : Bool} (h : Quiet xs) : Quiet (parensIf b xs ++ Expr.tokens.negation negated) :=
  h.parensIf.append quiet_negation

theorem quiet_sortDir {dir : Option SortDir} : Quiet (SortDir.tokens dir) := by
  rcases dir with _ | _ | _
  · exact hasWords_nil
  · exact (hasWords_token (t := .keyword .asc) rfl).cons_space
  · exact (hasWords_token (t := .keyword .desc) rfl).cons_space

theorem quiet_nullsOrder {nulls : Option NullsOrder} : Quiet (NullsOrder.tokens nulls) := by
  rcases nulls with _ | _ | _
  · exact hasWords_nil
  · exact (hasWords_token (t := .keyword .nullsFirst) rfl).cons_space
  · exact (hasWords_token (t := .keyword .nullsLast) rfl).cons_space

theorem quiet_joinKeywords {type : JoinType} : Quiet type.keywords := by
  have join : Quiet [space, .keyword .join] := (hasWords_token (t := .keyword .join) rfl).cons_space
  cases type with
  | full => exact (join.cons (t := .keyword .outer) rfl).cons_space.cons rfl
  | _ => exact join.cons rfl

theorem quiet_operator {op : BinaryOp} : Quiet [op.token] := by
  have plain : isPlain op.token := by cases op <;> rfl
  have silent : queryWord? op.token = none := by cases op <;> rfl
  simpa [silent] using hasWords_token plain

theorem quiet_words {ts : List Token} (h : ∀ t ∈ ts, t = space ∨ isPlain t ∧ queryWord? t = none) :
    Quiet ts := by
  induction ts with
  | nil => exact hasWords_nil
  | cons t ts ih =>
    obtain ⟨first, rest⟩ := List.forall_mem_cons.1 h
    rcases first with rfl | ⟨plain, silent⟩
    · exact (ih rest).cons_space
    · simpa [silent] using (ih rest).cons plain

theorem quiet_call {f : String} (h : Quiet xs) : Quiet (.function f :: parens xs) :=
  h.parens.cons rfl

theorem singleValue_layout (h : Quiet xs) :
    ∃ ys, singleValueTokens r xs = Token.keyword .case_ :: ys ++ [Token.keyword .end_] ∧ Quiet ys := by
  have whens : Quiet [space, .keyword .when_, space, .int 0, space, .keyword .then_, space, .keyword .null,
      space, .keyword .when_, space, .int 1, space, .keyword .then_, space] := quiet_words (by decide)
  have otherwise : Quiet [space, .keyword .else_, space, .keyword .null, space] := quiet_words (by decide)
  have star : Quiet [.symbol .star] := quiet_words (by decide)
  have inside := (((quiet_call (f := "COUNT") star).cons_space.append whens).append
    (quiet_call (f := r.singleValue) h)).append otherwise
  exact ⟨_, by simp [singleValueTokens], inside⟩

theorem hasWords_led {o : Option Expr} {lead : List Token} {p : Expr → List Token → Prop}
    (emitted : Led lead p o xs) (h : ∀ e ∈ o, ∀ ts, p e ts → Quiet ts) (said : HasWords lead ws) :
    HasWords xs (if o.isSome then ws else []) := by
  cases emitted with
  | none => exact hasWords_nil
  | some emitted => simpa using said.append (h _ rfl _ emitted)

def speaking (r : Rules) : PieceProperty where
  expr e := ∀ ts, e.tokens r = .ok ts → Quiet ts
  exprs es := ∀ e ∈ es, ∀ ts, e.tokens r = .ok ts → Quiet ts
  option o := ∀ e ∈ o, ∀ ts, e.tokens r = .ok ts → Quiet ts
  branches bs := ∀ b ∈ bs, (∀ ts, b.1.tokens r = .ok ts → Quiet ts) ∧ ∀ ts, b.2.tokens r = .ok ts → Quiet ts
  item i := ∀ ts, i.tokens r = .ok ts → Quiet ts
  items is := ∀ i ∈ is, ∀ ts, i.tokens r = .ok ts → Quiet ts
  relation x := ∀ ts, x.tokens r = .ok ts → Quiet ts
  constraint k := ∀ ts, k.tokens r = .ok ts → Quiet ts
  join j := ∀ ts, j.tokens r = .ok ts → Quiet ts
  joins js := ∀ j ∈ js, ∀ ts, j.tokens r = .ok ts → Quiet ts
  source f := ∀ ts, f.tokens r = .ok ts → Quiet ts
  sources fs := ∀ f ∈ fs, ∀ ts, f.tokens r = .ok ts → Quiet ts
  select s := ∀ ts, s.tokens r = .ok ts → ∃ rest, ts = .keyword .select :: rest ∧ Quiet rest
  body b := (∀ ts, b.tokens r = .ok ts → HasWords ts (b.words r)) ∧
    ∀ ts, b.operandTokens r = .ok ts → HasWords ts (b.operandWords r)
  order o := ∀ ts, o.tokens r = .ok ts → Quiet ts
  orders os := ∀ o ∈ os, ∀ ts, o.tokens r = .ok ts → Quiet ts
  cte k := ∀ ts, k.tokens r = .ok ts → Quiet ts
  ctes ks := ∀ k ∈ ks, ∀ ts, k.tokens r = .ok ts → Quiet ts
  query q := (∀ ts, q.tokens r = .ok ts → HasWords ts (q.words r)) ∧
    ∀ ts, q.body.operandTokens r = .ok ts → HasWords ts (q.body.operandWords r)

theorem quiet_parts {α : Type} {p : α → List Token → Prop} {as : List α}
    (h : ∀ a ∈ as, ∀ ts, p a ts → Quiet ts) (emitted : List.Forall₂ p as xss) : ∀ xs ∈ xss, Quiet xs := by
  induction emitted with
  | nil => exact nofun
  | cons first _ ih =>
    obtain ⟨head, tail⟩ := List.forall_mem_cons.1 h
    exact List.forall_mem_cons.2 ⟨head _ first, ih tail⟩

theorem quiet_branchTokens {bs : List (Expr × Expr)} {tss : List (List Token × List Token)}
    (h : (speaking r).branches bs) (emitted : Branched (fun e t => e.tokens r = .ok t) bs tss) :
    Quiet (branchTokens tss) := by
  induction emitted with
  | nil => exact hasWords_nil
  | cons first _ ih =>
    obtain ⟨head, tail⟩ := List.forall_mem_cons.1 h
    have condition := hasWords_clause (k := .when_) rfl (head.1 _ first.1)
    have result := hasWords_clause (k := .then_) rfl (head.2 _ first.2)
    exact (condition.append result).append (ih tail)

theorem call_layout {f : String} {es : List Expr} {distinct : Bool} {ts : List Token}
    (hes : (speaking r).exprs es) (emitted : (Expr.call f es distinct).tokens r = .ok ts) :
    (∃ name xs, ts = .function name :: parens xs ∧ Quiet xs) ∨
      ∃ xs, ts = Token.keyword .case_ :: xs ++ [Token.keyword .end_] ∧ Quiet xs := by
  cases Expr.tokens_call_ok.1 emitted with
  | plain form parts =>
    have args := hasWords_commaList (quiet_parts hes parts)
    have front : Quiet (if distinct then [.keyword .distinct, space] else []) := by
      cases distinct with
      | false => exact hasWords_nil
      | true => exact quiet_words (by decide)
    exact .inl ⟨_, _, rfl, front.append args⟩
  | singleValue form single all part =>
    subst single
    exact .inr (singleValue_layout (hes _ List.mem_cons_self _ part))
  | @truncUnitLast unit e t form two date part =>
    subst two
    have word : Quiet [.symbol .comma, space, .word (Text.upper unit)] :=
      (hasWords_token (t := .word (Text.upper unit)) rfl).cons_space.cons rfl
    exact .inl ⟨_, _, rfl, (hes e (by simp) t part).append word⟩

theorem case_layout {o t : Option Expr} {bs : List (Expr × Expr)} {ts : List Token} (ho : (speaking r).option o)
    (hbs : (speaking r).branches bs) (ht : (speaking r).option t)
    (emitted : (Expr.case o bs t).tokens r = .ok ts) :
    ∃ xs, ts = Token.keyword .case_ :: xs ++ [Token.keyword .end_] ∧ Quiet xs := by
  obtain ⟨o, tss, e, operand, branches, otherwise, rfl⟩ := Expr.tokens_case_ok.1 emitted
  have first : Quiet o := by simpa using hasWords_led operand ho hasWords_space
  have last : Quiet e := by simpa using hasWords_led otherwise ht (quiet_words (by decide))
  exact ⟨_, by simp, ((first.append (quiet_branchTokens hbs branches)).append last).append hasWords_space⟩

theorem cast_layout {e : Expr} {type : DataType} {ts : List Token} (he : (speaking r).expr e)
    (emitted : (Expr.cast e type).tokens r = .ok ts) : ∃ xs, ts = .keyword .cast :: parens xs ∧ Quiet xs := by
  obtain ⟨name, t, named, operand, rfl⟩ := Expr.tokens_cast_ok.1 emitted
  have as_ : Quiet [space, .keyword .as_, space, .typeName name] :=
    ((hasWords_token (t := .typeName name) rfl).cons_space.cons (t := .keyword .as_) rfl).cons_space
  exact ⟨_, rfl, (he t operand).append as_⟩

theorem quiet_leaf {e : Expr} (leaf : e.isLeaf) (emitted : e.tokens r = .ok xs) : Quiet xs := by
  cases e with
  | column qualifier name =>
    obtain rfl := Expr.tokens_column_ok.1 emitted
    exact quiet_qualifierTokens.append quiet_ident
  | literal value =>
    obtain ⟨t, token, rfl⟩ := Expr.tokens_literal_ok.1 emitted
    have known : isPlain t ∧ queryWord? t = none := by
      unfold Literal.token at token
      split at token
      all_goals try split at token
      all_goals first | (cases token; exact ⟨rfl, rfl⟩) | cases token
    exact quiet_words (by simpa using Or.inr known)
  | keyword word =>
    obtain ⟨-, rfl⟩ := Expr.tokens_keyword_ok.1 emitted
    exact hasWords_token rfl
  | star qualifier =>
    obtain rfl := Expr.tokens_star_ok.1 emitted
    exact quiet_qualifierTokens.append (hasWords_token rfl)
  | unsupported detail => exact (Expr.tokens_unsupported_ok.1 emitted).elim
  | _ => cases leaf

/-- Behind its keyword a SELECT has no words. -/
theorem select_quiet {s : Select} {ts : List Token} (his : (speaking r).items s.projection)
    (hfs : (speaking r).sources s.sources) (hw : (speaking r).option s.selection)
    (hg : (speaking r).exprs s.groupBy) (hh : (speaking r).option s.having) (emitted : s.tokens r = .ok ts) :
    ∃ rest, ts = .keyword .select :: rest ∧ Quiet rest := by
  obtain ⟨p, f, w, g, h, items, sources, selection, groups, having, rfl⟩ := Select.tokens_ok.1 emitted
  have distinct : Quiet (if s.distinct then [space, .keyword .distinct] else []) := by
    split
    · exact quiet_words (by decide)
    · exact hasWords_nil
  have projection : Quiet (if p.isEmpty then [] else space :: commaList p) := by
    split
    · exact hasWords_nil
    · exact (hasWords_commaList (quiet_parts his items)).cons_space
  have from_ : Quiet (listClause .from_ f) := quiet_listClause rfl rfl (quiet_parts hfs sources)
  have groupBy : Quiet (listClause .groupBy g) := quiet_listClause rfl rfl (quiet_parts hg groups)
  have where_ : Quiet w := by simpa using hasWords_led selection hw (quiet_words (by decide))
  have having_ : Quiet h := by simpa using hasWords_led having hh (quiet_words (by decide))
  exact ⟨_, rfl, ((((distinct.append projection).append from_).append where_).append groupBy).append having_⟩

theorem hasWords_setOpTokens {op : SetOp} {all : Bool} {vs : List Keyword} (hx : HasWords xs ws)
    (hy : HasWords ys vs) : HasWords (setOpTokens r op all xs ys) (ws ++ op.keyword :: vs) := by
  have word : HasWords [space, .keyword op.keyword] [op.keyword] := by
    have plain : isPlain (.keyword op.keyword) := by cases op <;> rfl
    have known : (queryWord? (.keyword op.keyword)).toList = [op.keyword] := by cases op <;> rfl
    simpa [known] using (hasWords_token plain).cons_space
  have quantifier : Quiet (if all then [space, .keyword .all]
      else if r.explicitDistinct then [space, .keyword .distinct] else []) := by
    split
    · exact quiet_words (by decide)
    split
    · exact quiet_words (by decide)
    · exact hasWords_nil
  simpa [setOpTokens] using ((hx.append word).append quantifier).append hy.cons_space

theorem hasWords_operand {b : Body} (h : ∀ ts, b.tokens r = .ok ts → HasWords ts (b.words r))
    (same : r.operandParens = false → b.words r = b.bareWords) (plain : ∀ q, b ≠ .query q) (ts : List Token)
    (emitted : b.operandTokens r = .ok ts) : HasWords ts (b.operandWords r) := by
  unfold Body.operandWords
  cases parens : r.operandParens with
  | true =>
    obtain ⟨t, inner, rfl⟩ := (Body.operandTokens_parens_ok parens).1 emitted
    exact (h t inner).parens
  | false =>
    rw [← same parens]
    exact h ts ((Body.operandTokens_bare_ok parens plain).1 emitted)

theorem hasWords_wrapped {q : Query} (h : ∀ ts, (Body.query q).tokens r = .ok ts → HasWords ts ((Body.query q).words r))
    (hb : ∀ ts, q.body.operandTokens r = .ok ts → HasWords ts (q.body.operandWords r)) (ts : List Token)
    (emitted : (Body.query q).operandTokens r = .ok ts) : HasWords ts ((Body.query q).operandWords r) := by
  unfold Body.operandWords at *
  cases parens : r.operandParens with
  | true =>
    obtain ⟨t, inner, rfl⟩ := (Body.operandTokens_parens_ok parens).1 emitted
    exact (h t inner).parens
  | false =>
    obtain ⟨-, inner⟩ := (Body.operandTokens_bare_query_ok parens).1 emitted
    have below := hb ts inner
    rw [parens] at below
    cases q
    exact below

theorem hasWords_offsetPrelude {hasLimit : Bool} :
    HasWords (offsetPrelude r hasLimit) (if r.offsetNeedsLimit && !hasLimit then [.limit] else []) := by
  unfold offsetPrelude
  split
  · exact hasWords_clause rfl (quiet_words (by decide))
  · exact hasWords_nil

theorem isEmpty_of_forall₂ {α β : Type} {p : α → β → Prop} {as : List α} {bs : List β}
    (h : List.Forall₂ p as bs) : as.isEmpty = bs.isEmpty := by
  cases h <;> rfl

theorem hasWords_withTokens {q : Query} {c : List (List Token)} (hks : (speaking r).ctes q.ctes)
    (ctes : List.Forall₂ (fun k t => k.tokens r = .ok t) q.ctes c) :
    HasWords (withTokens q.recursive c) q.withWords := by
  have tables := hasWords_commaList (quiet_parts hks ctes)
  have recursive : Quiet (if q.recursive then [space, .keyword .recursive] else []) := by
    split
    · exact quiet_words (by decide)
    · exact hasWords_nil
  have all := (recursive.cons (t := .keyword .with_) rfl).append (tables.cons_space.append hasWords_space)
  unfold withTokens Query.withWords
  rw [isEmpty_of_forall₂ ctes]
  split
  · exact hasWords_nil
  · have word : queryWord? (.keyword .with_) = some .with_ := rfl
    simpa [word] using all

theorem hasWords_clauseTokens {q : Query} {o : List (List Token)} {l f : List Token}
    (hos : (speaking r).orders q.orderBy) (hl : (speaking r).option q.limit)
    (hf : (speaking r).option q.offset) (orders : List.Forall₂ (fun o t => o.tokens r = .ok t) q.orderBy o)
    (limit : Led [space, .keyword .limit, space] (fun e t => e.tokens r = .ok t) q.limit l)
    (offset : Led (offsetPrelude r q.limit.isSome ++ [space, .keyword .offset, space])
      (fun e t => e.tokens r = .ok t) q.offset f) :
    HasWords (listClause .orderBy o ++ l ++ f) (q.clauseWords r) := by
  have order : HasWords (listClause .orderBy o) (if q.orderBy.isEmpty then [] else [.orderBy]) := by
    rw [isEmpty_of_forall₂ orders]
    exact hasWords_listClause rfl (quiet_parts hos orders)
  have limit_ : HasWords l (if q.limit.isSome then [.limit] else []) :=
    hasWords_led limit hl ((hasWords_space.cons (t := .keyword .limit) rfl).cons_space)
  have offset_ := hasWords_led offset hf
    ((hasWords_offsetPrelude (r := r)).append ((hasWords_space.cons (t := .keyword .offset) rfl).cons_space))
  rw [Query.clauseWords]
  exact (order.append limit_).append offset_

theorem hasWords_query {q : Query} {ts : List Token} (hks : (speaking r).ctes q.ctes)
    (hb : ∀ ts, q.body.tokens r = .ok ts → HasWords ts (q.body.words r)) (hos : (speaking r).orders q.orderBy)
    (hl : (speaking r).option q.limit) (hf : (speaking r).option q.offset) (emitted : q.tokens r = .ok ts) :
    HasWords ts (q.words r) := by
  obtain ⟨c, b, o, l, f, ctes, body, orders, limit, offset, rfl⟩ := Query.tokens_ok.1 emitted
  have whole := ((hasWords_withTokens hks ctes).append (hb b body)).append
    (hasWords_clauseTokens hos hl hf orders limit offset)
  obtain ⟨ctes, recursive, inner, orderBy, lim, off⟩ := q
  rw [Query.words]
  simpa only [List.append_assoc] using whole

theorem speaking_ascends : (speaking r).Ascends where
  leaf e leaf ts emitted := quiet_leaf leaf emitted
  binary op l r hl hr ts emitted := by
    obtain ⟨a, b, left, right, rfl⟩ := Expr.tokens_binary_ok.1 emitted
    have between : Quiet [space, op.token, space] := (quiet_operator.append hasWords_space).cons_space
    exact ((hl a left).parensIf.append between).append (hr b right).parensIf
  not e he ts emitted := by
    obtain ⟨t, operand, rfl⟩ := Expr.tokens_not_ok.1 emitted
    exact (he t operand).parensIf.cons_space.cons (t := .keyword .not) rfl
  neg e he ts emitted := by
    obtain ⟨t, operand, rfl⟩ := Expr.tokens_neg_ok.1 emitted
    exact (he t operand).parensIf.cons (t := .symbol .minus) rfl
  call f es distinct hes ts emitted := by
    rcases call_layout hes emitted with ⟨name, xs, rfl, inside⟩ | ⟨xs, rfl, inside⟩
    · exact quiet_call inside
    · exact inside.case
  case o bs t ho hbs ht ts emitted := by
    obtain ⟨xs, rfl, inside⟩ := case_layout ho hbs ht emitted
    exact inside.case
  subquery q hq ts emitted := by
    obtain ⟨t, query, rfl⟩ := Expr.tokens_subquery_ok.1 emitted
    exact (hq.1 t query).parens
  existential q negated hq ts emitted := by
    obtain ⟨t, query, rfl⟩ := Expr.tokens_exists_ok.1 emitted
    have front : Quiet ((if negated then [.keyword .not, space] else []) ++ [.keyword .exists_, space]) := by
      cases negated <;> exact quiet_words (by decide)
    exact front.append (hq.1 t query).parens
  inList e es negated he hes ts emitted := by
    rcases Expr.tokens_inList_ok.1 emitted with ⟨rfl, rfl⟩ | ⟨-, t, tss, operand, values, rfl⟩
    · cases negated <;> exact hasWords_token rfl
    · have list := (hasWords_commaList (quiet_parts hes values)).parens
      exact ((quiet_tested (he t operand)).append (quiet_words (by decide))).append list
  inQuery e q negated he hq ts emitted := by
    obtain ⟨a, b, operand, query, rfl⟩ := Expr.tokens_inQuery_ok.1 emitted
    exact ((quiet_tested (he a operand)).append (quiet_words (by decide))).append (hq.1 b query).parens
  between e l u negated he hl hu ts emitted := by
    obtain ⟨a, b, c, operand, low, high, rfl⟩ := Expr.tokens_between_ok.1 emitted
    exact ((quiet_tested (he a operand)).append (quiet_clause rfl rfl (hl b low).parensIf)).append
      (quiet_clause rfl rfl (hu c high).parensIf)
  isNull e negated he ts emitted := by
    obtain ⟨t, operand, rfl⟩ := Expr.tokens_isNull_ok.1 emitted
    exact (he t operand).parensIf.append (by cases negated <;> exact quiet_words (by decide))
  like e pattern negated he hp ts emitted := by
    obtain ⟨a, b, operand, pattern, rfl⟩ := Expr.tokens_like_ok.1 emitted
    exact (quiet_tested (he a operand)).append (hasWords_clause rfl (hp b pattern).parensIf)
  cast e type he ts emitted := by
    obtain ⟨xs, rfl, inside⟩ := cast_layout he emitted
    exact inside.parens.cons (t := .keyword .cast) rfl
  index a i ha hi ts emitted := by
    obtain ⟨t, u, array, index, rfl⟩ := Expr.tokens_index_ok.1 emitted
    refine (ha t array).parensIf.append (hasWords_brackets ?_)
    cases index with
    | oneBased style part => exact hi _ part
    | ordinal style part => exact quiet_call (hi _ part)
    | shifted style literal => exact hasWords_token rfl
    | difference style other part => exact (hi _ part).parens.append (quiet_words (by decide))
  array es hes ts emitted := by
    cases Expr.tokens_array_ok.1 emitted with
    | bracket style parts => exact hasWords_brackets (hasWords_commaList (quiet_parts hes parts))
    | keyword style parts =>
      exact (hasWords_brackets (hasWords_commaList (quiet_parts hes parts))).cons (t := .keyword .array) rfl
    | call style parts => exact quiet_call (hasWords_commaList (quiet_parts hes parts))
  paren e he ts emitted := by
    obtain ⟨t, inner, rfl⟩ := Expr.tokens_paren_ok.1 emitted
    exact (he t inner).parens
  exprsNil := nofun
  exprsCons e es he hes := List.forall_mem_cons.2 ⟨he, hes⟩
  optionNone := nofun
  optionSome e he := fun _ same => Option.some.inj same ▸ he
  branchesNil := nofun
  branchesCons k t bs hk ht hbs := List.forall_mem_cons.2 ⟨⟨hk, ht⟩, hbs⟩
  item e label he ts emitted := by
    obtain ⟨t, expr, rfl⟩ := SelectItem.tokens_ok.1 emitted
    exact (he t expr).append quiet_columnAliasTokens
  itemsNil := nofun
  itemsCons i is hi his := List.forall_mem_cons.2 ⟨hi, his⟩
  table path label ts emitted := by
    obtain rfl := Relation.tokens_table_ok.1 emitted
    exact quiet_path.append quiet_aliasTokens
  derived q label hq ts emitted := by
    obtain ⟨t, query, rfl⟩ := Relation.tokens_derived_ok.1 emitted
    exact (hq.1 t query).parens.append quiet_aliasTokens
  unnest es label hes ts emitted := by
    obtain ⟨-, tss, exprs, rfl⟩ := Relation.tokens_unnest_ok.1 emitted
    have list := (hasWords_commaList (quiet_parts hes exprs)).parens
    exact (list.cons (t := .keyword .unnest) rfl).append quiet_aliasTokens
  on e he ts emitted := by
    obtain ⟨t, condition, rfl⟩ := JoinConstraint.tokens_on_ok.1 emitted
    exact hasWords_clause rfl (he t condition)
  usingColumns columns ts emitted := by
    obtain rfl := JoinConstraint.tokens_using_ok.1 emitted
    exact hasWords_clause rfl quiet_identList.parens
  unconstrained ts emitted := by
    obtain rfl := JoinConstraint.tokens_none_ok.1 emitted
    exact hasWords_nil
  join type x k hx hk ts emitted := by
    obtain ⟨-, a, b, relation, constraint, rfl⟩ := Join.tokens_ok.1 emitted
    exact (quiet_joinKeywords.append (hx a relation).cons_space).append (hk b constraint)
  joinsNil := nofun
  joinsCons j js hj hjs := List.forall_mem_cons.2 ⟨hj, hjs⟩
  source x js hx hjs ts emitted := by
    obtain ⟨t, tss, relation, joins, rfl⟩ := FromItem.tokens_ok.1 emitted
    exact (hx t relation).append (quiet_flatMap fun ts hts => (quiet_parts hjs joins ts hts).cons_space)
  sourcesNil := nofun
  sourcesCons f fs hf hfs := List.forall_mem_cons.2 ⟨hf, hfs⟩
  select distinct is fs w g k his hfs hw hg hk ts emitted := select_quiet his hfs hw hg hk emitted
  bodySelect s hs := by
    have same : ∀ ts, (Body.select s).tokens r = .ok ts → HasWords ts ((Body.select s).words r) := by
      intro ts emitted
      obtain ⟨rest, rfl, quiet⟩ := hs ts (Body.tokens_select_ok.1 emitted)
      exact quiet.cons rfl
    exact ⟨same, hasWords_operand same (fun _ => rfl) nofun⟩
  setOp op all left right hl hr := by
    have same : ∀ ts, (Body.setOp op all left right).tokens r = .ok ts →
        HasWords ts ((Body.setOp op all left right).words r) := by
      intro ts emitted
      obtain ⟨a, b, hleft, hright, rfl⟩ := Body.tokens_setOp_ok.1 emitted
      exact hasWords_setOpTokens (hl.2 a hleft) (hr.2 b hright)
    refine ⟨same, hasWords_operand same (fun bare => ?_) nofun⟩
    simp [Body.words, Body.bareWords, Body.operandWords, bare]
  bodyQuery q hq := by
    have same : ∀ ts, (Body.query q).tokens r = .ok ts → HasWords ts ((Body.query q).words r) := by
      intro ts emitted
      rw [Body.words]
      exact hq.1 ts (Body.tokens_query_ok.1 emitted)
    exact ⟨same, hasWords_wrapped same hq.2⟩
  order e dir nulls he ts emitted := by
    obtain ⟨t, expr, rfl⟩ := OrderItem.tokens_ok.1 emitted
    exact ((he t expr).append quiet_sortDir).append quiet_nullsOrder
  ordersNil := nofun
  ordersCons o os ho hos := List.forall_mem_cons.2 ⟨ho, hos⟩
  cte name columns q hq ts emitted := by
    obtain ⟨t, query, rfl⟩ := Cte.tokens_ok.1 emitted
    exact quiet_cteHead.append (hasWords_clause rfl (hq.1 t query).parens)
  ctesNil := nofun
  ctesCons k ks hk hks := List.forall_mem_cons.2 ⟨hk, hks⟩
  query ks recursive b os l f hks hb hos hl hf :=
    ⟨fun _ emitted => hasWords_query hks hb.1 hos hl hf emitted, hb.2⟩

end Emission

end QueryBridge
