import QueryBridge.Proofs.Emission.Spelling
import QueryBridge.Proofs.Emission.Success

set_option autoImplicit false

namespace QueryBridge.Emission

open Token (space parens parensIf brackets commaList clause path)

variable {r : Rules} {k : Keyword} {s : Symbol} {xs ys : List Token} {xss : List (List Token)}

@[simp] theorem free_keyword_cons : Free r (.keyword k :: xs) ↔ Free r xs := free_inert_cons (inert_keyword k)

@[simp] theorem fresh_keyword_cons : Fresh r (.keyword k :: xs) := (inert_keyword k).fresh_cons

@[simp] theorem free_symbol_cons (h : s ∉ markSymbols) : Free r (.symbol s :: xs) ↔ Free r xs :=
  free_inert_cons (inert_symbol h)

@[simp] theorem fresh_symbol_cons (h : s ∉ markSymbols) : Fresh r (.symbol s :: xs) := (inert_symbol h).fresh_cons

@[simp] theorem free_space_cons : Free r (space :: xs) ↔ Free r xs := free_symbol_cons (by decide)

@[simp] theorem fresh_space_cons : Fresh r (space :: xs) := fresh_symbol_cons (by decide)

@[simp] theorem free_parens : Free r (parens xs) ↔ Free r xs := by simp [parens]

@[simp] theorem fresh_parens : Fresh r (parens xs) := by simp [parens]

@[simp] theorem free_parensIf {b : Bool} : Free r (parensIf b xs) ↔ Free r xs := by
  cases b <;> simp [parensIf]

@[simp] theorem free_brackets : Free r (brackets xs) ↔ Free r xs := by simp [brackets]

@[simp] theorem fresh_brackets : Fresh r (brackets xs) := by simp [brackets]

@[simp] theorem free_clause : Free r (clause k xs) ↔ Free r xs := by simp [clause]

@[simp] theorem fresh_clause : Fresh r (clause k xs) := by simp [clause]

@[simp] theorem free_commaList : Free r (commaList xss) ↔ ∀ xs ∈ xss, Free r xs := by
  unfold commaList
  induction xss with
  | nil => simp
  | cons xs xss ih =>
    cases xss with
    | nil => simp
    | cons ys yss =>
      have fresh : Fresh r ([.symbol .comma, space] ++ [Token.symbol .comma, space].intercalate (ys :: yss)) :=
        fresh_symbol_cons (by decide)
      rw [List.intercalate_cons_cons, List.append_assoc, free_append fresh, List.forall_mem_cons, ← ih]
      simp

@[simp] theorem free_listClause : Free r (listClause k xss) ↔ ∀ xs ∈ xss, Free r xs := by
  cases xss <;> simp [listClause]

@[simp] theorem fresh_listClause : Fresh r (listClause k xss) := by
  cases xss <;> simp [listClause]

@[simp] theorem fresh_joinTokens : Fresh r (joinTokens xss) := by
  induction xss with
  | nil => simp [joinTokens]
  | cons xs xss ih => simp [joinTokens]

@[simp] theorem free_joinTokens : Free r (joinTokens xss) ↔ ∀ xs ∈ xss, Free r xs := by
  induction xss with
  | nil => simp [joinTokens]
  | cons xs xss ih =>
    have split : joinTokens (xs :: xss) = space :: (xs ++ joinTokens xss) := rfl
    rw [split, free_space_cons, free_append fresh_joinTokens, ih, List.forall_mem_cons]

@[simp] theorem fresh_branchTokens {tss : List (List Token × List Token)} : Fresh r (branchTokens tss) := by
  induction tss with
  | nil => simp [branchTokens]
  | cons ts tss ih =>
    unfold branchTokens at ih ⊢
    simp [ih]

@[simp] theorem free_branchTokens {tss : List (List Token × List Token)} :
    Free r (branchTokens tss) ↔ ∀ ts ∈ tss, Free r ts.1 ∧ Free r ts.2 := by
  induction tss with
  | nil => simp [branchTokens]
  | cons ts tss ih =>
    rw [List.forall_mem_cons, ← ih]
    have rest : Fresh r (branchTokens tss) := fresh_branchTokens
    unfold branchTokens at rest ⊢
    simp [rest, and_assoc]

@[simp] theorem free_ident {name : String} : Free r [.ident name] := free_of_quoted rfl

@[simp] theorem fresh_ident_cons {name : String} (h : Fresh r xs) : Fresh r (.ident name :: xs) :=
  fresh_cons (fresh_of_quoted rfl) h

@[simp] theorem free_ident_cons {name : String} (h : Fresh r xs) : Free r (.ident name :: xs) ↔ Free r xs := by
  rw [free_cons h]
  exact and_iff_right free_ident

@[simp] theorem free_qualifierTokens_append {qualifier : List String} :
    Free r (qualifierTokens qualifier ++ xs) ↔ Free r xs := by
  induction qualifier with
  | nil => simp [qualifierTokens]
  | cons part rest ih =>
    rw [← ih]
    simp [qualifierTokens]

@[simp] theorem free_qualifierTokens {qualifier : List String} : Free r (qualifierTokens qualifier) := by
  rw [← List.append_nil (qualifierTokens qualifier), free_qualifierTokens_append]
  exact free_nil

theorem fresh_qualifierTokens {qualifier : List String} (h : Fresh r xs) :
    Fresh r (qualifierTokens qualifier ++ xs) := by
  induction qualifier with
  | nil => simpa [qualifierTokens] using h
  | cons part rest ih => simp [qualifierTokens]

@[simp] theorem free_path {parts : List String} : Free r (path parts) := by
  unfold path
  induction parts with
  | nil => simp
  | cons part rest ih =>
    cases rest with
    | nil => simp
    | cons part' rest => simpa [List.intercalate_cons_cons] using ih

@[simp] theorem free_identList {names : List String} : Free r (identList names) := by
  simp [identList]

@[simp] theorem free_aliasTokens {label : Option TableAlias} : Free r (aliasTokens label) := by
  cases label with
  | none => simp [aliasTokens]
  | some a => cases columns : a.columns.isEmpty <;> simp [aliasTokens, TableAlias.tokens, columns]

@[simp] theorem fresh_aliasTokens {label : Option TableAlias} : Fresh r (aliasTokens label) := by
  cases label <;> simp [aliasTokens]

@[simp] theorem free_columnAliasTokens {label : Option String} : Free r (columnAliasTokens label) := by
  cases label <;> simp [columnAliasTokens]

@[simp] theorem fresh_columnAliasTokens {label : Option String} : Fresh r (columnAliasTokens label) := by
  cases label <;> simp [columnAliasTokens]

@[simp] theorem free_cteHead {name : String} {columns : List String} : Free r (cteHead name columns) := by
  cases empty : columns.isEmpty <;> simp [cteHead, empty]

@[simp] theorem free_negation {negated : Bool} : Free r (Expr.tokens.negation negated) := by
  cases negated <;> simp [Expr.tokens.negation]

@[simp] theorem fresh_negation {negated : Bool} : Fresh r (Expr.tokens.negation negated) := by
  cases negated <;> simp [Expr.tokens.negation]

@[simp] theorem free_sortDir {dir : Option SortDir} : Free r (SortDir.tokens dir) := by
  rcases dir with _ | _ | _ <;> simp [SortDir.tokens]

@[simp] theorem fresh_sortDir {dir : Option SortDir} : Fresh r (SortDir.tokens dir) := by
  rcases dir with _ | _ | _ <;> simp [SortDir.tokens]

@[simp] theorem free_nullsOrder {nulls : Option NullsOrder} : Free r (NullsOrder.tokens nulls) := by
  rcases nulls with _ | _ | _ <;> simp [NullsOrder.tokens]

@[simp] theorem fresh_nullsOrder {nulls : Option NullsOrder} : Fresh r (NullsOrder.tokens nulls) := by
  rcases nulls with _ | _ | _ <;> simp [NullsOrder.tokens]

@[simp] theorem free_joinKeywords {type : JoinType} : Free r type.keywords := by
  cases type <;> simp [JoinType.keywords]

@[simp] theorem free_setOpTokens {op : SetOp} {all : Bool} :
    Free r (setOpTokens r op all xs ys) ↔ Free r xs ∧ Free r ys := by
  unfold setOpTokens
  split
  · simp
  split <;> simp

@[simp] theorem free_withTokens {recursive : Bool} :
    Free r (withTokens recursive xss ++ ys) ↔ (∀ xs ∈ xss, Free r xs) ∧ Free r ys := by
  cases xss with
  | nil => simp [withTokens]
  | cons xs xss => cases recursive <;> simp [withTokens, and_assoc]

@[simp] theorem free_symbol : Free r [.symbol s] := by
  rw [Free, spelled_singleton, glyphs_bare rfl]
  change CommentFree (asBare s.text.toList)
  cases s <;> decide

@[simp] theorem free_symbol_fresh_cons (h : Fresh r xs) : Free r (.symbol s :: xs) ↔ Free r xs := by
  rw [free_cons h]
  exact and_iff_right free_symbol

theorem free_operator {d : Dialect} (op : BinaryOp) : Free d.rules [op.token] := by
  cases op with
  | concat =>
    have text : d.rules.concatOperator = "||" := by cases d <;> rfl
    refine free_of_tame rfl (Plain.tame ?_)
    simp only [Token.text, BinaryOp.token, text]
    decide
  | and | or => exact (inert_keyword _).free
  | _ => exact free_symbol

@[simp] theorem free_operator_cons {d : Dialect} {op : BinaryOp} (h : Fresh d.rules xs) :
    Free d.rules (op.token :: xs) ↔ Free d.rules xs := by
  rw [free_cons h]
  exact and_iff_right (free_operator op)

theorem spelled_minus_cons : spelled r (.symbol .minus :: xs) = bare '-' :: spelled r xs := by
  rw [spelled_cons, glyphs_bare rfl]
  change asBare "-".toList ++ _ = _
  rw [String.toList, ← List.singleton_append]
  rfl

theorem dashed_minus_cons : Dashed r (.symbol .minus :: xs) := by
  simp [Dashed, spelled_minus_cons]

theorem free_minus_cons : Free r (.symbol .minus :: xs) ↔ Free r xs ∧ ¬ Dashed r xs := by
  rw [Free, spelled_minus_cons, CommentFree, List.isChain_cons, and_comm]
  refine and_congr_right fun _ => ⟨fun apart dashed => apart _ dashed (.inl ⟨rfl, rfl⟩), ?_⟩
  rintro apart g hg (⟨-, rfl⟩ | ⟨clash, -⟩)
  · exact apart hg
  · simp [bare] at clash

theorem dashed_append (h : Fresh r ys) : Dashed r (xs ++ ys) ↔ Dashed r xs := by
  rw [Dashed, spelled_append, List.head?_append, Option.or_eq_some_iff]
  exact or_iff_left fun dashed => h.not_dashed dashed.2

theorem not_dashed_star {qualifier : List String} :
    ¬ Dashed r (qualifierTokens qualifier ++ [Token.symbol .star]) := by
  cases qualifier with
  | nil =>
    have star : spelled r [.symbol .star] = [bare '*'] := by
      rw [spelled_singleton, glyphs_bare rfl]
      change asBare "*".toList = _
      decide
    rw [qualifierTokens, List.flatMap_nil, List.nil_append, Dashed, star]
    decide
  | cons part rest => exact Fresh.not_dashed (by simp [qualifierTokens])

section

variable {t : Token} {negative : Bool} (bare : t.isQuoted = false)
  (signed : Signed negative (t.text r).toList)

include bare signed

theorem free_of_signed : Free r [t] := by
  rw [Free, spelled_singleton, glyphs_bare bare]
  exact signed.commentFree

theorem dashed_of_signed : Dashed r [t] ↔ negative := by
  rw [← signed.dash, Dashed, spelled_singleton, glyphs_bare bare, asBare, List.head?_map,
    Option.map_eq_some_iff]
  simp [Emission.bare]

end

@[simp] theorem free_int_cons {n : Int64} (h : Fresh r xs) : Free r (.int n :: xs) ↔ Free r xs := by
  rw [free_cons h]
  exact and_iff_right (free_of_signed rfl (signed_int64 n))

@[simp] theorem free_offsetPrelude {hasLimit : Bool} : Free r (offsetPrelude r hasLimit) := by
  unfold offsetPrelude
  split
  · have positive : ¬ Dashed r [.int 1] := by
      rw [dashed_of_signed rfl (signed_int64 1)]
      decide
    simp [free_minus_cons, positive]
  · exact free_nil

@[simp] theorem fresh_offsetPrelude {hasLimit : Bool} : Fresh r (offsetPrelude r hasLimit) := by
  unfold offsetPrelude
  split
  · exact fresh_clause
  · exact fresh_nil

section

variable {d : Dialect} {name : String} (tame : Tame name.toList)

include tame

theorem fresh_function (h : Fresh d.rules xs) : Fresh d.rules (.function name :: xs) :=
  fresh_cons (fresh_of_tame rfl (tame_functionName tame)) h

theorem free_function (h : Fresh d.rules xs) : Free d.rules (.function name :: xs) ↔ Free d.rules xs := by
  rw [free_cons h]
  exact and_iff_right (free_of_tame rfl (tame_functionName tame))

end

theorem tame_arrayFunction {d : Dialect} {function : String} (h : d.rules.arrayStyle = .call function) :
    Tame function.toList := by
  cases d <;> cases h
  exact Plain.tame (by decide)

theorem tame_singleValue (d : Dialect) : Tame d.rules.singleValue.toList := by
  cases d <;> exact Plain.tame (by decide)

@[simp] theorem free_singleValueTokens {d : Dialect} : Free d.rules (singleValueTokens d.rules xs) ↔ Free d.rules xs := by
  have count : Tame "COUNT".toList := Plain.tame (by decide)
  simp [singleValueTokens, free_function count, free_function (tame_singleValue d)]

end QueryBridge.Emission
