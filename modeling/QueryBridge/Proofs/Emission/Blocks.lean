import QueryBridge.Proofs.Emission.QueryWords
import QueryBridge.Proofs.Emission.Reader

set_option autoImplicit false

namespace QueryBridge

def Expr.isBlock : Expr → Bool
  | .column _ _ | .literal _ | .keyword _ | .call _ _ _ | .case _ _ _ | .subquery _ | .exists _ false
  | .cast _ _ => true
  | _ => false

def Expr.block (r : Rules) (e : Expr) : List Emission.Item :=
  match e.tokens r with
  | .ok ts => (Emission.outline ts).getD []
  | .error _ => []

def Query.block (r : Rules) (q : Query) : List Emission.Item :=
  match q.tokens r with
  | .ok ts => (Emission.outline ts).getD []
  | .error _ => []

namespace Emission

open Token (space parens commaList)

variable {r : Rules} {e : Expr} {q : Query} {ts xs : List Token} {is : List Item} {t : Token}

theorem Outlined.tokens (h : ∀ t ∈ ts, isPlain t) : Outlined ts (ts.map .token) := by
  induction ts with
  | nil => exact .nil
  | cons t ts ih =>
    obtain ⟨first, rest⟩ := List.forall_mem_cons.1 h
    exact (ih rest).cons first

theorem column_outlined (qualifier : List String) (name : String) :
    Outlined (qualifierTokens qualifier ++ [Token.ident name])
      ((qualifierTokens qualifier ++ [Token.ident name]).map .token) := by
  refine Outlined.tokens ?_
  simp only [qualifierTokens, List.mem_append, List.mem_flatMap, List.mem_cons, List.not_mem_nil, or_false]
  rintro t (⟨part, -, rfl | rfl⟩ | rfl) <;> rfl

theorem block_eq (emitted : e.tokens r = .ok ts) (outlined : Outlined ts is) : e.block r = is := by
  simp only [Expr.block, emitted, outlined.outline_eq, Option.getD_some]

theorem query_block_eq (emitted : q.tokens r = .ok ts) (outlined : Outlined ts is) : q.block r = is := by
  simp only [Query.block, emitted, outlined.outline_eq, Option.getD_some]

theorem expr_silent (emitted : e.tokens r = .ok ts) (outlined : Outlined ts is) : words is = [] := by
  obtain ⟨js, outlined', silent⟩ := speaking_ascends.expr_holds e ts emitted
  rw [outlined.unique outlined', silent]

theorem query_outlined (emitted : q.tokens r = .ok ts) : Outlined ts (q.block r) ∧ words (q.block r) = q.words r := by
  obtain ⟨is, outlined, known⟩ := (speaking_ascends.query_holds q).1 ts emitted
  rw [query_block_eq emitted outlined]
  exact ⟨outlined, known⟩

theorem body_words_ne_nil (b : Body) : b.words r ≠ [] := by
  cases b with
  | select s => exact List.cons_ne_nil _ _
  | setOp op all left right => simp [Body.words]
  | query q =>
    obtain ⟨ctes, recursive, body, orderBy, limit, offset⟩ := q
    have inner := body_words_ne_nil body
    simp [Body.words, Query.words, inner]

theorem isQuery_block (emitted : q.tokens r = .ok ts) : Reader.isQuery (q.block r) := by
  have known : words (q.block r) = (Body.query q).words r := by rw [Body.words, (query_outlined emitted).2]
  simpa [Reader.isQuery, known] using body_words_ne_nil (.query q)

def IsAtom (is : List Item) : Prop :=
  ∀ done stack, Reader.items ⟨done, stack, .operand⟩ is = some ⟨done, stack, .after (.atom is)⟩

theorem path_read {block : List Item} (qualifier : List String) (name : String) (done : List Reading)
    (stack : List Frame) : Reader.items ⟨done, stack, .dot block⟩ ((qualifierTokens qualifier ++ [Token.ident name]).map Item.token)
      = some ⟨done, stack, .after (.atom (block ++ (qualifierTokens qualifier ++ [Token.ident name]).map Item.token))⟩ := by
  induction qualifier generalizing block with
  | nil => exact Reader.items_singleton.trans (by rw [Reader.item, Reader.token_dotted]; rfl)
  | cons part qualifier ih =>
    have layout : (qualifierTokens (part :: qualifier) ++ [Token.ident name]).map Item.token
        = .token (.ident part) :: .token (.symbol .dot)
          :: (qualifierTokens qualifier ++ [Token.ident name]).map Item.token := rfl
    rw [layout, Reader.items_token, Reader.token_dotted, Option.bind_some, Reader.items_token, Reader.token_dot,
      Option.bind_some, ih]
    simp

theorem column_atom (qualifier : List String) (name : String) :
    IsAtom ((qualifierTokens qualifier ++ [Token.ident name]).map Item.token) := by
  intro done stack
  cases qualifier with
  | nil => exact Reader.items_singleton.trans (by rw [Reader.item]; rfl)
  | cons part qualifier =>
    have layout : (qualifierTokens (part :: qualifier) ++ [Token.ident name]).map Item.token
        = .token (.ident part) :: .token (.symbol .dot)
          :: (qualifierTokens qualifier ++ [Token.ident name]).map Item.token := rfl
    rw [layout, Reader.items_token, Reader.token_ident, Option.bind_some, Reader.items_token, Reader.token_dot,
      Option.bind_some, path_read]
    rfl

theorem token_atom (h : ∀ m : Reader, m.operandToken t = some { m with place := .after (.atom [.token t]) }) :
    IsAtom [.token t] := by
  intro done stack
  rw [Reader.items_singleton, Reader.item, Reader.token, h]

theorem headed_atom (h : ∀ m : Reader, m.operandToken t = some { m with place := .head [.token t] }) :
    IsAtom [.token t, .group is] := by
  intro done stack
  rw [Reader.items_token, Reader.token, h, Option.bind_some, Reader.items_singleton, Reader.item]
  rfl

theorem case_atom : IsAtom [.case is] := by
  intro done stack
  rw [Reader.items_singleton, Reader.item]
  rfl

theorem subquery_atom (query : Reader.isQuery is) : IsAtom [.group is] := by
  intro done stack
  rw [Reader.items_singleton, Reader.item]
  simp [Reader.group, query]

theorem literal_token {value : Literal} (h : value.token = .ok t) : isPlain t ∧
    ∀ m : Reader, m.operandToken t = some { m with place := .after (.atom [.token t]) } := by
  cases value with
  | float x =>
    rw [Literal.token] at h
    split at h
    · cases h
      exact ⟨rfl, fun _ => rfl⟩
    · cases h
  | _ =>
    cases h
    exact ⟨rfl, fun _ => rfl⟩

theorem block_read (block : e.isBlock) (emitted : e.tokens r = .ok ts) : ∃ is, Outlined ts is ∧ IsAtom is := by
  cases e with
  | column qualifier name =>
    obtain rfl := Expr.tokens_column_ok.1 emitted
    exact ⟨_, column_outlined qualifier name, column_atom qualifier name⟩
  | literal value =>
    obtain ⟨t, token, rfl⟩ := Expr.tokens_literal_ok.1 emitted
    obtain ⟨plain, step⟩ := literal_token token
    exact ⟨_, .token plain, token_atom step⟩
  | keyword word =>
    obtain ⟨-, rfl⟩ := Expr.tokens_keyword_ok.1 emitted
    exact ⟨_, .token rfl, token_atom fun _ => rfl⟩
  | subquery q =>
    obtain ⟨t, query, rfl⟩ := Expr.tokens_subquery_ok.1 emitted
    exact ⟨_, (query_outlined query).1.parens, subquery_atom (isQuery_block query)⟩
  | «exists» q negated =>
    cases negated with
    | true => cases block
    | false =>
      obtain ⟨t, query, rfl⟩ := Expr.tokens_exists_ok.1 emitted
      exact ⟨_, (query_outlined query).1.parens.cons_space.cons rfl, headed_atom fun _ => rfl⟩
  | cast e type =>
    obtain ⟨xs, rfl, inside, outlined, -⟩ := cast_layout (speaking_ascends.expr_holds e) emitted
    exact ⟨_, outlined.parens.cons rfl, headed_atom fun _ => rfl⟩
  | call f es distinct =>
    rcases call_layout (speaking_ascends.exprs_hold es) emitted with
      ⟨name, xs, rfl, inside, outlined, -⟩ | ⟨xs, rfl, inside, outlined, -⟩
    · exact ⟨_, outlined.parens.cons rfl, headed_atom fun _ => rfl⟩
    · exact ⟨_, outlined.case, case_atom⟩
  | case o bs t =>
    obtain ⟨xs, rfl, inside, outlined, -⟩ := case_layout (speaking_ascends.option_holds o)
      (speaking_ascends.branches_hold bs) (speaking_ascends.option_holds t) emitted
    exact ⟨_, outlined.case, case_atom⟩
  | _ => cases block

end Emission

end QueryBridge
