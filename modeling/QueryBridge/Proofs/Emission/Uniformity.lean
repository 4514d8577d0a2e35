import QueryBridge.Proofs.Emission.Failure

set_option autoImplicit false

namespace QueryBridge.Emission

open Token (space)

/-- The tokens of the piece itself can depend on the dialect. -/
def Piece.Dialectal : Piece → Prop
  | .expr (.cast _ _) | .expr (.index _ _) | .expr (.array _) => True
  | .expr (.call function _ _) => Text.upper function = "DATE_TRUNC" ∨ Text.upper function = "SINGLE_VALUE"
  | .relation (.unnest _ _) => True
  | .join j => j.type = .full
  | .body (.setOp _ _ _ _) => True
  | .query q => q.offset.isSome ∧ q.limit = none
  | _ => False

/-- No emitted position has a piece whose tokens can depend on the dialect. -/
abbrev Piece.Neutral : Piece → Prop := Piece.Everywhere fun y => ¬ y.Dialectal

section

variable {x : Piece} (h : x.Neutral)

include h

theorem Piece.Everywhere.self : ¬ x.Dialectal := (Piece.everywhere_iff.1 h).1

theorem Piece.Everywhere.below : ∀ y ∈ x.parts, y.Neutral := (Piece.everywhere_iff.1 h).2

end

/-- The tokens under the one set of rules are the tokens under the other. -/
def Carries (r r' : Rules) (tokens : Rules → Emitted) : Prop := ∀ ts, tokens r = .ok ts → tokens r' = .ok ts

def carrying (r r' : Rules) : PieceProperty where
  expr e := (Piece.expr e).Neutral → Carries r r' e.tokens
  exprs es := ∀ e ∈ es, (Piece.expr e).Neutral → Carries r r' e.tokens
  option o := ∀ e ∈ o, (Piece.expr e).Neutral → Carries r r' e.tokens
  branches bs := ∀ b ∈ bs, ((Piece.expr b.1).Neutral → Carries r r' b.1.tokens) ∧
    ((Piece.expr b.2).Neutral → Carries r r' b.2.tokens)
  item i := (Piece.expr i.expr).Neutral → Carries r r' i.tokens
  items is := ∀ i ∈ is, (Piece.expr i.expr).Neutral → Carries r r' i.tokens
  relation x := (Piece.relation x).Neutral → Carries r r' x.tokens
  constraint k := (∀ y ∈ Piece.ofConstraint k, y.Neutral) → Carries r r' k.tokens
  join j := (Piece.join j).Neutral → Carries r r' j.tokens
  joins js := ∀ j ∈ js, (Piece.join j).Neutral → Carries r r' j.tokens
  source f := (∀ y ∈ Piece.ofSources [f], y.Neutral) → Carries r r' f.tokens
  sources fs := ∀ f ∈ fs, (∀ y ∈ Piece.ofSources [f], y.Neutral) → Carries r r' f.tokens
  select s := (Piece.select s).Neutral → Carries r r' s.tokens
  body b := (Piece.body b).Neutral → Carries r r' b.tokens
  order o := (Piece.expr o.expr).Neutral → Carries r r' o.tokens
  orders os := ∀ o ∈ os, (Piece.expr o.expr).Neutral → Carries r r' o.tokens
  cte k := (Piece.query k.query).Neutral → Carries r r' k.tokens
  ctes ks := ∀ k ∈ ks, (Piece.query k.query).Neutral → Carries r r' k.tokens
  query q := (Piece.query q).Neutral → Carries r r' q.tokens

section

theorem forall₂_carried {α β : Type} {p p' : α → β → Prop} {as : List α} {bs : List β}
    (h : List.Forall₂ p as bs) (carry : ∀ a ∈ as, ∀ b, p a b → p' a b) : List.Forall₂ p' as bs :=
  ((List.forall₂_and_left _ _).2 ⟨carry, h⟩).imp fun _ b both => both.1 b both.2

theorem led_carried {lead ts : List Token} {p p' : Expr → List Token → Prop} {o : Option Expr}
    (h : Led lead p o ts) (carry : ∀ e ∈ o, ∀ t, p e t → p' e t) : Led lead p' o ts := by
  cases h with
  | none => exact .none
  | some h => exact .some (carry _ rfl _ h)

variable {r r' : Rules}

theorem callForm_plain {function : String}
    (other : ¬ (Text.upper function = "DATE_TRUNC" ∨ Text.upper function = "SINGLE_VALUE")) :
    callForm r function = .plain := by
  cases form : callForm r function with
  | plain => rfl
  | singleValue => exact (other (.inr (callForm_singleValue.1 form))).elim
  | truncUnitLast => exact (other (.inl (callForm_truncUnitLast.1 form).1)).elim

theorem call_carried {function : String} {args : List Expr} {distinct : Bool}
    (hargs : (carrying r r').exprs args) (neutral : (Piece.expr (.call function args distinct)).Neutral) :
    Carries r r' (Expr.call function args distinct).tokens := by
  intro ts h
  have below : ∀ e ∈ args, Carries r r' e.tokens :=
    fun e he => hargs e he (neutral.below _ (List.mem_map_of_mem he))
  have plain {r : Rules} : callForm r function = .plain := callForm_plain neutral.self
  rcases Expr.tokens_call_ok.1 h with ⟨_, parts⟩ | ⟨single, -, -, -⟩ | ⟨trunc, -, -, -⟩
  · exact Expr.tokens_call_ok.2 (.plain plain (forall₂_carried parts below))
  · cases plain.symm.trans single
  · cases plain.symm.trans trunc

theorem inList_carried {e : Expr} {values : List Expr} {negated : Bool} (he : (carrying r r').expr e)
    (hvalues : (carrying r r').exprs values) (neutral : (Piece.expr (.inList e values negated)).Neutral) :
    Carries r r' (Expr.inList e values negated).tokens := by
  intro ts h
  refine Expr.tokens_inList_ok.2 ?_
  rcases Expr.tokens_inList_ok.1 h with constant | ⟨some, t, tss, ht, parts, rfl⟩
  · exact .inl constant
  · -- an empty list is excluded here, so that all values are at emitted positions
    obtain ⟨v, vs, rfl⟩ := List.exists_cons_of_ne_nil some
    have below := neutral.below
    have operand := he (below _ List.mem_cons_self) _ ht
    have rest := forall₂_carried parts
      fun e he => hvalues e he (below _ (List.mem_cons_of_mem _ (List.mem_map_of_mem he)))
    exact .inr ⟨some, t, tss, operand, rest, rfl⟩

theorem select_carried {s : Select} (hp : (carrying r r').items s.projection)
    (hf : (carrying r r').sources s.sources) (hw : (carrying r r').option s.selection)
    (hg : (carrying r r').exprs s.groupBy) (hh : (carrying r r').option s.having)
    (neutral : (Piece.select s).Neutral) : Carries r r' s.tokens := by
  intro ts h
  have below := neutral.below
  simp only [Piece.parts, List.forall_mem_append] at below
  obtain ⟨⟨⟨⟨items, sources⟩, selection⟩, groupBy⟩, having⟩ := below
  obtain ⟨p, f, w, g, k, yp, yf, yw, yg, yk, rfl⟩ := Select.tokens_ok.1 h
  have carriedItems := forall₂_carried yp
    fun i hi => hp i hi (items _ (List.mem_map_of_mem (List.mem_map_of_mem hi)))
  have carriedSources := forall₂_carried yf fun x hx => hf x hx fun y hy =>
    sources y (List.mem_flatMap.2 ⟨x, hx, by simpa [Piece.ofSources] using hy⟩)
  have carriedSelection := led_carried yw
    fun e he => hw e he (selection _ (List.mem_map_of_mem (Option.mem_toList.2 he)))
  have carriedGroups := forall₂_carried yg fun e he => hg e he (groupBy _ (List.mem_map_of_mem he))
  have carriedHaving := led_carried yk
    fun e he => hh e he (having _ (List.mem_map_of_mem (Option.mem_toList.2 he)))
  exact Select.tokens_ok.2
    ⟨p, f, w, g, k, carriedItems, carriedSources, carriedSelection, carriedGroups, carriedHaving, rfl⟩

/-- A limit makes what stands in front of OFFSET the same everywhere. -/
theorem offset_carried {lead ts : List Token} {p : Expr → List Token → Prop} {limit offset : Option Expr}
    (limited : ¬ (offset.isSome ∧ limit = none)) (h : Led (offsetPrelude r limit.isSome ++ lead) p offset ts) :
    Led (offsetPrelude r' limit.isSome ++ lead) p offset ts := by
  cases offset with
  | none => rwa [led_none] at h ⊢
  | some e =>
    obtain ⟨l, rfl⟩ := Option.ne_none_iff_exists'.1 fun none => limited ⟨rfl, none⟩
    have noPrelude (r : Rules) : offsetPrelude r true = [] := by simp [offsetPrelude]
    rw [Option.isSome_some, noPrelude] at h ⊢
    exact h

theorem query_carried {q : Query} (hc : (carrying r r').ctes q.ctes) (hb : (carrying r r').body q.body)
    (ho : (carrying r r').orders q.orderBy) (hl : (carrying r r').option q.limit)
    (hf : (carrying r r').option q.offset) (neutral : (Piece.query q).Neutral) :
    Carries r r' q.tokens := by
  intro ts h
  have below := neutral.below
  simp only [Piece.parts, List.forall_mem_append, List.forall_mem_singleton] at below
  obtain ⟨⟨⟨⟨ctes, body⟩, orders⟩, limit⟩, offset⟩ := below
  obtain ⟨c, b, o, l, f, yc, yb, yo, yl, yf, rfl⟩ := Query.tokens_ok.1 h
  have carriedCtes := forall₂_carried yc fun k hk => hc k hk (ctes _ (List.mem_map_of_mem hk))
  have carriedOrders := forall₂_carried yo
    fun x hx => ho x hx (orders _ (List.mem_map_of_mem (List.mem_map_of_mem hx)))
  have carriedLimit := led_carried yl
    fun e he => hl e he (limit _ (List.mem_map_of_mem (Option.mem_toList.2 he)))
  have carriedOffset := led_carried yf
    fun e he => hf e he (offset _ (List.mem_map_of_mem (Option.mem_toList.2 he)))
  have sameLead : Led (offsetPrelude r' q.limit.isSome ++ [space, .keyword .offset, space])
      (fun e t => e.tokens r' = .ok t) q.offset f := offset_carried neutral.self carriedOffset
  exact Query.tokens_ok.2
    ⟨c, b, o, l, f, carriedCtes, hb body _ yb, carriedOrders, carriedLimit, sameLead, rfl⟩

theorem carrying_ascends : (carrying r r').Ascends where
  leaf e he := by
    intro _ ts h
    cases e with
    | column qualifier name => rwa [Expr.tokens_column_ok] at h ⊢
    | literal value => rwa [Expr.tokens_literal_ok] at h ⊢
    | keyword word => rwa [Expr.tokens_keyword_ok] at h ⊢
    | star qualifier => rwa [Expr.tokens_star_ok] at h ⊢
    | unsupported detail => exact (Expr.tokens_unsupported_ok.1 h).elim
    | _ => cases he
  binary op l t hl ht := by
    intro neutral ts h
    have below := neutral.below
    obtain ⟨a, b, ha, hb, rfl⟩ := Expr.tokens_binary_ok.1 h
    exact Expr.tokens_binary_ok.2 ⟨a, b, hl (below _ (.head _)) _ ha, ht (below _ (.tail _ (.head _))) _ hb, rfl⟩
  not e he := by
    intro neutral ts h
    obtain ⟨t, ht, rfl⟩ := Expr.tokens_not_ok.1 h
    exact Expr.tokens_not_ok.2 ⟨t, he (neutral.below _ (.head _)) _ ht, rfl⟩
  neg e he := by
    intro neutral ts h
    obtain ⟨t, ht, rfl⟩ := Expr.tokens_neg_ok.1 h
    exact Expr.tokens_neg_ok.2 ⟨t, he (neutral.below _ (.head _)) _ ht, rfl⟩
  call function args distinct hargs := call_carried hargs
  case o bs t ho hbs ht := by
    intro neutral ts h
    have below := neutral.below
    simp only [Piece.parts, Piece.ofExpr, List.forall_mem_append] at below
    obtain ⟨⟨operand, branches⟩, otherwise⟩ := below
    obtain ⟨a, tss, b, ha, hs, hb, rfl⟩ := Expr.tokens_case_ok.1 h
    have carriedOperand := led_carried ha
      fun e he => ho e he (operand _ (List.mem_map_of_mem (Option.mem_toList.2 he)))
    have carriedBranches : Branched (fun e t => e.tokens r' = .ok t) bs tss := by
      refine forall₂_carried hs fun b hb ts both => ⟨?_, ?_⟩
      · exact (hbs b hb).1 (branches _ (List.mem_flatMap.2 ⟨b, hb, .head _⟩)) _ both.1
      · exact (hbs b hb).2 (branches _ (List.mem_flatMap.2 ⟨b, hb, .tail _ (.head _)⟩)) _ both.2
    have carriedElse := led_carried hb
      fun e he => ht e he (otherwise _ (List.mem_map_of_mem (Option.mem_toList.2 he)))
    exact Expr.tokens_case_ok.2 ⟨a, tss, b, carriedOperand, carriedBranches, carriedElse, rfl⟩
  subquery q hq := by
    intro neutral ts h
    obtain ⟨t, ht, rfl⟩ := Expr.tokens_subquery_ok.1 h
    exact Expr.tokens_subquery_ok.2 ⟨t, hq (neutral.below _ (.head _)) _ ht, rfl⟩
  existential q negated hq := by
    intro neutral ts h
    obtain ⟨t, ht, rfl⟩ := Expr.tokens_exists_ok.1 h
    exact Expr.tokens_exists_ok.2 ⟨t, hq (neutral.below _ (.head _)) _ ht, rfl⟩
  inList e es negated he hes := inList_carried he hes
  inQuery e q negated he hq := by
    intro neutral ts h
    have below := neutral.below
    obtain ⟨a, b, ha, hb, rfl⟩ := Expr.tokens_inQuery_ok.1 h
    exact Expr.tokens_inQuery_ok.2 ⟨a, b, he (below _ (.head _)) _ ha, hq (below _ (.tail _ (.head _))) _ hb, rfl⟩
  between e l u negated he hl hu := by
    intro neutral ts h
    have below := neutral.below
    obtain ⟨a, b, c, ha, hb, hc, rfl⟩ := Expr.tokens_between_ok.1 h
    exact Expr.tokens_between_ok.2 ⟨a, b, c, he (below _ (.head _)) _ ha, hl (below _ (.tail _ (.head _))) _ hb,
      hu (below _ (.tail _ (.tail _ (.head _)))) _ hc, rfl⟩
  isNull e negated he := by
    intro neutral ts h
    obtain ⟨t, ht, rfl⟩ := Expr.tokens_isNull_ok.1 h
    exact Expr.tokens_isNull_ok.2 ⟨t, he (neutral.below _ (.head _)) _ ht, rfl⟩
  like e p negated he hp := by
    intro neutral ts h
    have below := neutral.below
    obtain ⟨a, b, ha, hb, rfl⟩ := Expr.tokens_like_ok.1 h
    exact Expr.tokens_like_ok.2 ⟨a, b, he (below _ (.head _)) _ ha, hp (below _ (.tail _ (.head _))) _ hb, rfl⟩
  cast e type he neutral := (neutral.self trivial).elim
  index a i ha hi neutral := (neutral.self trivial).elim
  array es hes neutral := (neutral.self trivial).elim
  paren e he := by
    intro neutral ts h
    obtain ⟨t, ht, rfl⟩ := Expr.tokens_paren_ok.1 h
    exact Expr.tokens_paren_ok.2 ⟨t, he (neutral.below _ (.head _)) _ ht, rfl⟩
  exprsNil := List.forall_mem_nil _
  exprsCons e es he hes := List.forall_mem_cons.2 ⟨he, hes⟩
  optionNone := nofun
  optionSome e he := fun _ same => Option.some.inj same ▸ he
  branchesNil := List.forall_mem_nil _
  branchesCons k t bs hk ht hbs := List.forall_mem_cons.2 ⟨⟨hk, ht⟩, hbs⟩
  item e label he := by
    intro neutral ts h
    obtain ⟨t, ht, rfl⟩ := SelectItem.tokens_ok.1 h
    exact SelectItem.tokens_ok.2 ⟨t, he neutral _ ht, rfl⟩
  itemsNil := List.forall_mem_nil _
  itemsCons i is hi his := List.forall_mem_cons.2 ⟨hi, his⟩
  table path label := by
    intro _ ts h
    rwa [Relation.tokens_table_ok] at h ⊢
  derived q label hq := by
    intro neutral ts h
    obtain ⟨t, ht, rfl⟩ := Relation.tokens_derived_ok.1 h
    exact Relation.tokens_derived_ok.2 ⟨t, hq (neutral.below _ (.head _)) _ ht, rfl⟩
  unnest es label hes neutral := (neutral.self trivial).elim
  on e he := by
    intro neutral ts h
    obtain ⟨t, ht, rfl⟩ := JoinConstraint.tokens_on_ok.1 h
    exact JoinConstraint.tokens_on_ok.2 ⟨t, he (neutral _ (.head _)) _ ht, rfl⟩
  usingColumns columns := by
    intro _ ts h
    rwa [JoinConstraint.tokens_using_ok] at h ⊢
  unconstrained := by
    intro _ ts h
    rwa [JoinConstraint.tokens_none_ok] at h ⊢
  join type x k hx hk := by
    intro neutral ts h
    have below := neutral.below
    obtain ⟨-, a, b, ha, hb, rfl⟩ := Join.tokens_ok.1 h
    have relation := hx (below _ (.head _)) _ ha
    have constraint := hk (fun y hy => below _ (.tail _ hy)) _ hb
    exact Join.tokens_ok.2 ⟨fun full => (neutral.self full).elim, a, b, relation, constraint, rfl⟩
  joinsNil := List.forall_mem_nil _
  joinsCons j js hj hjs := List.forall_mem_cons.2 ⟨hj, hjs⟩
  source x js hx hjs := by
    intro neutral ts h
    simp only [Piece.ofSources, List.flatMap_cons, List.flatMap_nil, List.append_nil, List.forall_mem_cons,
      List.forall_mem_map] at neutral
    obtain ⟨t, tss, ht, hs, rfl⟩ := FromItem.tokens_ok.1 h
    have joins := forall₂_carried hs fun j hj => hjs j hj (neutral.2 j hj)
    exact FromItem.tokens_ok.2 ⟨t, tss, hx neutral.1 _ ht, joins, rfl⟩
  sourcesNil := List.forall_mem_nil _
  sourcesCons f fs hf hfs := List.forall_mem_cons.2 ⟨hf, hfs⟩
  select d p f w g k hp hf hw hg hk := select_carried hp hf hw hg hk
  bodySelect s hs := by
    intro neutral ts h
    rw [Body.tokens_select_ok] at h ⊢
    exact hs (neutral.below _ (.head _)) _ h
  setOp op all l t hl ht neutral := (neutral.self trivial).elim
  bodyQuery q hq := by
    intro neutral ts h
    rw [Body.tokens_query_ok] at h ⊢
    exact hq (neutral.below _ (.head _)) _ h
  order e dir nulls he := by
    intro neutral ts h
    obtain ⟨t, ht, rfl⟩ := OrderItem.tokens_ok.1 h
    exact OrderItem.tokens_ok.2 ⟨t, he neutral _ ht, rfl⟩
  ordersNil := List.forall_mem_nil _
  ordersCons o os ho hos := List.forall_mem_cons.2 ⟨ho, hos⟩
  cte name columns q hq := by
    intro neutral ts h
    obtain ⟨t, ht, rfl⟩ := Cte.tokens_ok.1 h
    exact Cte.tokens_ok.2 ⟨t, hq neutral _ ht, rfl⟩
  ctesNil := List.forall_mem_nil _
  ctesCons k ks hk hks := List.forall_mem_cons.2 ⟨hk, hks⟩
  query c recursive b o l f hc hb ho hl hf := query_carried hc hb ho hl hf

end

theorem tokens_neutral {q : Query} (neutral : (Piece.query q).Neutral) (r r' : Rules) (ts : List Token) :
    q.tokens r = .ok ts ↔ q.tokens r' = .ok ts :=
  ⟨carrying_ascends.query_holds q neutral ts, carrying_ascends.query_holds q neutral ts⟩

theorem emission_uniform {q : Query} (neutral : (Piece.query q).Neutral) :
    (∃ ts, ∀ d : Dialect, q.tokens d.rules = .ok ts ∧ q.sql d = .ok (String.join (ts.map (Token.text d.rules)))) ∨
      ∀ d : Dialect, ∃ e, q.tokens d.rules = .error e ∧ q.sql d = .error e := by
  cases tried : q.tokens Dialect.postgres.rules with
  | ok ts =>
    left
    refine ⟨ts, fun d => ?_⟩
    have same : q.tokens d.rules = .ok ts := (tokens_neutral neutral _ _ ts).1 tried
    exact ⟨same, by rw [Query.sql, same]; rfl⟩
  | error e =>
    right
    intro d
    cases here : q.tokens d.rules with
    | ok ts =>
      have there := (tokens_neutral neutral _ Dialect.postgres.rules ts).1 here
      cases tried.symm.trans there
    | error e' => exact ⟨e', rfl, by rw [Query.sql, here]; rfl⟩

/-- `SELECT COUNT(a.x) FROM a INNER JOIN b ON a.k = b.k LIMIT 10 OFFSET 5` -/
def countedJoin : Query :=
  { ctes := [], recursive := false, orderBy := [], limit := some (.literal (.int 10)),
    offset := some (.literal (.int 5)),
    body := .select
      { distinct := false, projection := [⟨.call "COUNT" [.column ["a"] "x"] false, none⟩],
        sources := [⟨.table ["a"] none, [⟨.inner, .table ["b"] none,
          .on (.binary .eq (.column ["a"] "k") (.column ["b"] "k"))⟩]⟩],
        selection := none, groupBy := [], having := none } }

def countedJoinTokens : List Token :=
  [.keyword .select, space, .function "COUNT", .symbol .leftParen, .ident "a", .symbol .dot, .ident "x",
    .symbol .rightParen, space, .keyword .from_, space, .ident "a", space, .keyword .inner, space,
    .keyword .join, space, .ident "b", space, .keyword .on_, space, .ident "a", .symbol .dot, .ident "k",
    space, .symbol .eq, space, .ident "b", .symbol .dot, .ident "k", space, .keyword .limit, space, .int 10,
    space, .keyword .offset, space, .int 5]

theorem countedJoin_uniform : (Piece.query countedJoin).Neutral ∧
    ∀ d : Dialect, countedJoin.tokens d.rules = .ok countedJoinTokens := by
  have neutral : (Piece.query countedJoin).Neutral := by
    have plain : ¬ (Text.upper "COUNT" = "DATE_TRUNC" ∨ Text.upper "COUNT" = "SINGLE_VALUE") := by
      decide +kernel
    simp [countedJoin, Piece.Neutral, Piece.everywhere_iff (x := .query _),
      Piece.everywhere_iff (x := .body _), Piece.everywhere_iff (x := .select _),
      Piece.everywhere_iff (x := .expr _), Piece.everywhere_iff (x := .relation _),
      Piece.everywhere_iff (x := .join _), Piece.parts, Piece.ofExpr, Piece.ofExprs, Piece.ofSources,
      Piece.ofOption, Piece.ofConstraint, Piece.Dialectal, plain]
  refine ⟨neutral, ?_⟩
  have here : countedJoin.tokens Dialect.postgres.rules = .ok countedJoinTokens := rfl
  rcases emission_uniform neutral with ⟨ts, all⟩ | fails
  · obtain rfl : countedJoinTokens = ts := Except.ok.inj (here.symm.trans (all .postgres).1)
    exact fun d => (all d).1
  · obtain ⟨e, failed, -⟩ := fails .postgres
    cases here.symm.trans failed

end QueryBridge.Emission
