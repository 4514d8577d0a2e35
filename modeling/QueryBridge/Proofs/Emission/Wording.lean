import QueryBridge.Emission.Tree
import QueryBridge.Proofs.Tree.Rewording

set_option autoImplicit false

namespace QueryBridge.Emission

open Token (space parens parensIf brackets commaList clause path)

/-- Rewording that upper case does not show. -/
structure Unshown (w : String → String) : Prop where
  upper : ∀ s, Text.upper (w s) = Text.upper s
  bare : ∀ s, isBareWord (w s) = isBareWord s

def texts (r : Rules) (ts : List Token) : List String := ts.map (·.text r)

section

variable (r : Rules)

@[simp]
theorem texts_nil : texts r [] = [] := rfl

@[simp]
theorem texts_cons (t : Token) (ts : List Token) : texts r (t :: ts) = t.text r :: texts r ts := rfl

@[simp]
theorem texts_append (ts us : List Token) : texts r (ts ++ us) = texts r ts ++ texts r us := List.map_append

@[simp]
theorem texts_parens (ts : List Token) : texts r (parens ts) = "(" :: texts r ts ++ [")"] := by
  simp [parens, Token.text, Symbol.text]

@[simp]
theorem texts_brackets (ts : List Token) : texts r (brackets ts) = "[" :: texts r ts ++ ["]"] := by
  simp [brackets, Token.text, Symbol.text]

@[simp]
theorem texts_parensIf (b : Bool) (ts : List Token) :
    texts r (parensIf b ts) = if b then "(" :: texts r ts ++ [")"] else texts r ts := by
  cases b <;> simp [parensIf]

@[simp]
theorem texts_clause (k : Keyword) (ts : List Token) :
    texts r (clause k ts) = " " :: k.text :: " " :: texts r ts := rfl

@[simp]
theorem texts_commaList (parts : List (List Token)) :
    texts r (commaList parts) = List.intercalate [",", " "] (parts.map (texts r)) := by
  unfold commaList
  induction parts with
  | nil => rfl
  | cons ts parts ih =>
    cases parts with
    | nil => simp
    | cons us parts =>
      rw [List.intercalate_cons_cons, List.map_cons, List.map_cons, List.intercalate_cons_cons, texts_append,
        texts_append, ih]
      rfl

@[simp]
theorem texts_listClause (k : Keyword) (parts : List (List Token)) :
    texts r (listClause k parts) = if (parts.map (texts r)).isEmpty then []
      else " " :: k.text :: " " :: List.intercalate [",", " "] (parts.map (texts r)) := by
  rw [listClause, List.isEmpty_map]
  split <;> simp

end

section

variable (w : String → String)

@[simp]
theorem precedence_reword (e : Expr) : (e.reword w).precedence = e.precedence := by cases e <;> rfl

@[simp]
theorem needsParensInPredicate_reword (e : Expr) :
    (e.reword w).needsParensInPredicate = e.needsParensInPredicate := by simp [Expr.needsParensInPredicate]

@[simp]
theorem needsParensAsAtom_reword (e : Expr) : (e.reword w).needsParensAsAtom = e.needsParensAsAtom := by
  simp [Expr.needsParensAsAtom]

@[simp]
theorem needsParensLeft_reword (op : BinaryOp) (e : Expr) :
    (e.reword w).needsParensLeft op = e.needsParensLeft op := by simp [Expr.needsParensLeft]

@[simp]
theorem needsParensRight_reword (op : BinaryOp) (e : Expr) :
    (e.reword w).needsParensRight op = e.needsParensRight op := by simp [Expr.needsParensRight]

@[simp]
theorem truncUnit_reword (e : Expr) : truncUnit (e.reword w) = truncUnit e := by cases e <;> rfl

theorem reword_eq_literal {w : String → String} {e : Expr} {v : Literal} :
    e.reword w = .literal v ↔ e = .literal v := by
  cases e <;> simp [Expr.reword]

theorem hasClauses_reword (q : Query) : (q.reword w).hasClauses = q.hasClauses := by
  obtain ⟨ctes, recursive, body, orderBy, limit, offset⟩ := q
  cases ctes <;> cases orderBy <;> cases limit <;> cases offset <;> rfl

theorem typeName_reword (r : Rules) (t : DataType) : Agree id (r.typeName (t.reword w)) (r.typeName t) := by
  have parameters (t : DataType) : Agree id (r.parameterTypeName (t.reword w)) (r.parameterTypeName t) := by
    induction t with
    | array e ih =>
      rcases ih.cases with ⟨_, _, he, he'⟩ | ⟨_, _, he, he', rfl⟩ <;>
        simp only [DataType.reword, Rules.parameterTypeName, he, he'] <;> rfl
    | _ => rfl
  have angles (t : DataType) : Agree id (r.angleTypeName (t.reword w)) (r.angleTypeName t) := by
    induction t with
    | array e ih =>
      rcases ih.cases with ⟨_, _, he, he'⟩ | ⟨_, _, he, he', rfl⟩ <;>
        simp only [DataType.reword, Rules.angleTypeName, he, he'] <;> rfl
    | decimal p s => cases p <;> rfl
    | _ => rfl
  unfold Rules.typeName
  split
  · exact parameters t
  · exact angles t

end

section

variable {w : String → String} (h : Unshown w) {r : Rules}

def wording (w : String → String) (r : Rules) : PieceProperty where
  expr e := Agree (texts r) ((e.reword w).tokens r) (e.tokens r)
  exprs es := ∀ e ∈ es, Agree (texts r) ((e.reword w).tokens r) (e.tokens r)
  option o := ∀ lead, Agree (texts r) (tokensOfOption r lead (rewordOption w o)) (tokensOfOption r lead o)
  branches bs := Agree (texts r) (tokensOfBranches r (rewordBranches w bs)) (tokensOfBranches r bs)
  item i := Agree (texts r) ((i.reword w).tokens r) (i.tokens r)
  items is := Agree (List.map (texts r)) (tokensOfItems r (rewordItems w is)) (tokensOfItems r is)
  relation x := Agree (texts r) ((x.reword w).tokens r) (x.tokens r)
  constraint k := Agree (texts r) ((k.reword w).tokens r) (k.tokens r)
  join j := Agree (texts r) ((j.reword w).tokens r) (j.tokens r)
  joins js := Agree (texts r) (tokensOfJoins r (rewordJoins w js)) (tokensOfJoins r js)
  source f := Agree (texts r) ((f.reword w).tokens r) (f.tokens r)
  sources fs := Agree (List.map (texts r)) (tokensOfSources r (rewordSources w fs)) (tokensOfSources r fs)
  select s := Agree (texts r) ((s.reword w).tokens r) (s.tokens r)
  body b := Agree (texts r) ((b.reword w).tokens r) (b.tokens r) ∧
    Agree (texts r) ((b.reword w).operandTokens r) (b.operandTokens r)
  order o := Agree (texts r) ((o.reword w).tokens r) (o.tokens r)
  orders os := Agree (List.map (texts r)) (tokensOfOrder r (rewordOrder w os)) (tokensOfOrder r os)
  cte k := Agree (texts r) ((k.reword w).tokens r) (k.tokens r)
  ctes ks := Agree (List.map (texts r)) (tokensOfCtes r (rewordCtes w ks)) (tokensOfCtes r ks)
  query q := Agree (texts r) ((q.reword w).tokens r) (q.tokens r) ∧
    Agree (texts r) ((q.reword w).bodyOperandTokens r) (q.bodyOperandTokens r)

theorem tokensOfExprs_reword {es : List Expr} (hes : (wording w r).exprs es) :
    Agree (List.map (texts r)) (tokensOfExprs r (rewordExprs w es)) (tokensOfExprs r es) := by
  induction es with
  | nil => exact .refl _ _
  | cons e es ih =>
    have rest := ih fun x hx => hes x (.tail _ hx)
    exact (hes e (.head _)).bind fun t t' ht => rest.bind fun ts ts' hts => .ok (by simp [ht, hts])

include h

theorem callForm_reword (f : String) : callForm r (w f) = callForm r f := by
  simp only [callForm, h.upper]

theorem text_function_reword (f : String) : (Token.function (w f)).text r = (Token.function f).text r := by
  simp only [Token.text, Rules.remapFunction, h.upper]
  cases r.functionNames.lookup (Text.upper f) with
  | none => exact h.upper f
  | some other => rfl

theorem call_reword {es : List Expr} (f : String) (distinct : Bool) (hes : (wording w r).exprs es) :
    (wording w r).expr (.call f es distinct) := by
  change Agree _ (Expr.tokens r (.call (w f) (rewordExprs w es) distinct)) (Expr.tokens r (.call f es distinct))
  rw [Expr.tokens.eq_def r (.call (w f) _ _), Expr.tokens.eq_def r (.call f _ _)]
  dsimp only
  rw [callForm_reword h]
  split
  · exact (tokensOfExprs_reword hes).bind fun ts ts' hts => .ok (by simp [text_function_reword h, hts])
  · rcases es with _ | ⟨arg, _ | ⟨_, _⟩⟩
    · exact .error _ _ _
    · cases distinct with
      | true => exact .error _ _ _
      | false => exact (hes arg (.head _)).bind fun t t' ht => .ok (by simp [singleValueTokens, ht])
    · exact .error _ _ _
  · rcases es with _ | ⟨unit, _ | ⟨operand, _ | ⟨_, _⟩⟩⟩
    · exact .error _ _ _
    · exact .error _ _ _
    · simp only [rewordExprs, truncUnit_reword]
      refine (Agree.refl id _).bind fun u _ hu => ?_
      obtain rfl : u = _ := hu
      exact (hes operand (.tail _ (.head _))).bind fun t t' ht => .ok (by simp [ht])
    · exact .error _ _ _

theorem leaf_reword {e : Expr} (leaf : e.isLeaf) : (wording w r).expr e := by
  cases e with
  | keyword word =>
    change Agree _ (Expr.tokens r (.keyword (w word))) (Expr.tokens r (.keyword word))
    rw [Expr.tokens, Expr.tokens, h.bare]
    split
    · exact .ok (by simp [Token.text, h.upper])
    · exact .error _ _ _
  | unsupported detail => exact .error _ _ _
  | column qualifier name => exact .refl _ _
  | literal value => exact .refl _ _
  | star qualifier => exact .refl _ _
  | _ => cases leaf

omit h

/-- The index keeps what decides how it is written: whether it is an integer. -/
theorem index_reword {a i : Expr} (ha : (wording w r).expr a) (hi : (wording w r).expr i) :
    (wording w r).expr (.index a i) := by
  change Agree _ (Expr.tokens r (.index (a.reword w) (i.reword w))) (Expr.tokens r (.index a i))
  rw [Expr.tokens.eq_def r (.index (a.reword w) _), Expr.tokens.eq_def r (.index a _)]
  dsimp only
  split
  · exact .error _ _ _
  · exact ha.bind fun t t' ht => hi.bind fun u u' hu => .ok (by simp [ht, hu])
  · exact ha.bind fun t t' ht => hi.bind fun u u' hu => .ok (by simp [ht, hu])
  · refine ha.bind fun t t' ht => ?_
    split
    · obtain rfl := reword_eq_literal.1 ‹_›
      exact .ok (by simp [ht])
    · rename_i other
      split
      · exact absurd rfl (other _)
      · exact hi.bind fun u u' hu => .ok (by simp [ht, hu])

theorem array_reword {es : List Expr} (hes : (wording w r).exprs es) : (wording w r).expr (.array es) := by
  change Agree _ (Expr.tokens r (.array (rewordExprs w es))) (Expr.tokens r (.array es))
  rw [Expr.tokens, Expr.tokens]
  have items := tokensOfExprs_reword hes
  split
  · exact items.bind fun ts ts' hts => .ok (by simp [hts])
  · exact items.bind fun ts ts' hts => .ok (by simp [hts])
  · exact items.bind fun ts ts' hts => .ok (by simp [hts])
  · exact .error _ _ _

theorem inList_reword {e : Expr} {es : List Expr} (negated : Bool) (he : (wording w r).expr e)
    (hes : (wording w r).exprs es) : (wording w r).expr (.inList e es negated) := by
  change Agree _ (Expr.tokens r (.inList (e.reword w) (rewordExprs w es) negated))
    (Expr.tokens r (.inList e es negated))
  have empty : (rewordExprs w es).isEmpty = es.isEmpty := by cases es <;> rfl
  rw [Expr.tokens, Expr.tokens, empty]
  split
  · exact .refl _ _
  · exact he.bind fun t t' ht => (tokensOfExprs_reword hes).bind fun ts ts' hts => .ok (by simp [ht, hts])

theorem select_reword {d : Bool} {p : List SelectItem} {f : List FromItem} {c o : Option Expr} {g : List Expr}
    (hp : (wording w r).items p) (hf : (wording w r).sources f) (hc : (wording w r).option c)
    (hg : (wording w r).exprs g) (ho : (wording w r).option o) : (wording w r).select ⟨d, p, f, c, g, o⟩ :=
  hp.bind fun tp tp' ep => hf.bind fun tf tf' ef => (hc _).bind fun tc tc' ec =>
    (tokensOfExprs_reword hg).bind fun tg tg' eg => (ho _).bind fun ts ts' es => .ok <| by
      have empty : tp.isEmpty = tp'.isEmpty := by
        rw [← List.isEmpty_map (f := texts r), ep, List.isEmpty_map]
      simp only [texts_append, texts_cons, texts_listClause, ef, ec, eg, es, empty]
      cases tp'.isEmpty <;> simp [ep]

theorem query_reword {c : List Cte} {recursive : Bool} {b : Body} {o : List OrderItem} {l f : Option Expr}
    (hc : (wording w r).ctes c) (hb : (wording w r).body b) (ho : (wording w r).orders o)
    (hl : (wording w r).option l) (hf : (wording w r).option f) :
    (wording w r).query ⟨c, recursive, b, o, l, f⟩ := by
  have limited : (rewordOption w l).isSome = l.isSome := by cases l <;> rfl
  refine ⟨?_, hb.2⟩
  change Agree _ (Query.tokens r ⟨rewordCtes w c, recursive, b.reword w, rewordOrder w o, rewordOption w l,
    rewordOption w f⟩) (Query.tokens r ⟨c, recursive, b, o, l, f⟩)
  rw [Query.tokens, Query.tokens, limited]
  refine hc.bind fun tc tc' ec => hb.1.bind fun tb tb' eb => Agree.bind ho fun ts ts' es =>
    (hl _).bind fun tl tl' el => (hf _).bind fun tf tf' ef => .ok ?_
  have empty : tc.isEmpty = tc'.isEmpty := by
    rw [← List.isEmpty_map (f := texts r), ec, List.isEmpty_map]
  simp only [texts_append, texts_listClause, eb, es, el, ef, empty]
  cases tc'.isEmpty <;> simp [ec]

theorem operand_reword {q : Query} (hq : (wording w r).query q) :
    Agree (texts r) ((Body.query (q.reword w)).operandTokens r) ((Body.query q).operandTokens r) := by
  rw [Body.operandTokens, Body.operandTokens, hasClauses_reword]
  split
  · exact hq.1.bind fun t t' ht => .ok (by simp [ht])
  · split
    · exact .error _ _ _
    · exact hq.2

theorem setOp_reword {b c : Body} (op : SetOp) (all : Bool) (hb : (wording w r).body b)
    (hc : (wording w r).body c) : (wording w r).body (.setOp op all b c) :=
  ⟨hb.2.bind fun t t' ht => hc.2.bind fun u u' hu => .ok (by simp [setOpTokens, ht, hu]),
    hb.2.bind fun t t' ht => hc.2.bind fun u u' hu => .ok (by simp [setOpTokens, ht, hu])⟩

theorem join_reword {x : Relation} {k : JoinConstraint} (type : JoinType) (hx : (wording w r).relation x)
    (hk : (wording w r).constraint k) : (wording w r).join ⟨type, x, k⟩ := by
  change Agree _ (Join.tokens r ⟨type, x.reword w, k.reword w⟩) (Join.tokens r ⟨type, x, k⟩)
  rw [Join.tokens, Join.tokens]
  split
  · exact .error _ _ _
  · exact hx.bind fun t t' ht => hk.bind fun u u' hu => .ok (by simp [ht, hu])

theorem unnest_reword {es : List Expr} (label : Option TableAlias) (hes : (wording w r).exprs es) :
    (wording w r).relation (.unnest es label) := by
  change Agree _ (Relation.tokens r (.unnest (rewordExprs w es) label)) (Relation.tokens r (.unnest es label))
  rw [Relation.tokens, Relation.tokens]
  split
  · exact (tokensOfExprs_reword hes).bind fun ts ts' hts => .ok (by simp [hts])
  · exact .error _ _ _

theorem cast_reword {e : Expr} (type : DataType) (he : (wording w r).expr e) : (wording w r).expr (.cast e type) :=
  (typeName_reword w r type).bind fun n n' hn => he.bind fun t t' ht => .ok (by
    obtain rfl : n = n' := hn
    simp [ht])

theorem wording_ascends (h : Unshown w) : (wording w r).Ascends where
  leaf e leaf := leaf_reword h leaf
  binary op l t hl ht := hl.bind fun x x' hx => ht.bind fun y y' hy => .ok (by simp [hx, hy])
  not e he := he.bind fun t t' ht => .ok (by simp [ht])
  neg e he := he.bind fun t t' ht => .ok (by simp [ht])
  call f es distinct hes := call_reword h f distinct hes
  case o bs t ho hbs ht := (ho _).bind fun x x' hx => hbs.bind fun y y' hy => (ht _).bind fun z z' hz =>
    .ok (by simp [hx, hy, hz])
  subquery q hq := hq.1.bind fun t t' ht => .ok (by simp [ht])
  existential q negated hq := hq.1.bind fun t t' ht => .ok (by simp [ht])
  inList e es negated he hes := inList_reword negated he hes
  inQuery e q negated he hq := he.bind fun x x' hx => hq.1.bind fun y y' hy => .ok (by simp [hx, hy])
  between e l u negated he hl hu := he.bind fun x x' hx => hl.bind fun y y' hy => hu.bind fun z z' hz =>
    .ok (by simp [hx, hy, hz])
  isNull e negated he := he.bind fun t t' ht => .ok (by simp [ht])
  like e p negated he hp := he.bind fun x x' hx => hp.bind fun y y' hy => .ok (by simp [hx, hy])
  cast e type he := cast_reword type he
  index a i ha hi := index_reword ha hi
  array es hes := array_reword hes
  paren e he := he.bind fun t t' ht => .ok (by simp [ht])
  exprsNil := List.forall_mem_nil _
  exprsCons e es he hes := List.forall_mem_cons.2 ⟨he, hes⟩
  optionNone lead := .refl _ _
  optionSome e he lead := he.bind fun t t' ht => .ok (by simp [ht])
  branchesNil := .refl _ _
  branchesCons c t bs hc ht hbs := hc.bind fun x x' hx => ht.bind fun y y' hy => hbs.bind fun z z' hz =>
    .ok (by simp [hx, hy, hz])
  item e label he := he.bind fun t t' ht => .ok (by simp [ht])
  itemsNil := .refl _ _
  itemsCons i is hi his := hi.bind fun x x' hx => his.bind fun y y' hy => .ok (by simp [hx, hy])
  table path label := .refl _ _
  derived q label hq := hq.1.bind fun t t' ht => .ok (by simp [ht])
  unnest es label hes := unnest_reword label hes
  on e he := he.bind fun t t' ht => .ok (by simp [ht])
  usingColumns columns := .refl _ _
  unconstrained := .refl _ _
  join type x k hx hk := join_reword type hx hk
  joinsNil := .refl _ _
  joinsCons j js hj hjs := hj.bind fun x x' hx => hjs.bind fun y y' hy => .ok (by simp [hx, hy])
  source x js hx hjs := hx.bind fun t t' ht => hjs.bind fun u u' hu => .ok (by simp [ht, hu])
  sourcesNil := .refl _ _
  sourcesCons f fs hf hfs := hf.bind fun x x' hx => hfs.bind fun y y' hy => .ok (by simp [hx, hy])
  select d p f c g o hp hf hc hg ho := select_reword hp hf hc hg ho
  bodySelect s hs := ⟨hs, hs.bind fun t t' ht => .ok (by simp [ht])⟩
  setOp op all b c hb hc := setOp_reword op all hb hc
  bodyQuery q hq := ⟨hq.1, operand_reword hq⟩
  order e dir nulls he := he.bind fun t t' ht => .ok (by simp [ht])
  ordersNil := .refl _ _
  ordersCons o os ho hos := ho.bind fun x x' hx => hos.bind fun y y' hy => .ok (by simp [hx, hy])
  cte name columns q hq := hq.1.bind fun t t' ht => .ok (by simp [ht])
  ctesNil := .refl _ _
  ctesCons k ks hk hks := hk.bind fun x x' hx => hks.bind fun y y' hy => .ok (by simp [hx, hy])
  query c recursive b o l f hc hb ho hl hf := query_reword hc hb ho hl hf

/-- Trees with the same words up to rewording have the same text in every dialect, or none. -/
theorem sql_reworded (h : Unshown w) {q q' : Query} (same : q.reword w = q'.reword w) (d : Dialect) :
    (q.sql d).toOption = (q'.sql d).toOption := by
  have agree : Agree (texts d.rules) (q.tokens d.rules) (q'.tokens d.rules) :=
    ((wording_ascends h).query_holds q).1.symm.trans (same ▸ ((wording_ascends h).query_holds q').1)
  rcases agree.cases with ⟨_, _, e, e'⟩ | ⟨ts, ts', e, e', spelling⟩
  · rw [Query.sql, Query.sql, e, e']
    rfl
  · rw [Query.sql, Query.sql, e, e']
    exact congrArg (fun parts => some (String.join parts)) spelling

end

end QueryBridge.Emission
