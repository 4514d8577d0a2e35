import QueryBridge.Proofs.Meaning.Agreement

set_option autoImplicit false

namespace QueryBridge.Meaning

open Passes (qualifier?)

section

variable {τ : Type} {p : String → Prop}

def AllRefer (p : String → Prop) (L : List (Node τ)) : Prop := ∀ x ∈ L, RefersOnly p x

theorem allRefer_append {L M : List (Node τ)} : AllRefer p (L ++ M) ↔ AllRefer p L ∧ AllRefer p M :=
  List.forall_mem_append

theorem allRefer_cons {x : Node τ} {L : List (Node τ)} :
    AllRefer p (x :: L) ↔ RefersOnly p x ∧ AllRefer p L := List.forall_mem_cons

theorem AllRefer.mono {p' : String → Prop} {L M : List (Node τ)} (h : AllRefer p M)
    (hL : L ⊆ M) (hp : ∀ name, p name → p' name) : AllRefer p' L := by
  intro x hx
  have refers := h x (hL hx)
  cases x with
  | leaf t e => exact fun qualifier hq part hpart => hp part (refers qualifier hq part hpart)
  | _ => trivial

end

variable {α : Type} [DecidableEq α] {τ : Type}

def respecting (I : Interpretation α) (p : String → Prop) (v : Scoping τ) : PieceProperty where
  expr e := ∀ t, AllRefer p (e.nodes v t) → Respects p (evalExpr I e)
  exprs es := ∀ t, AllRefer p (nodesOfExprs v t es) → Respects p (evalExprs I es)
  option o := ∀ t, AllRefer p (nodesOfOption v t o) → Respects p (evalOption I o)
  branches bs := ∀ t, AllRefer p (nodesOfBranches v t bs) → Respects p (evalBranches I bs)
  item i := ∀ t, AllRefer p (i.nodes v t) → ∀ wild, Respects p (evalItem I i · wild)
  items is := ∀ t, AllRefer p (nodesOfItems v t is) → ∀ wild, Respects p (evalItems I is · wild)
  relation r := ∀ t, AllRefer p (r.nodes v t) → ∀ left, Respects p (evalRelation I r · left)
  constraint k := ∀ t, AllRefer p (k.nodes v t) → Respects p (evalConstraint I k)
  join j := ∀ t, AllRefer p (j.nodes v t) → ∀ left source, Respects p (evalJoin I j · left source)
  joins js := ∀ t, AllRefer p (nodesOfJoins v t js) →
    ∀ left source, Respects p (evalJoins I js · left source)
  source f := ∀ t, AllRefer p (f.nodes v t) → ∀ left, Respects p (evalFromItem I f · left)
  sources fs := ∀ t, AllRefer p (nodesOfSources v t fs) → ∀ source, Respects p (evalSources I fs · source)
  select s := ∀ t, AllRefer p (s.nodes v t) → ∀ order, Respects p order →
    Respects p (evalSelect I s · order)
  body b := ∀ t, AllRefer p (b.nodes v t) → ∀ order, Respects p order → Respects p (evalBody I b · order)
  order o := ∀ t, AllRefer p (o.nodes v t) → Respects p (evalOrderItem I o)
  orders os := ∀ t, AllRefer p (nodesOfOrder v t os) → Respects p (evalOrder I os)
  cte k := ∀ t, AllRefer p (k.nodes v t) → ∀ recursive c c', c.AgreeOn p c' →
    (evalCte I k recursive c).AgreeOn p (evalCte I k recursive c')
  ctes ks := ∀ t, AllRefer p (nodesOfCtes v t ks) → ∀ recursive c c', c.AgreeOn p c' →
    (evalCtes I ks recursive c).AgreeOn p (evalCtes I ks recursive c')
  query q := ∀ t, AllRefer p (q.nodes v t) → Respects p (evalQuery I q)

section

variable {I : Interpretation α} {p : String → Prop} {v : Scoping τ}

theorem respecting_leaf {e : Expr} (he : e.isLeaf) {t : τ} (h : AllRefer p (e.nodes v t)) :
    Respects p (evalExpr I e) := by
  intro c c' hc
  have refers : RefersOnly p (.leaf t e) := by
    rw [Expr.nodes_leaf v he] at h
    exact h _ List.mem_cons_self
  cases e with
  | column qualifier name =>
    simp only [evalExpr, Interpretation.column, hc.scope qualifier (refers qualifier rfl)]
  | star qualifier =>
    simp only [evalExpr, Interpretation.wholeRow, hc.scope qualifier (refers qualifier rfl)]
  | literal | keyword | unsupported => simp only [evalExpr]
  | _ => cases he

theorem respecting_call {f : String} {es : List Expr} {distinct : Bool}
    (h : Respects p (evalExprs I es)) : Respects p (evalExpr I (.call f es distinct)) := by
  intro c c' hc
  have args := h c c' hc
  obtain ⟨tables, scope, group⟩ := c
  obtain ⟨tables', scope', group'⟩ := c'
  obtain ⟨rfl, -, hg⟩ := hc
  cases hg with
  | none => simp only [evalExpr, args]
  | @some rows rows' hrows =>
    have lists : (rows.map fun s => evalExprs I es { tables := tables, scope := s, group := none }) =
        rows'.map fun s => evalExprs I es { tables := tables, scope := s, group := none } := by
      rw [← Multiset.rel_eq, Multiset.rel_map]
      exact hrows.mono fun s _ s' _ agree => h _ _ ⟨rfl, agree, .none⟩
    simp only [evalExpr, args, lists]

omit [DecidableEq α] in
theorem starRecord_agreeOn {e : Expr} {t : τ} (h : AllRefer p (e.nodes v t)) {s s' : Scope α}
    (hs : s.AgreeOn p s') (wild : Record α) : starRecord s wild e = starRecord s' wild e := by
  cases e with
  | star qualifier =>
    have refers : RefersOnly p (Node.leaf t (.star qualifier)) := h _ List.mem_cons_self
    cases qualifier with
    | nil => rfl
    | cons part parts => simp only [starRecord, hs _ (refers _ rfl)]
  | _ => rfl

theorem respecting_ascends : (respecting I p v).Ascends where
  leaf _ he _ h := respecting_leaf he h
  binary op l r hl hr t h c c' hc := by
    obtain ⟨l', r'⟩ := allRefer_append.1 h
    simp only [evalExpr, hl t l' c c' hc, hr t r' c c' hc]
  not e he t h c c' hc := by simp only [evalExpr, he t h c c' hc]
  neg e he t h c c' hc := by simp only [evalExpr, he t h c c' hc]
  call f es d hes t h := respecting_call (hes t h)
  case o bs e ho hbs he t h c c' hc := by
    obtain ⟨o', h⟩ := allRefer_append.1 h
    obtain ⟨bs', e'⟩ := allRefer_append.1 h
    simp only [evalExpr, ho t o' c c' hc, hbs t bs' c c' hc, he t e' c c' hc]
  subquery q hq t h c c' hc := by simp only [evalExpr, hq t h c c' hc]
  existential q negated hq t h c c' hc := by simp only [evalExpr, hq t h c c' hc]
  inList e es negated he hes t h c c' hc := by
    obtain ⟨e', es'⟩ := allRefer_append.1 h
    simp only [evalExpr, he t e' c c' hc, hes t es' c c' hc]
  inQuery e q negated he hq t h c c' hc := by
    obtain ⟨e', q'⟩ := allRefer_append.1 h
    simp only [evalExpr, he t e' c c' hc, hq t q' c c' hc]
  between e l u negated he hl hu t h c c' hc := by
    obtain ⟨e', h⟩ := allRefer_append.1 h
    obtain ⟨l', u'⟩ := allRefer_append.1 h
    simp only [evalExpr, he t e' c c' hc, hl t l' c c' hc, hu t u' c c' hc]
  isNull e negated he t h c c' hc := by simp only [evalExpr, he t h c c' hc]
  like e pattern negated he hp t h c c' hc := by
    obtain ⟨e', p'⟩ := allRefer_append.1 h
    simp only [evalExpr, he t e' c c' hc, hp t p' c c' hc]
  cast e type he t h c c' hc := by simp only [evalExpr, he t h c c' hc]
  index a i ha hi t h c c' hc := by
    obtain ⟨a', i'⟩ := allRefer_append.1 h
    simp only [evalExpr, ha t a' c c' hc, hi t i' c c' hc]
  array es hes t h c c' hc := by simp only [evalExpr, hes t h c c' hc]
  paren e he t h c c' hc := by simp only [evalExpr, he t h c c' hc]
  exprsNil t h c c' hc := by simp only [evalExprs]
  exprsCons e es he hes t h c c' hc := by
    obtain ⟨e', es'⟩ := allRefer_append.1 h
    simp only [evalExprs, he t e' c c' hc, hes t es' c c' hc]
  optionNone t h c c' hc := by simp only [evalOption]
  optionSome e he t h c c' hc := by simp only [evalOption, he t h c c' hc]
  branchesNil t h c c' hc := by simp only [evalBranches]
  branchesCons k e bs hk he hbs t h c c' hc := by
    obtain ⟨k', h⟩ := allRefer_append.1 h
    obtain ⟨e', bs'⟩ := allRefer_append.1 h
    simp only [evalBranches, hk t k' c c' hc, he t e' c c' hc, hbs t bs' c c' hc]
  item e label he t h wild c c' hc := by
    cases label with
    | some name => simp only [evalItem, he t h c c' hc]
    | none => simp only [evalItem, he t h c c' hc, starRecord_agreeOn h hc.scope wild]
  itemsNil t h wild c c' hc := by simp only [evalItems]
  itemsCons i is hi his t h wild c c' hc := by
    obtain ⟨i', is'⟩ := allRefer_append.1 h
    simp only [evalItems, hi t i' wild c c' hc, his t is' wild c c' hc]
  table path label t h left c c' hc := by simp only [evalRelation, hc.tables]
  derived q label hq t h left c c' hc := by
    simp only [evalRelation, hq t (allRefer_cons.1 h).2 c c' hc]
  unnest es label hes t h left c c' hc := by
    simp only [evalRelation, hes t (allRefer_cons.1 h).2 _ _ (hc.within left)]
  on e he t h c c' hc := by
    funext l r
    simp only [evalConstraint, he t h _ _ (hc.within _)]
  usingColumns columns t h c c' hc := by
    funext l r
    simp only [evalConstraint]
  unconstrained t h c c' hc := by
    funext l r
    simp only [evalConstraint]
  join type r k hr hk t h left source c c' hc := by
    obtain ⟨r', k'⟩ := allRefer_append.1 h
    have right (l : FromRow α) : evalRelation I r c (l.bindings ++ left) =
        evalRelation I r c' (l.bindings ++ left) := hr t r' _ c c' hc
    simp only [evalJoin, right, hk t k' c c' hc]
  joinsNil t h left source c c' hc := by simp only [evalJoins]
  joinsCons j js hj hjs t h left source c c' hc := by
    obtain ⟨j', js'⟩ := allRefer_append.1 h
    simp only [evalJoins, hj t j' left source c c' hc, hjs t js' left _ c c' hc]
  source r js hr hjs t h left c c' hc := by
    obtain ⟨r', js'⟩ := allRefer_append.1 h
    simp only [evalFromItem, hr t r' left c c' hc, hjs t js' left _ c c' hc]
  sourcesNil t h source c c' hc := by simp only [evalSources]
  sourcesCons f fs hf hfs t h source c c' hc := by
    obtain ⟨f', fs'⟩ := allRefer_append.1 h
    have right (l : FromRow α) : evalFromItem I f c l.bindings = evalFromItem I f c' l.bindings :=
      hf t f' _ c c' hc
    simp only [evalSources, right, hfs t fs' _ c c' hc]
  select d is fs w g k his hfs hw hg hk t h order ho c c' hc := by
    obtain ⟨is', h⟩ := allRefer_append.1 (allRefer_cons.1 h).2
    obtain ⟨fs', h⟩ := allRefer_append.1 h
    obtain ⟨w', h⟩ := allRefer_append.1 h
    obtain ⟨g', k'⟩ := allRefer_append.1 h
    have clauses := select_respects (I := I) (k :=
      { distinct := d, grouped := isGrouped I.isAggregate ⟨d, is, fs, w, g, k⟩, whole := g.isEmpty
        items := fun c wild => evalItems I is c wild, keeps := fun c => I.holds (evalOption I w c)
        key := fun c => evalExprs I g c, having := fun c => I.holds (evalOption I k c), order := order })
      ⟨his _ is', fun c c' hc => by simp only [hw _ w' c c' hc], hg _ g',
        fun c c' hc => by simp only [hk _ k' c c' hc], ho⟩
    simp only [evalSelect, hfs _ fs' _ c c' hc]
    exact clauses _ c c' hc
  bodySelect s hs t h order ho c c' hc := by simp only [evalBody, hs t h order ho c c' hc]
  setOp op all l r hl hr t h order ho c c' hc := by
    obtain ⟨l', r'⟩ := allRefer_append.1 h
    simp only [evalBody, hl t l' _ (respects_const []) c c' hc, hr t r' _ (respects_const []) c c' hc,
      ho c c' hc]
  bodyQuery q hq t h order ho c c' hc := by simp only [evalBody, hq t h c c' hc, ho c c' hc]
  order e dir nulls he t h c c' hc := by simp only [evalOrderItem, he t h c c' hc]
  ordersNil t h c c' hc := by simp only [evalOrder]
  ordersCons o os ho hos t h c c' hc := by
    obtain ⟨o', os'⟩ := allRefer_append.1 h
    simp only [evalOrder, ho t o' c c' hc, hos t os' c c' hc]
  cte name columns q hq t h recursive c c' hc := by
    have table (r : Table α) : evalQuery I q (c.withTable name r) = evalQuery I q (c'.withTable name r) :=
      hq t h _ _ (hc.withTable name r)
    simp only [evalCte, table, hq t h c c' hc]
    exact hc.withTable name _
  ctesNil t h recursive c c' hc := by simpa only [evalCtes] using hc
  ctesCons k ks hk hks t h recursive c c' hc := by
    obtain ⟨k', ks'⟩ := allRefer_append.1 h
    simp only [evalCtes]
    exact hks t ks' recursive _ _ (hk t k' recursive c c' hc)
  query ks r b os l f hks hb hos hl hf t h c c' hc := by
    obtain ⟨ks', h⟩ := allRefer_append.1 (allRefer_cons.1 h).2
    obtain ⟨b', h⟩ := allRefer_append.1 h
    obtain ⟨os', h⟩ := allRefer_append.1 h
    obtain ⟨l', f'⟩ := allRefer_append.1 h
    have inner := hks _ ks' r _ _ hc.ungrouped
    simp only [evalQuery, hb _ b' _ (hos _ os') _ _ inner, hl _ l' _ _ inner, hf _ f' _ _ inner]

end

end QueryBridge.Meaning
