import QueryBridge.Proofs.Tree.Keeping
import QueryBridge.Proofs.Tree.Sightings
import QueryBridge.Tree.Nodes

set_option autoImplicit false

/-! Two trees that become equal once certain fields are erased differ in these fields only. The fields
are qualifiers, labels of projections, and aliases of derived tables and unnested arrays. Erasing
goes its own way through the tree, so that a clause lost or moved by a walk shows. How a field
changes is said leaf by leaf, in the order of the walk. -/

namespace QueryBridge

/-- What is left of each of the fields. -/
structure Erasure where
  column : List String → List String := id
  star : List String → List String := id
  label : Option String → Option String := id
  derived : TableAlias → TableAlias := id
  unnest : TableAlias → TableAlias := id

section

variable (E : Erasure)

mutual

def Expr.erase : Expr → Expr
  | .column qualifier name => .column (E.column qualifier) name
  | .literal value => .literal value
  | .binary op left right => .binary op left.erase right.erase
  | .not e => .not e.erase
  | .neg e => .neg e.erase
  | .call f args distinct => .call f (eraseExprs args) distinct
  | .keyword word => .keyword word
  | .case operand branches otherwise =>
    .case (eraseOption operand) (eraseBranches branches) (eraseOption otherwise)
  | .subquery q => .subquery q.erase
  | .exists q negated => .exists q.erase negated
  | .inList e values negated => .inList e.erase (eraseExprs values) negated
  | .inQuery e q negated => .inQuery e.erase q.erase negated
  | .between e low high negated => .between e.erase low.erase high.erase negated
  | .isNull e negated => .isNull e.erase negated
  | .like e pattern negated => .like e.erase pattern.erase negated
  | .cast e type => .cast e.erase type
  | .index array index => .index array.erase index.erase
  | .array items => .array (eraseExprs items)
  | .star qualifier => .star (E.star qualifier)
  | .paren e => .paren e.erase
  | .unsupported detail => .unsupported detail

def eraseExprs : List Expr → List Expr
  | [] => []
  | e :: rest => e.erase :: eraseExprs rest

def eraseOption : Option Expr → Option Expr
  | none => none
  | some e => some e.erase

def eraseBranches : List (Expr × Expr) → List (Expr × Expr)
  | [] => []
  | (condition, result) :: rest => (condition.erase, result.erase) :: eraseBranches rest

def SelectItem.erase : SelectItem → SelectItem
  | ⟨e, label⟩ => ⟨e.erase, E.label label⟩

def eraseItems : List SelectItem → List SelectItem
  | [] => []
  | i :: rest => i.erase :: eraseItems rest

def Relation.erase : Relation → Relation
  | .table path label => .table path label
  | .derived q label => .derived q.erase (label.map E.derived)
  | .unnest exprs label => .unnest (eraseExprs exprs) (label.map E.unnest)

def JoinConstraint.erase : JoinConstraint → JoinConstraint
  | .on e => .on e.erase
  | .using columns => .using columns
  | .none => .none

def Join.erase : Join → Join
  | ⟨type, relation, constraint⟩ => ⟨type, relation.erase, constraint.erase⟩

def eraseJoins : List Join → List Join
  | [] => []
  | j :: rest => j.erase :: eraseJoins rest

def FromItem.erase : FromItem → FromItem
  | ⟨relation, joins⟩ => ⟨relation.erase, eraseJoins joins⟩

def eraseSources : List FromItem → List FromItem
  | [] => []
  | i :: rest => i.erase :: eraseSources rest

def Select.erase : Select → Select
  | ⟨distinct, projection, sources, selection, groupBy, having⟩ =>
    ⟨distinct, eraseItems projection, eraseSources sources, eraseOption selection, eraseExprs groupBy,
      eraseOption having⟩

def Body.erase : Body → Body
  | .select s => .select s.erase
  | .setOp op all left right => .setOp op all left.erase right.erase
  | .query q => .query q.erase

def OrderItem.erase : OrderItem → OrderItem
  | ⟨e, dir, nulls⟩ => ⟨e.erase, dir, nulls⟩

def eraseOrder : List OrderItem → List OrderItem
  | [] => []
  | o :: rest => o.erase :: eraseOrder rest

def Cte.erase : Cte → Cte
  | ⟨name, columns, query⟩ => ⟨name, columns, query.erase⟩

def eraseCtes : List Cte → List Cte
  | [] => []
  | c :: rest => c.erase :: eraseCtes rest

def Query.erase : Query → Query
  | ⟨ctes, recursive, body, orderBy, limit, offset⟩ =>
    ⟨eraseCtes ctes, recursive, body.erase, eraseOrder orderBy, eraseOption limit, eraseOption offset⟩

end

theorem Select.erase_eq (s : Select) : s.erase E =
    ⟨s.distinct, eraseItems E s.projection, eraseSources E s.sources, eraseOption E s.selection,
      eraseExprs E s.groupBy, eraseOption E s.having⟩ := by
  cases s; rfl

theorem Query.erase_eq (q : Query) : q.erase E =
    ⟨eraseCtes E q.ctes, q.recursive, q.body.erase E, eraseOrder E q.orderBy, eraseOption E q.limit,
      eraseOption E q.offset⟩ := by
  cases q; rfl

end

theorem erase_mapLeftmost (E : Erasure) (f : Select → Select) :
    (∀ b : Body, (f b.leftmost).erase E = b.leftmost.erase E → (b.mapLeftmost f).erase E = b.erase E) ∧
    (∀ q : Query, (f q.leftmost).erase E = q.leftmost.erase E → (q.mapLeftmost f).erase E = q.erase E) := by
  refine leftEnd_induction ?select ?setOp ?query ?body
  case select => exact fun s alike => congrArg Body.select alike
  case setOp =>
    exact fun op all left right ih alike => congrArg (Body.setOp op all · (right.erase E)) (ih alike)
  case query => exact fun q ih alike => congrArg Body.query (ih alike)
  case body =>
    intro ctes recursive body orderBy limit offset ih alike
    have same := ih alike
    rw [Query.mapLeftmost, Query.erase, Query.erase, same]

section

variable {m : Type → Type} [Monad m] {σ : Type} [Outcomes m σ] {ρ : Type}

/-- The hooks change nothing but fields that are erased. -/
structure Rewrite.Spares (r : Rewrite m ρ) (E : Erasure) : Prop where
  leaf : ∀ {env n k e e'}, Yields (r.leaf env e) n e' k → e'.erase E = e.erase E
  relation : ∀ {env n k a b}, Yields (r.leaveRelation env a) n b k → b.erase E = a.erase E
  select : ∀ {env n k a b}, Yields (r.leaveSelect env a) n b k → b.erase E = a.erase E
  query : ∀ {env n k before a b}, Yields (r.leaveQuery env before a) n b k → b.erase E = a.erase E

def erasedAlike (E : Erasure) : WalkProperty ρ σ where
  expr _ _ _ a b := b.erase E = a.erase E
  exprs _ _ _ a b := eraseExprs E b = eraseExprs E a
  option _ _ _ a b := eraseOption E b = eraseOption E a
  branches _ _ _ a b := eraseBranches E b = eraseBranches E a
  item _ _ _ a b := b.erase E = a.erase E
  items _ _ _ a b := eraseItems E b = eraseItems E a
  relation _ _ _ a b := b.erase E = a.erase E
  constraint _ _ _ a b := b.erase E = a.erase E
  join _ _ _ a b := b.erase E = a.erase E
  joins _ _ _ a b := eraseJoins E b = eraseJoins E a
  source _ _ _ a b := b.erase E = a.erase E
  sources _ _ _ a b := eraseSources E b = eraseSources E a
  select _ _ _ a b := b.erase E = a.erase E
  body _ _ _ a b := b.erase E = a.erase E
  order _ _ _ a b := b.erase E = a.erase E
  orders _ _ _ a b := eraseOrder E b = eraseOrder E a
  cte _ _ _ a b := b.erase E = a.erase E
  ctes _ _ _ a b := eraseCtes E b = eraseCtes E a
  query _ _ _ a b := b.erase E = a.erase E

variable {r : Rewrite m ρ} {E : Erasure} (h : r.Spares E)

include h

theorem Rewrite.Spares.ascends : (erasedAlike E).Ascends r where
  leaf _ hy := h.leaf hy
  binary {env n j k op l t l' t'} := congrArg₂ (Expr.binary op)
  not := congrArg Expr.not
  neg := congrArg Expr.neg
  call {env n k f es d es'} := congrArg (Expr.call f · d)
  case ho hbs := congr (congrArg₂ Expr.case ho hbs)
  subquery := congrArg Expr.subquery
  existential {env n k q negated q'} := congrArg (Expr.exists · negated)
  inList {env n j k e es negated e' es'} := congrArg₂ (Expr.inList · · negated)
  inQuery {env n j k e q negated e' q'} := congrArg₂ (Expr.inQuery · · negated)
  between {env n i j k e l u negated e' l' u'} he hl :=
    congr (congrArg₂ (fun e l u => Expr.between e l u negated) he hl)
  isNull {env n k e negated e'} := congrArg (Expr.isNull · negated)
  like {env n j k e p negated e' p'} := congrArg₂ (Expr.like · · negated)
  cast {env n k e type e'} := congrArg (Expr.cast · type)
  index := congrArg₂ Expr.index
  array := congrArg Expr.array
  paren := congrArg Expr.paren
  exprsNil := rfl
  exprsCons := congrArg₂ List.cons
  optionNone := rfl
  optionSome := congrArg some
  branchesNil := rfl
  branchesCons hc ht := congrArg₂ List.cons (congrArg₂ Prod.mk hc ht)
  item {env n k e label e'} := congrArg (SelectItem.mk · (E.label label))
  itemsNil := rfl
  itemsCons := congrArg₂ List.cons
  table hy := h.relation hy
  derived {env n j k q label q' b} _ hq hy :=
    (h.relation hy).trans (congrArg (Relation.derived · (label.map E.derived)) hq)
  unnest {env n j k es label es' b} _ hes hy :=
    (h.relation hy).trans (congrArg (Relation.unnest · (label.map E.unnest)) hes)
  on := congrArg JoinConstraint.on
  usingColumns := rfl
  unconstrained := rfl
  join {env n j k type a c a' c'} := congrArg₂ (Join.mk type)
  joinsNil := rfl
  joinsCons := congrArg₂ List.cons
  source := congrArg₂ FromItem.mk
  sourcesNil := rfl
  sourcesCons := congrArg₂ List.cons
  select {env n i₁ i₂ i₃ i₄ j k a a' b} := by
    intro inner ha hp hf hw hg ht hb
    refine (h.select hb).trans ?_
    rw [Select.erase_eq, Select.erase_eq, Select.distinct_rewriteParts ha]
    exact congr (congr (congr (congrArg₂ (Select.mk a.distinct) hp hf) hw) hg) ht
  bodySelect := congrArg Body.select
  setOp {env n j k op all l t l' t'} := congrArg₂ (Body.setOp op all)
  bodyQuery := congrArg Body.query
  order {env n k e dir nulls e'} := congrArg (OrderItem.mk · dir nulls)
  ordersNil := rfl
  ordersCons := congrArg₂ List.cons
  cte {env n k name columns q q'} := congrArg (Cte.mk name columns)
  ctesNil := rfl
  ctesCons := congrArg₂ List.cons
  query {env n i₁ i₂ i₃ i₄ j k a a' b} := by
    intro inner ha hc hd ho hl hf hb
    refine (h.query hb).trans ?_
    rw [Query.erase_eq, Query.erase_eq, Query.recursive_rewriteParts ha]
    exact congr (congr (congr (congrArg₂ (Query.mk · a.recursive) hc hd) ho) hl) hf

theorem Rewrite.Spares.query_alike {env : ρ} {n k : σ} {q q' : Query} (hy : Yields (q.rewrite r env) n q' k) :
    q'.erase E = q.erase E :=
  h.ascends.pieces.query_holds q hy

theorem Rewrite.Spares.select_alike {env : ρ} {n k : σ} {s s' : Select}
    (hy : Yields (s.rewrite r env) n s' k) : s'.erase E = s.erase E :=
  h.ascends.pieces.select_holds s hy

theorem Rewrite.Spares.order_alike {env : ρ} {n k : σ} {os os' : List OrderItem}
    (hy : Yields (rewriteOrder r env os) n os' k) : eraseOrder E os' = eraseOrder E os :=
  h.ascends.pieces.orders_hold os hy

end

theorem forall₂_trans {α : Type} {R : α → α → Prop} (trans : ∀ {a b c}, R a b → R b c → R a c)
    {as bs cs : List α} (h : List.Forall₂ R as bs) (h' : List.Forall₂ R bs cs) : List.Forall₂ R as cs := by
  induction h generalizing cs with
  | nil => exact h'
  | cons one _ ih =>
    cases h' with
    | cons one' rest => exact .cons (trans one one') (ih rest)

def leavesAmong (nodes : List (Node Unit)) : List Expr := (nodes.filterMap Node.occurrence?).map (·.2)

theorem leavesAmong_append (xs ys : List (Node Unit)) :
    leavesAmong (xs ++ ys) = leavesAmong xs ++ leavesAmong ys := by
  rw [leavesAmong, List.filterMap_append, List.map_append]
  rfl

/-- The leaves before and after are related one by one. -/
def Leafwise (R : Expr → Expr → Prop) (before after : List (Node Unit)) : Prop :=
  List.Forall₂ R (leavesAmong before) (leavesAmong after)

section

variable {R : Expr → Expr → Prop} {xs ys zs xs' ys' : List (Node Unit)}

theorem Leafwise.of_eq (refl : ∀ e, R e e) (same : leavesAmong ys = leavesAmong xs) : Leafwise R xs ys := by
  rw [Leafwise, same, List.forall₂_same]
  exact fun e _ => refl e

theorem Leafwise.append (h : Leafwise R xs ys) (h' : Leafwise R xs' ys') :
    Leafwise R (xs ++ xs') (ys ++ ys') := by
  rw [Leafwise, leavesAmong_append, leavesAmong_append]
  exact forall₂_append h h'

theorem Leafwise.trans (trans : ∀ {a b c}, R a b → R b c → R a c) (h : Leafwise R xs ys)
    (h' : Leafwise R ys zs) : Leafwise R xs zs :=
  forall₂_trans (R := R) trans h h'

end

section

variable {m : Type → Type} [Monad m] {σ : Type} [Outcomes m σ] {ρ : Type}

/-- Hooks that make a related leaf of each leaf and keep the leaves in their order. -/
structure Rewrite.RelatesLeaves (r : Rewrite m ρ) (R : Expr → Expr → Prop) : Prop where
  leaf : ∀ {env n k e e'}, e.isLeaf → Yields (r.leaf env e) n e' k → e'.isLeaf ∧ R e e'
  relation : ∀ {env n k a b}, Yields (r.leaveRelation env a) n b k →
    Leafwise R (a.nodes .unscoped ()) (b.nodes .unscoped ())
  select : ∀ {env n k a b}, Yields (r.leaveSelect env a) n b k →
    Leafwise R (a.nodes .unscoped ()) (b.nodes .unscoped ())
  query : ∀ {env n k before a b}, Yields (r.leaveQuery env before a) n b k →
    Leafwise R (a.nodes .unscoped ()) (b.nodes .unscoped ())

theorem Rewrite.RelatesLeaves.keeps {r : Rewrite m ρ} {R : Expr → Expr → Prop} (h : r.RelatesLeaves R)
    (trans : ∀ {a b c}, R a b → R b c → R a c) :
    r.Keeps .unscoped (fun _ (_ _ : σ) L L' => Leafwise R (L ()) (L' ())) where
  nil := .nil
  append := Leafwise.append
  leaf {env n k e e'} he hy := by
    have related := h.leaf he hy
    change Leafwise R [.leaf () e] (e'.nodes .unscoped ())
    rw [Expr.nodes_leaf _ related.1]
    exact .cons related.2 .nil
  relation {env n j k a a' b} _ parts hy := by
    have walked : Leafwise R (a.nodes .unscoped ()) (a'.nodes .unscoped ()) := by
      rw [Relation.nodes_eq, Relation.nodes_eq]
      exact parts
    exact walked.trans trans (h.relation hy)
  select {env n j k a a' b} _ parts hy := by
    have walked : Leafwise R (a.nodes .unscoped ()) (a'.nodes .unscoped ()) := by
      rw [Select.nodes_eq, Select.nodes_eq]
      exact parts
    exact walked.trans trans (h.select hy)
  query {env n j k a a' b} _ parts hy := by
    have walked : Leafwise R (a.nodes .unscoped ()) (a'.nodes .unscoped ()) := by
      rw [Query.nodes_eq, Query.nodes_eq]
      exact parts
    exact walked.trans trans (h.query hy)

theorem Rewrite.RelatesLeaves.query_leaves {r : Rewrite m ρ} {R : Expr → Expr → Prop} (h : r.RelatesLeaves R)
    (trans : ∀ {a b c}, R a b → R b c → R a c) {env : ρ} {n k : σ} {q q' : Query}
    (hy : Yields (q.rewrite r env) n q' k) : List.Forall₂ R q.leaves q'.leaves :=
  (h.keeps trans).ascends.pieces.query_holds q hy

end

end QueryBridge
