import Mathlib.Logic.Basic
import QueryBridge.Proofs.Tree.Induction

set_option autoImplicit false

namespace QueryBridge

def DataType.reword (w : String → String) : DataType → DataType
  | .array element => .array (element.reword w)
  | .unrecognized name => .unrecognized (w name)
  | .scalar t => .scalar t
  | .decimal p s => .decimal p s
  | .char n => .char n
  | .varchar n => .varchar n
  | .interval q => .interval q

mutual

def Expr.reword (w : String → String) : Expr → Expr
  | .column qualifier name => .column qualifier name
  | .literal value => .literal value
  | .binary op left right => .binary op (left.reword w) (right.reword w)
  | .not e => .not (e.reword w)
  | .neg e => .neg (e.reword w)
  | .call f args distinct => .call (w f) (rewordExprs w args) distinct
  | .keyword word => .keyword (w word)
  | .case operand branches otherwise =>
    .case (rewordOption w operand) (rewordBranches w branches) (rewordOption w otherwise)
  | .subquery q => .subquery (q.reword w)
  | .exists q negated => .exists (q.reword w) negated
  | .inList e values negated => .inList (e.reword w) (rewordExprs w values) negated
  | .inQuery e q negated => .inQuery (e.reword w) (q.reword w) negated
  | .between e low high negated => .between (e.reword w) (low.reword w) (high.reword w) negated
  | .isNull e negated => .isNull (e.reword w) negated
  | .like e pattern negated => .like (e.reword w) (pattern.reword w) negated
  | .cast e type => .cast (e.reword w) (type.reword w)
  | .index array index => .index (array.reword w) (index.reword w)
  | .array items => .array (rewordExprs w items)
  | .star qualifier => .star qualifier
  | .paren inner => .paren (inner.reword w)
  | .unsupported detail => .unsupported (w detail)

def rewordExprs (w : String → String) : List Expr → List Expr
  | [] => []
  | e :: rest => e.reword w :: rewordExprs w rest

def rewordOption (w : String → String) : Option Expr → Option Expr
  | none => none
  | some e => some (e.reword w)

def rewordBranches (w : String → String) : List (Expr × Expr) → List (Expr × Expr)
  | [] => []
  | (condition, result) :: rest => (condition.reword w, result.reword w) :: rewordBranches w rest

def SelectItem.reword (w : String → String) : SelectItem → SelectItem
  | ⟨e, label⟩ => ⟨e.reword w, label⟩

def rewordItems (w : String → String) : List SelectItem → List SelectItem
  | [] => []
  | i :: rest => i.reword w :: rewordItems w rest

def Relation.reword (w : String → String) : Relation → Relation
  | .table path label => .table path label
  | .derived q label => .derived (q.reword w) label
  | .unnest exprs label => .unnest (rewordExprs w exprs) label

def JoinConstraint.reword (w : String → String) : JoinConstraint → JoinConstraint
  | .on e => .on (e.reword w)
  | .using columns => .using columns
  | .none => .none

def Join.reword (w : String → String) : Join → Join
  | ⟨type, relation, constraint⟩ => ⟨type, relation.reword w, constraint.reword w⟩

def rewordJoins (w : String → String) : List Join → List Join
  | [] => []
  | j :: rest => j.reword w :: rewordJoins w rest

def FromItem.reword (w : String → String) : FromItem → FromItem
  | ⟨relation, joins⟩ => ⟨relation.reword w, rewordJoins w joins⟩

def rewordSources (w : String → String) : List FromItem → List FromItem
  | [] => []
  | s :: rest => s.reword w :: rewordSources w rest

def Select.reword (w : String → String) : Select → Select
  | ⟨distinct, projection, sources, selection, groupBy, having⟩ =>
    ⟨distinct, rewordItems w projection, rewordSources w sources, rewordOption w selection,
      rewordExprs w groupBy, rewordOption w having⟩

def Body.reword (w : String → String) : Body → Body
  | .select s => .select (s.reword w)
  | .setOp op all left right => .setOp op all (left.reword w) (right.reword w)
  | .query q => .query (q.reword w)

def OrderItem.reword (w : String → String) : OrderItem → OrderItem
  | ⟨e, dir, nulls⟩ => ⟨e.reword w, dir, nulls⟩

def rewordOrder (w : String → String) : List OrderItem → List OrderItem
  | [] => []
  | o :: rest => o.reword w :: rewordOrder w rest

def Cte.reword (w : String → String) : Cte → Cte
  | ⟨name, columns, query⟩ => ⟨name, columns, query.reword w⟩

def rewordCtes (w : String → String) : List Cte → List Cte
  | [] => []
  | c :: rest => c.reword w :: rewordCtes w rest

def Query.reword (w : String → String) : Query → Query
  | ⟨ctes, recursive, body, orderBy, limit, offset⟩ =>
    ⟨rewordCtes w ctes, recursive, body.reword w, rewordOrder w orderBy, rewordOption w limit,
      rewordOption w offset⟩

end

theorem DataType.reword_id (t : DataType) : t.reword id = t := by
  induction t with
  | array e ih => exact congrArg DataType.array ih
  | _ => rfl

def wordsKept : PieceProperty where
  expr e := e.reword id = e
  exprs es := rewordExprs id es = es
  option o := rewordOption id o = o
  branches bs := rewordBranches id bs = bs
  item i := i.reword id = i
  items is := rewordItems id is = is
  relation r := r.reword id = r
  constraint c := c.reword id = c
  join j := j.reword id = j
  joins js := rewordJoins id js = js
  source f := f.reword id = f
  sources fs := rewordSources id fs = fs
  select s := s.reword id = s
  body b := b.reword id = b
  order o := o.reword id = o
  orders os := rewordOrder id os = os
  cte c := c.reword id = c
  ctes cs := rewordCtes id cs = cs
  query q := q.reword id = q

theorem wordsKept_ascends : wordsKept.Ascends where
  leaf e leaf := by cases e <;> first | rfl | cases leaf
  binary op _ _ := congrArg₂ (Expr.binary op)
  not _ := congrArg Expr.not
  neg _ := congrArg Expr.neg
  call f _ d := congrArg (Expr.call f · d)
  case _ _ _ ho hbs ht := by
    change Expr.case _ _ _ = _
    rw [ho, hbs, ht]
  subquery _ := congrArg Expr.subquery
  existential _ negated := congrArg (Expr.exists · negated)
  inList _ _ negated := congrArg₂ (Expr.inList · · negated)
  inQuery _ _ negated := congrArg₂ (Expr.inQuery · · negated)
  between _ _ _ negated he hl hu := by
    change Expr.between _ _ _ _ = _
    rw [he, hl, hu]
  isNull _ negated := congrArg (Expr.isNull · negated)
  like _ _ negated := congrArg₂ (Expr.like · · negated)
  cast _ type he := congrArg₂ Expr.cast he type.reword_id
  index _ _ := congrArg₂ Expr.index
  array _ := congrArg Expr.array
  paren _ := congrArg Expr.paren
  exprsNil := rfl
  exprsCons _ _ := congrArg₂ List.cons
  optionNone := rfl
  optionSome _ := congrArg some
  branchesNil := rfl
  branchesCons _ _ _ hc ht := congrArg₂ List.cons (congrArg₂ Prod.mk hc ht)
  item _ label := congrArg (SelectItem.mk · label)
  itemsNil := rfl
  itemsCons _ _ := congrArg₂ List.cons
  table _ _ := rfl
  derived _ label := congrArg (Relation.derived · label)
  unnest _ label := congrArg (Relation.unnest · label)
  on _ := congrArg JoinConstraint.on
  usingColumns _ := rfl
  unconstrained := rfl
  join type _ _ := congrArg₂ (Join.mk type)
  joinsNil := rfl
  joinsCons _ _ := congrArg₂ List.cons
  source _ _ := congrArg₂ FromItem.mk
  sourcesNil := rfl
  sourcesCons _ _ := congrArg₂ List.cons
  select d _ _ _ _ _ hp hf hw hg hh := by
    change Select.mk d _ _ _ _ _ = _
    rw [hp, hf, hw, hg, hh]
  bodySelect _ := congrArg Body.select
  setOp op all _ _ := congrArg₂ (Body.setOp op all)
  bodyQuery _ := congrArg Body.query
  order _ dir nulls := congrArg (OrderItem.mk · dir nulls)
  ordersNil := rfl
  ordersCons _ _ := congrArg₂ List.cons
  cte name columns _ := congrArg (Cte.mk name columns)
  ctesNil := rfl
  ctesCons _ _ := congrArg₂ List.cons
  query _ r _ _ _ _ hc hb ho hl hf := by
    change Query.mk _ r _ _ _ _ = _
    rw [hc, hb, ho, hl, hf]

theorem Query.reword_id (q : Query) : q.reword id = q := wordsKept_ascends.query_holds q

section

variable {ε α β γ δ : Type}

/-- Both computations fail, or both give results that look the same. -/
def Agree {ε α β : Type} (view : α → β) (x y : Except ε α) : Prop :=
  x.toOption.map view = y.toOption.map view

variable {x x' : Except ε α} {y y' : Except ε β} {z z' : Except ε γ}

theorem Agree.refl (view : α → β) (x : Except ε α) : Agree view x x := rfl

theorem Agree.symm {view : α → β} (h : Agree view x x') : Agree view x' x := Eq.symm h

theorem Agree.trans {view : α → β} {x'' : Except ε α} (h : Agree view x x') (h' : Agree view x' x'') :
    Agree view x x'' := Eq.trans h h'

theorem Agree.ok {view : α → β} {a a' : α} (h : view a = view a') :
    Agree view (.ok a : Except ε α) (.ok a') := congrArg some h

theorem Agree.error (view : α → β) (e e' : ε) : Agree view (.error e : Except ε α) (.error e') := rfl

theorem Agree.cases {view : α → β} (h : Agree view x x') :
    (∃ e e', x = .error e ∧ x' = .error e') ∨ ∃ a a', x = .ok a ∧ x' = .ok a' ∧ view a = view a' := by
  cases x <;> cases x'
  · exact .inl ⟨_, _, rfl, rfl⟩
  · cases h
  · cases h
  · exact .inr ⟨_, _, rfl, rfl, Option.some.inj h⟩

theorem Agree.bind {v : α → γ} {u : β → δ} {f f' : α → Except ε β} (h : Agree v x x')
    (hf : ∀ a a', v a = v a' → Agree u (f a) (f' a')) : Agree u (x >>= f) (x' >>= f') := by
  rcases h.cases with ⟨e, e', rfl, rfl⟩ | ⟨a, a', rfl, rfl, same⟩
  · exact .error u e e'
  · exact hf a a' same

variable {u : α → α} {v : β → β} {w : γ → γ} {t : δ → δ}

theorem Agree.map (f : α → β) (h : Agree u x x') (hf : ∀ a, v (f a) = f (u a)) :
    Agree v (do return f (← x)) (do return f (← x')) :=
  h.bind fun a a' ha => .ok (by rw [hf, hf, ha])

theorem Agree.map₂ (f : α → β → γ) (hx : Agree u x x') (hy : Agree v y y')
    (hf : ∀ a b, w (f a b) = f (u a) (v b)) :
    Agree w (do return f (← x) (← y)) (do return f (← x') (← y')) :=
  hx.bind fun a a' ha => hy.bind fun b b' hb => .ok (by rw [hf, hf, ha, hb])

theorem Agree.map₃ (f : α → β → γ → δ) (hx : Agree u x x') (hy : Agree v y y') (hz : Agree w z z')
    (hf : ∀ a b c, t (f a b c) = f (u a) (v b) (w c)) :
    Agree t (do return f (← x) (← y) (← z)) (do return f (← x') (← y') (← z')) :=
  hx.bind fun a a' ha => hy.bind fun b b' hb => hz.bind fun c c' hc =>
    .ok (by rw [hf, hf, ha, hb, hc])

end

end QueryBridge
