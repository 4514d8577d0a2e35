import QueryBridge.Proofs.Meaning.Evaluation
import QueryBridge.Proofs.Tree.Correspondence
import QueryBridge.Proofs.Tree.Walk

set_option autoImplicit false

namespace QueryBridge.Meaning

theorem hasAggregate_leaf (isAggregate : String → Bool) {e : Expr} (h : e.isLeaf) :
    hasAggregate isAggregate e = false := by
  cases e <;> first | rfl | cases h

def itemsHaveAggregate (isAggregate : String → Bool) (is : List SelectItem) : Bool :=
  is.any fun item => hasAggregate isAggregate item.expr

theorem hasAggregate_never : (∀ e, hasAggregate (fun _ => false) e = false) ∧
    (∀ bs, branchesHaveAggregate (fun _ => false) bs = false) ∧
      (∀ o, optionHasAggregate (fun _ => false) o = false) ∧
        ∀ es, haveAggregate (fun _ => false) es = false := by
  apply hasAggregate.mutual_induct
  all_goals
    intros
    simp only [hasAggregate, haveAggregate, optionHasAggregate, branchesHaveAggregate, Bool.or_self, *]

def aggregatesKept (isAggregate : String → Bool) (ρ σ : Type) : WalkProperty ρ σ where
  expr _ _ _ e e' := hasAggregate isAggregate e' = hasAggregate isAggregate e
  exprs _ _ _ es es' := haveAggregate isAggregate es' = haveAggregate isAggregate es
  option _ _ _ o o' := optionHasAggregate isAggregate o' = optionHasAggregate isAggregate o
  branches _ _ _ bs bs' := branchesHaveAggregate isAggregate bs' = branchesHaveAggregate isAggregate bs
  item _ _ _ i i' := hasAggregate isAggregate i'.expr = hasAggregate isAggregate i.expr
  items _ _ _ is is' := itemsHaveAggregate isAggregate is' = itemsHaveAggregate isAggregate is
  relation _ _ _ _ _ := True
  constraint _ _ _ _ _ := True
  join _ _ _ _ _ := True
  joins _ _ _ _ _ := True
  source _ _ _ _ _ := True
  sources _ _ _ _ _ := True
  select _ _ _ _ _ := True
  body _ _ _ _ _ := True
  order _ _ _ _ _ := True
  orders _ _ _ _ _ := True
  cte _ _ _ _ _ := True
  ctes _ _ _ _ _ := True
  query _ _ _ _ _ := True

variable {m : Type → Type} [Monad m] {σ : Type} [Outcomes m σ] {ρ : Type} {r : Rewrite m ρ}
  (isAggregate : String → Bool) (leaves : r.KeepsLeaves)

include leaves

theorem aggregatesKept_ascends : (aggregatesKept isAggregate ρ σ).Ascends r where
  leaf he hy := (hasAggregate_leaf _ (leaves he hy)).trans (hasAggregate_leaf _ he).symm
  binary hl hr := congrArg₂ or hl hr
  not he := he
  neg he := he
  call hes := congrArg (or _) hes
  case ho hbs he := congrArg₂ or (congrArg₂ or ho hbs) he
  subquery _ := rfl
  existential _ := rfl
  inList he hes := congrArg₂ or he hes
  inQuery he _ := he
  between he hl hu := congrArg₂ or (congrArg₂ or he hl) hu
  isNull he := he
  like he hp := congrArg₂ or he hp
  cast he := he
  index ha hi := congrArg₂ or ha hi
  array hes := hes
  paren he := he
  exprsNil := rfl
  exprsCons he hes := congrArg₂ or he hes
  optionNone := rfl
  optionSome he := he
  branchesNil := rfl
  branchesCons hc ht hbs := congrArg₂ or (congrArg₂ or hc ht) hbs
  item he := he
  itemsNil := rfl
  itemsCons hi his := congrArg₂ or hi his
  table _ := trivial
  derived _ _ _ := trivial
  unnest _ _ _ := trivial
  on _ := trivial
  usingColumns := trivial
  unconstrained := trivial
  join _ _ := trivial
  joinsNil := trivial
  joinsCons _ _ := trivial
  source _ _ := trivial
  sourcesNil := trivial
  sourcesCons _ _ := trivial
  select _ _ _ _ _ _ _ := trivial
  bodySelect _ := trivial
  setOp _ _ := trivial
  bodyQuery _ := trivial
  order _ := trivial
  ordersNil := trivial
  ordersCons _ _ := trivial
  cte _ := trivial
  ctesNil := trivial
  ctesCons _ _ := trivial
  query _ _ _ _ _ _ _ := trivial

theorem hasAggregate_rewrite {env : ρ} {n k : σ} {e e' : Expr} (h : Yields (e.rewrite r env) n e' k) :
    hasAggregate isAggregate e' = hasAggregate isAggregate e :=
  (aggregatesKept_ascends isAggregate leaves).pieces.expr_holds e h

theorem itemsHaveAggregate_rewriteParts {inner : ρ} {n k : σ} {a b : Select}
    (h : Yields (a.rewriteParts r inner) n b k) :
    itemsHaveAggregate isAggregate b.projection = itemsHaveAggregate isAggregate a.projection := by
  simp only [Select.rewriteParts, Outcomes.yields_bind, Outcomes.yields_pure] at h
  obtain ⟨_, _, hi, _, _, -, _, _, -, _, _, -, _, _, -, rfl, -⟩ := h
  exact (aggregatesKept_ascends isAggregate leaves).pieces.items_hold a.projection hi

theorem isGrouped_rewriteParts {inner : ρ} {n k : σ} {a b : Select}
    (h : Yields (a.rewriteParts r inner) n b k) : isGrouped isAggregate b = isGrouped isAggregate a := by
  have items := itemsHaveAggregate_rewriteParts isAggregate leaves h
  unfold itemsHaveAggregate at items
  rw [isGrouped, isGrouped, Select.groupBy_isEmpty_rewriteParts h, Select.having_isSome_rewriteParts h, items]

end QueryBridge.Meaning
