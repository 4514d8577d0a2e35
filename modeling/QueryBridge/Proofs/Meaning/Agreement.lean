import Mathlib.Data.Multiset.ZeroCons
import QueryBridge.Passes.SemiJoin
import QueryBridge.Proofs.Meaning.Evaluation
import QueryBridge.Proofs.Tree.Keeping

set_option autoImplicit false

namespace QueryBridge.Meaning

open Passes (qualifier?)

def RefersOnly {τ : Type} (p : String → Prop) : Node τ → Prop := Node.onLeaves fun _ e =>
  ∀ qualifier, qualifier? e = some qualifier → ∀ part ∈ qualifier, p part

section

variable {α : Type} {p : String → Prop}

def Scope.AgreeOn (p : String → Prop) (s s' : Scope α) : Prop :=
  ∀ qualifier : List String, (∀ part ∈ qualifier, p part) → s.owner? qualifier = s'.owner? qualifier

structure Context.AgreeOn (p : String → Prop) (c c' : Context α) : Prop where
  tables : c.tables = c'.tables
  scope : c.scope.AgreeOn p c'.scope
  group : Option.Rel (Multiset.Rel (Scope.AgreeOn p)) c.group c'.group

/-- The function has one value on contexts that agree. -/
def Respects {β : Type} (p : String → Prop) (f : Context α → β) : Prop :=
  ∀ c c', c.AgreeOn p c' → f c = f c'

theorem Scope.AgreeOn.refl (s : Scope α) : s.AgreeOn p s := fun _ _ => rfl

theorem Scope.AgreeOn.append {s s' : Scope α} (h : s.AgreeOn p s') (front : Scope α) :
    Scope.AgreeOn p (front ++ s) (front ++ s') := by
  intro qualifier hq
  have same := h qualifier hq
  unfold Scope.owner? at same ⊢
  rw [List.find?_append, List.find?_append, same]

theorem Scope.agreeOn_skip (front : Scope α) {middle : Scope α} (back : Scope α)
    (h : ∀ name ∈ middle.names, ¬ p name) :
    Scope.AgreeOn p (front ++ (middle ++ back)) (front ++ back) := by
  refine Scope.AgreeOn.append (fun qualifier hq => ?_) front
  exact Scope.owner?_append fun part hp named => h part named (hq part hp)

namespace Context.AgreeOn

variable {c c' : Context α}

theorem refl (c : Context α) : c.AgreeOn p c where
  tables := rfl
  scope := .refl c.scope
  group := by
    cases c.group with
    | none => exact .none
    | some rows => exact .some (Multiset.rel_refl_of_refl_on fun s _ => .refl s)

theorem within (h : c.AgreeOn p c') (bindings : Scope α) :
    (c.within bindings).AgreeOn p (c'.within bindings) :=
  ⟨h.tables, h.scope.append bindings, .none⟩

theorem ungrouped (h : c.AgreeOn p c') :
    Context.AgreeOn p { c with group := none } { c' with group := none } :=
  ⟨h.tables, h.scope, .none⟩

theorem withGroup (h : c.AgreeOn p c') (bindings : Scope α) (rows : Multiset (Scope α)) :
    (c.withGroup bindings rows).AgreeOn p (c'.withGroup bindings rows) where
  tables := h.tables
  scope := h.scope.append bindings
  group := .some (by
    rw [Multiset.rel_map]
    exact Multiset.rel_refl_of_refl_on fun s _ => h.scope.append s)

theorem withTable (h : c.AgreeOn p c') (name : String) (t : Table α) :
    (c.withTable name t).AgreeOn p (c'.withTable name t) where
  tables := by simp only [Context.withTable, h.tables]
  scope := h.scope
  group := h.group

end Context.AgreeOn

variable {c : Context α}

theorem within_within (bindings : Scope α) : (c.within []).within bindings = c.within bindings := rfl

theorem agreeOn_beyond {middle : Scope α} (h : ∀ name ∈ middle.names, ¬ p name)
    (front : Scope α) : (c.within (front ++ middle)).AgreeOn p (c.within front) where
  tables := rfl
  scope := by
    simp only [Context.within, List.append_assoc]
    exact Scope.agreeOn_skip front c.scope h
  group := .none

theorem agreeOn_below {middle : Scope α} (h : ∀ name ∈ middle.names, ¬ p name)
    (front : Scope α) : ((c.within middle).within front).AgreeOn p (c.within front) where
  tables := rfl
  scope := Scope.agreeOn_skip front c.scope h
  group := .none

theorem respects_const {β : Type} (b : β) : Respects (α := α) p fun _ => b := fun _ _ _ => rfl

/-- No clause but that of the sources looks at other names. -/
structure Clauses.Respect (p : String → Prop) (k : Clauses α) : Prop where
  items : ∀ wild, Respects p (k.items · wild)
  keeps : Respects p k.keeps
  key : Respects p k.key
  having : Respects p k.having
  order : Respects p k.order

theorem select_respects [DecidableEq α] {I : Interpretation α} {k : Clauses α} (hk : k.Respect p)
    (source : Source α) : Respects p (I.select k · source) := by
  intro c c' hc
  have items (b : Scope α) (wild : Record α) := hk.items wild _ _ (hc.within b)
  have keeps (b : Scope α) := hk.keeps _ _ (hc.within b)
  have key (b : Scope α) := hk.key _ _ (hc.within b)
  have order (b : Scope α) := hk.order _ _ (hc.within b)
  have groupItems (b : Scope α) (rows : Multiset (Scope α)) (wild : Record α) :=
    hk.items wild _ _ (hc.withGroup b rows)
  have groupHaving (b : Scope α) (rows : Multiset (Scope α)) := hk.having _ _ (hc.withGroup b rows)
  have groupOrder (b : Scope α) (rows : Multiset (Scope α)) := hk.order _ _ (hc.withGroup b rows)
  have groups (rows : Multiset (FromRow α)) : k.groups c rows = k.groups c' rows := by
    simp only [Clauses.groups, key]
  simp only [Interpretation.select, items, keeps, groups, order, Multiset.filter_map, Multiset.map_map,
    Function.comp_def, Interpretation.groupContext, groupItems, groupHaving, groupOrder]
  rfl

end

end QueryBridge.Meaning
