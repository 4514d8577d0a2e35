import Mathlib.Data.Multiset.Bind
import Mathlib.Data.Multiset.Dedup
import Mathlib.Data.Multiset.Filter
import QueryBridge.Tree.Basic

set_option autoImplicit false

namespace QueryBridge.Meaning

inductive Value (α : Type) where
  | null
  | bool (b : Bool)
  | datum (a : α)
  deriving DecidableEq

abbrev Record (α : Type) := List (String × Value α)

abbrev Scope (α : Type) := List (String × Record α)

abbrev Truth := Option Bool

namespace Truth

def and : Truth → Truth → Truth
  | some false, _ | _, some false => some false
  | some true, some true => some true
  | _, _ => none

def or : Truth → Truth → Truth
  | some true, _ | _, some true => some true
  | some false, some false => some false
  | _, _ => none

def not : Truth → Truth := Option.map Bool.not

def any (ts : List Truth) : Truth := ts.foldr or (some false)

def negate (negated : Bool) (t : Truth) : Truth := if negated then t.not else t

theorem and_eq_true {t u : Truth} : t.and u = some true ↔ t = some true ∧ u = some true := by
  rcases t with _ | _ | _ <;> rcases u with _ | _ | _ <;> simp [and]

end Truth

variable {α : Type}

def Value.ofTruth : Truth → Value α
  | some b => .bool b
  | none => .null

/-- A comparison with NULL is UNKNOWN. -/
def Value.equals [DecidableEq α] : Value α → Value α → Truth
  | .null, _ | _, .null => none
  | v, w => some (decide (v = w))

theorem Value.equals_eq_true [DecidableEq α] {v w : Value α} :
    v.equals w = some true ↔ v = w ∧ v ≠ .null := by
  cases v <;> cases w <;> simp [equals]

def Value.isAmong [DecidableEq α] (v : Value α) (values : List (Value α)) : Truth :=
  Truth.any (values.map v.equals)

def Record.cell (r : Record α) (column : String) : Value α := (r.lookup column).getD .null

def Record.rename : List String → Record α → Record α
  | column :: columns, (_, v) :: r => (column, v) :: rename columns r
  | _, r => r

/-- The nearest relation whose name is part of the qualifier. -/
def Scope.owner? (scope : Scope α) (qualifier : List String) : Option (String × Record α) :=
  scope.find? fun b => qualifier.contains b.1

def Scope.names (scope : Scope α) : List String := scope.map (·.1)

theorem Scope.owner?_append {scope outer : Scope α} {qualifier : List String}
    (h : ∀ part ∈ qualifier, part ∉ scope.names) :
    Scope.owner? (scope ++ outer) qualifier = Scope.owner? outer qualifier := by
  have none : Scope.owner? scope qualifier = none := by
    unfold Scope.owner?
    rw [List.find?_eq_none]
    intro b hb part
    exact h b.1 (by simpa using part) (List.mem_map.2 ⟨b, hb, rfl⟩)
  unfold Scope.owner? at none ⊢
  rw [List.find?_append, none, Option.none_or]

structure FromRow (α : Type) where
  bindings : Scope α
  /-- What a bare star stands for. -/
  wild : Record α

/-- What a FROM clause denotes: its rows, and the row of NULLs that an outer join fills up with. -/
structure Source (α : Type) where
  blank : FromRow α
  rows : Multiset (FromRow α)

structure Table (α : Type) where
  blank : Record α
  rows : Multiset (Record α)

namespace FromRow

def empty : FromRow α := ⟨[], []⟩

def ofRecord (name? : Option String) (r : Record α) : FromRow α :=
  ⟨name?.toList.map fun name => (name, r), r⟩

def append (l r : FromRow α) : FromRow α := ⟨l.bindings ++ r.bindings, l.wild ++ r.wild⟩

/-- The columns of USING stand in the wild record once. -/
def appendUsing (columns : List String) (l r : FromRow α) : FromRow α where
  bindings := l.bindings ++ r.bindings
  wild := l.wild.map (fun (column, v) =>
      (column, if columns.contains column && v matches .null then Record.cell r.wild column else v))
    ++ r.wild.filter fun c => !columns.contains c.1

end FromRow

namespace Source

def unit : Source α := ⟨.empty, {.empty}⟩

def ofTable (name? : Option String) (t : Table α) : Source α :=
  ⟨.ofRecord name? t.blank, t.rows.map (.ofRecord name?)⟩

def matching (left : Source α) (right : FromRow α → Source α) (on : FromRow α → FromRow α → Bool)
    (merge : FromRow α → FromRow α → FromRow α) : Multiset (FromRow α) :=
  left.rows.bind fun l => ((right l).rows.filter (on l ·)).map (merge l)

def leftOver (left : Source α) (right : FromRow α → Source α) (on : FromRow α → FromRow α → Bool)
    (merge : FromRow α → FromRow α → FromRow α) : Multiset (FromRow α) :=
  (left.rows.filter fun l => Multiset.card ((right l).rows.filter (on l ·)) = 0).map
    fun l => merge l (right l).blank

def rightOver (left : Source α) (right : FromRow α → Source α) (on : FromRow α → FromRow α → Bool)
    (merge : FromRow α → FromRow α → FromRow α) : Multiset (FromRow α) :=
  ((right left.blank).rows.filter fun r => Multiset.card (left.rows.filter (on · r)) = 0).map
    fun r => merge left.blank r

/-- The right side may depend on the row of the left side. -/
def join (type : JoinType) (left : Source α) (right : FromRow α → Source α)
    (on : FromRow α → FromRow α → Bool) (merge : FromRow α → FromRow α → FromRow α) : Source α where
  blank := merge left.blank (right left.blank).blank
  rows := left.matching right on merge + match type with
    | .inner | .cross => 0
    | .left => left.leftOver right on merge
    | .right => left.rightOver right on merge
    | .full => left.leftOver right on merge + left.rightOver right on merge

end Source

end QueryBridge.Meaning
