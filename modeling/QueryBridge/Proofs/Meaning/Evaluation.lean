import QueryBridge.Proofs.Meaning.Values
import QueryBridge.Tree.Relations

set_option autoImplicit false

/-! The meaning of a tree over the content of the tables, in bag semantics. What the language leaves to
its functions, types and orderings is a parameter. A derived table sees the rows outside its FROM
clause, an unnested array also those to its left. Columns are taken to have a qualifier. -/

namespace QueryBridge.Meaning

/-- The parts of the language that are not determined by the tree. -/
structure Interpretation (α : Type) where
  literal : Literal → Value α
  keyword : String → Value α
  unsupported : String → Value α
  truth : α → Truth
  operator : BinaryOp → Value α → Value α → Value α
  negative : Value α → Value α
  call : String → Bool → List (Value α) → Value α
  isAggregate : String → Bool
  aggregate : String → Bool → Multiset (List (Value α)) → Value α
  like : Value α → Value α → Truth
  cast : DataType → Value α → Value α
  element : Value α → Value α → Value α
  array : List (Value α) → Value α
  field : Value α → String → Value α
  whole : Record α → Value α
  star : Value α
  unnest : List (Value α) → Multiset (List (Value α))
  scalar : Multiset (Record α) → Value α
  pick : Multiset (Value α) → Value α
  /-- ORDER BY, LIMIT and OFFSET on rows with the values of their keys. -/
  slice : List (Option SortDir × Option NullsOrder) → Option (Value α) → Option (Value α) →
    Multiset (Record α × List (Value α)) → Multiset (Record α)
  recurse : (Table α → Table α) → Table α

/-- What an expression is evaluated in: tables, rows in scope, and in a grouped SELECT the scopes of the
group's rows. -/
structure Context (α : Type) where
  tables : List String → Table α
  scope : Scope α
  group : Option (Multiset (Scope α))

namespace Context

variable {α : Type}

def within (c : Context α) (bindings : Scope α) : Context α :=
  { c with scope := bindings ++ c.scope, group := none }

def withGroup (c : Context α) (bindings : Scope α) (rows : Multiset (Scope α)) : Context α :=
  { c with scope := bindings ++ c.scope, group := some (rows.map (· ++ c.scope)) }

def withTable (c : Context α) (name : String) (t : Table α) : Context α :=
  { c with tables := fun path => if path = [name] then t else c.tables path }

end Context

section

variable {α : Type} [DecidableEq α] (I : Interpretation α)

/-- TRUE, FALSE or UNKNOWN for a value in the place of a predicate. -/
def Interpretation.truthOf : Value α → Truth
  | .null => none
  | .bool b => some b
  | .datum a => I.truth a

def Interpretation.literalValue : Literal → Value α
  | .null => .null
  | .bool b => .bool b
  | l => I.literal l

def columnPath (relation : String) (qualifier : List String) (name : String) : List String :=
  (qualifier.dropWhile (· != relation)).tail ++ [name]

def Interpretation.column (scope : Scope α) (qualifier : List String) (name : String) : Value α :=
  match scope.owner? qualifier with
  | some (relation, r) =>
    match columnPath relation qualifier name with
    | column :: fields => fields.foldl I.field (r.cell column)
    | [] => .null
  | none => .null

def Interpretation.wholeRow (scope : Scope α) (qualifier : List String) : Value α :=
  match scope.owner? qualifier with
  | some (_, r) => I.whole r
  | none => I.star

def Interpretation.binary (op : BinaryOp) (v w : Value α) : Value α :=
  match op with
  | .and => .ofTruth ((I.truthOf v).and (I.truthOf w))
  | .or => .ofTruth ((I.truthOf v).or (I.truthOf w))
  | .eq => .ofTruth (v.equals w)
  | .ne => .ofTruth (v.equals w).not
  | op => I.operator op v w

/-- The operand of CASE is compared to the conditions; without one they are predicates. -/
def Interpretation.selects (operand : Option (Value α)) (condition : Value α) : Bool :=
  match operand with
  | some v => v.equals condition == some true
  | none => I.truthOf condition == some true

def Interpretation.caseOf (operand : Option (Value α)) (branches : List (Value α × Value α))
    (otherwise : Option (Value α)) : Value α :=
  match branches.find? (fun b => I.selects operand b.1) with
  | some b => b.2
  | none => otherwise.getD .null

def elementRecord (label : Option TableAlias) (values : List (Value α)) : Record α :=
  match label with
  | some ⟨name, []⟩ => values.map (name, ·)
  | some ⟨_, columns⟩ => columns.zip values
  | none => values.map ("", ·)

def aliasTable (label : Option TableAlias) (t : Table α) : Table α :=
  let columns := (label.map (·.columns)).getD []
  ⟨t.blank.rename columns, t.rows.map (·.rename columns)⟩

/-- What a bare or qualified star of a projection stands for; other items and all with a label are one
column. -/
def starRecord (scope : Scope α) (wild : Record α) : Expr → Option (Record α)
  | .star [] => some wild
  | .star qualifier => some (((scope.owner? qualifier).map (·.2)).getD [])
  | _ => none

def itemName : Expr → String
  | .column _ name => name
  | _ => ""

/-- The record of a group: each column picked from those of its rows. -/
def Interpretation.blend (shape : Scope α) (rows : Multiset (Scope α)) : Scope α :=
  shape.map fun (name, r) =>
    (name, r.map fun (column, _) =>
      (column, I.pick (rows.map fun scope => ((scope.lookup name).map (·.cell column)).getD .null)))

def Interpretation.holds (condition : Option (Value α)) : Bool :=
  match condition with
  | some v => I.truthOf v == some true
  | none => true

def Value.isAmongRows (v : Value α) (rows : Multiset (Record α)) : Truth :=
  let answers := rows.map fun r => v.equals ((r.head?.map (·.2)).getD .null)
  if some true ∈ answers then some true else if none ∈ answers then none else some false

def combine (op : SetOp) (all : Bool) (left right : Multiset (Record α)) : Multiset (Record α) :=
  match op, all with
  | .union, true => left + right
  | .union, false => (left + right).dedup
  | .intersect, true => left ∩ right
  | .intersect, false => (left ∩ right).dedup
  | .except, true => left - right
  | .except, false => left.dedup.filter (· ∉ right)

def mergeOf : JoinConstraint → FromRow α → FromRow α → FromRow α
  | .using columns => FromRow.appendUsing columns
  | .on _ | .none => FromRow.append

/-- The rows of a SELECT with the values of the keys they are ordered by. -/
structure Selected (α : Type) where
  blank : Record α
  rows : Multiset (Record α × List (Value α))

/-- What the clauses of a SELECT mean. Without a GROUP BY the group is the whole. -/
structure Clauses (α : Type) where
  distinct : Bool
  grouped : Bool
  whole : Bool
  items : Context α → Record α → Record α
  keeps : Context α → Bool
  key : Context α → List (Value α)
  having : Context α → Bool
  order : Context α → List (Value α)

def Clauses.groups (k : Clauses α) (c : Context α) (rows : Multiset (FromRow α)) :
    Multiset (Multiset (FromRow α)) :=
  if k.whole then {rows}
  else (rows.map fun r => k.key (c.within r.bindings)).dedup.map fun v =>
    rows.filter fun r => k.key (c.within r.bindings) = v

def Interpretation.groupContext (c : Context α) (shape : Scope α) (rows : Multiset (FromRow α)) : Context α :=
  c.withGroup (I.blend shape (rows.map (·.bindings))) (rows.map (·.bindings))

def Interpretation.select (k : Clauses α) (c : Context α) (source : Source α) : Selected α :=
  let rows := source.rows.filter fun r => k.keeps (c.within r.bindings)
  let out :=
    if k.grouped then
      (((k.groups c rows).map (I.groupContext c source.blank.bindings)).filter fun c' => k.having c').map
        fun c' => (k.items c' source.blank.wild, k.order c')
    else rows.map fun r => (k.items (c.within r.bindings) r.wild, k.order (c.within r.bindings))
  ⟨k.items (c.within source.blank.bindings) source.blank.wild, if k.distinct then out.dedup else out⟩

end

section

variable (isAggregate : String → Bool)

mutual

def hasAggregate : Expr → Bool
  | .column _ _ | .literal _ | .keyword _ | .star _ | .unsupported _ | .subquery _ | .exists _ _ => false
  | .binary _ left right => hasAggregate left || hasAggregate right
  | .not e | .neg e | .isNull e _ | .cast e _ | .paren e | .inQuery e _ _ => hasAggregate e
  | .call f args _ => isAggregate f || haveAggregate args
  | .case operand branches otherwise =>
    optionHasAggregate operand || branchesHaveAggregate branches || optionHasAggregate otherwise
  | .inList e values _ => hasAggregate e || haveAggregate values
  | .between e low high _ => hasAggregate e || hasAggregate low || hasAggregate high
  | .like e pattern _ => hasAggregate e || hasAggregate pattern
  | .index array index => hasAggregate array || hasAggregate index
  | .array items => haveAggregate items

def haveAggregate : List Expr → Bool
  | [] => false
  | e :: es => hasAggregate e || haveAggregate es

def optionHasAggregate : Option Expr → Bool
  | none => false
  | some e => hasAggregate e

def branchesHaveAggregate : List (Expr × Expr) → Bool
  | [] => false
  | (c, t) :: bs => hasAggregate c || hasAggregate t || branchesHaveAggregate bs

end

/-- The SELECT has one row for each group, and without GROUP BY for all rows together. -/
def isGrouped (s : Select) : Bool :=
  !s.groupBy.isEmpty || s.having.isSome || s.projection.any fun item => hasAggregate isAggregate item.expr

end

section

variable {α : Type} [DecidableEq α] (I : Interpretation α)

mutual

def evalExpr : Expr → Context α → Value α
  | .column qualifier name, c => I.column c.scope qualifier name
  | .literal value, _ => I.literalValue value
  | .binary op left right, c => I.binary op (evalExpr left c) (evalExpr right c)
  | .not e, c => .ofTruth (I.truthOf (evalExpr e c)).not
  | .neg e, c => I.negative (evalExpr e c)
  | .call f args distinct, c =>
    match c.group with
    | some rows =>
      if I.isAggregate f then
        I.aggregate f distinct (rows.map fun scope => evalExprs args { c with scope := scope, group := none })
      else I.call f distinct (evalExprs args c)
    | none => I.call f distinct (evalExprs args c)
  | .keyword word, _ => I.keyword word
  | .case operand branches otherwise, c =>
    I.caseOf (evalOption operand c) (evalBranches branches c) (evalOption otherwise c)
  | .subquery q, c => I.scalar (evalQuery q c).rows
  | .exists q negated, c => .bool ((Multiset.card (evalQuery q c).rows != 0) != negated)
  | .inList e values negated, c =>
    .ofTruth (Truth.negate negated ((evalExpr e c).isAmong (evalExprs values c)))
  | .inQuery e q negated, c =>
    .ofTruth (Truth.negate negated ((evalExpr e c).isAmongRows (evalQuery q c).rows))
  | .between e low high negated, c =>
    .ofTruth (Truth.negate negated ((I.truthOf (I.operator .gte (evalExpr e c) (evalExpr low c))).and
      (I.truthOf (I.operator .lte (evalExpr e c) (evalExpr high c)))))
  | .isNull e negated, c => .bool ((evalExpr e c == .null) != negated)
  | .like e pattern negated, c =>
    .ofTruth (Truth.negate negated (I.like (evalExpr e c) (evalExpr pattern c)))
  | .cast e type, c => I.cast type (evalExpr e c)
  | .index array index, c => I.element (evalExpr array c) (evalExpr index c)
  | .array items, c => I.array (evalExprs items c)
  | .star qualifier, c => I.wholeRow c.scope qualifier
  | .paren e, c => evalExpr e c
  | .unsupported detail, _ => I.unsupported detail

def evalExprs : List Expr → Context α → List (Value α)
  | [], _ => []
  | e :: es, c => evalExpr e c :: evalExprs es c

def evalOption : Option Expr → Context α → Option (Value α)
  | none, _ => none
  | some e, c => some (evalExpr e c)

def evalBranches : List (Expr × Expr) → Context α → List (Value α × Value α)
  | [], _ => []
  | (condition, result) :: bs, c => (evalExpr condition c, evalExpr result c) :: evalBranches bs c

def evalItem : SelectItem → Context α → Record α → Record α
  | ⟨e, some name⟩, c, _ => [(name, evalExpr e c)]
  | ⟨e, none⟩, c, wild => (starRecord c.scope wild e).getD [(itemName e, evalExpr e c)]

def evalItems : List SelectItem → Context α → Record α → Record α
  | [], _, _ => []
  | item :: items, c, wild => evalItem item c wild ++ evalItems items c wild

def evalRelation : Relation → Context α → Scope α → Source α
  | .table path label, c, _ =>
    .ofTable (Relation.table path label).referenceName? (aliasTable label (c.tables path))
  | .derived q label, c, _ => .ofTable (label.map (·.name)) (aliasTable label (evalQuery q c))
  | .unnest es label, c, left =>
    .ofTable (label.map (·.name))
      ⟨elementRecord label (((label.map (·.columns)).getD [""]).map fun _ => .null),
        (I.unnest (evalExprs es (c.within left))).map (elementRecord label)⟩

def evalConstraint : JoinConstraint → Context α → FromRow α → FromRow α → Bool
  | .on e, c, l, r => I.holds (some (evalExpr e (c.within (l.bindings ++ r.bindings))))
  | .using columns, _, l, r => columns.all fun column =>
    (Record.cell l.wild column).equals (Record.cell r.wild column) == some true
  | .none, _, _, _ => true

def evalJoin : Join → Context α → Scope α → Source α → Source α
  | ⟨type, relation, constraint⟩, c, left, source =>
    source.join type (fun l => evalRelation relation c (l.bindings ++ left)) (evalConstraint constraint c)
      (mergeOf constraint)

def evalJoins : List Join → Context α → Scope α → Source α → Source α
  | [], _, _, source => source
  | j :: js, c, left, source => evalJoins js c left (evalJoin j c left source)

def evalFromItem : FromItem → Context α → Scope α → Source α
  | ⟨relation, joins⟩, c, left => evalJoins joins c left (evalRelation relation c left)

def evalSources : List FromItem → Context α → Source α → Source α
  | [], _, source => source
  | f :: fs, c, source =>
    evalSources fs c (source.join .cross (fun l => evalFromItem f c l.bindings) (fun _ _ => true) .append)

def evalSelect : Select → Context α → (Context α → List (Value α)) → Selected α
  | ⟨distinct, projection, sources, selection, groupBy, having⟩, c, order =>
    I.select
      { distinct := distinct
        grouped := isGrouped I.isAggregate ⟨distinct, projection, sources, selection, groupBy, having⟩
        whole := groupBy.isEmpty
        items := fun c wild => evalItems projection c wild
        keeps := fun c => I.holds (evalOption selection c)
        key := fun c => evalExprs groupBy c
        having := fun c => I.holds (evalOption having c)
        order := order }
      c (evalSources sources c .unit)

def evalBody : Body → Context α → (Context α → List (Value α)) → Selected α
  | .select s, c, order => evalSelect s c order
  | .setOp op all left right, c, order =>
    let l := evalBody left c fun _ => []
    let r := evalBody right c fun _ => []
    ⟨l.blank, (combine op all (l.rows.map (·.1)) (r.rows.map fun x =>
      Record.rename (l.blank.map (·.1)) x.1)).map fun x => (x, order c)⟩
  | .query q, c, order =>
    let t := evalQuery q c
    ⟨t.blank, t.rows.map fun x => (x, order c)⟩

def evalOrderItem : OrderItem → Context α → Value α
  | ⟨e, _, _⟩, c => evalExpr e c

def evalOrder : List OrderItem → Context α → List (Value α)
  | [], _ => []
  | o :: os, c => evalOrderItem o c :: evalOrder os c

def evalCte : Cte → Bool → Context α → Context α
  | ⟨name, columns, q⟩, recursive, c =>
    let label := some ⟨name, columns⟩
    c.withTable name (if recursive then
        I.recurse fun t => aliasTable label (evalQuery q (c.withTable name t))
      else aliasTable label (evalQuery q c))

def evalCtes : List Cte → Bool → Context α → Context α
  | [], _, c => c
  | t :: ts, recursive, c => evalCtes ts recursive (evalCte t recursive c)

def evalQuery : Query → Context α → Table α
  | ⟨ctes, recursive, body, orderBy, limit, offset⟩, c =>
    let inner := evalCtes ctes recursive { c with group := none }
    let out := evalBody body inner (evalOrder orderBy)
    ⟨out.blank, if orderBy.isEmpty && limit.isNone && offset.isNone then out.rows.map (·.1)
      else I.slice (orderBy.map fun o => (o.dir, o.nulls)) (evalOption limit inner)
        (evalOption offset inner) out.rows⟩

end

end

end QueryBridge.Meaning
