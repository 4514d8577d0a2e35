import QueryBridge.Source.Outline
import QueryBridge.Source.Statements

set_option autoImplicit false

/-! Unquoted names are resolved as the dialect resolves them, quoted ones are kept. An expression
without a node of its own becomes `unsupported`, so that only its emission fails; any other shape
without counterpart ends the reading. -/

namespace QueryBridge

inductive ReadError where
  | malformed
  | statementCount (count : Nat)
  | notAQuery (statement : String)
  | unsupported (detail : String)
  deriving DecidableEq, Repr

def ReadError.message : ReadError → String
  | malformed => "SQL syntax error: the text is not a list of statements"
  | statementCount n => s!"Expected exactly 1 statement, found {n}"
  | notAQuery statement => "Only queries can be compiled, got: " ++ statement
  | unsupported detail => "Unsupported SQL feature: " ++ detail

end QueryBridge

namespace QueryBridge.Source

open Text

/-- The units that can stand bare behind the operand of a truncation. -/
def dateParts : List String :=
  ["MICROSECOND", "MILLISECOND", "SECOND", "MINUTE", "HOUR", "DAY", "WEEK", "ISOWEEK", "MONTH",
    "QUARTER", "YEAR", "ISOYEAR"]

def Ident.resolve (d : Dialect) (name : Ident) : String :=
  if name.quote.isSome then name.text else d.rules.foldUnquoted name.text

def resolveAll (d : Dialect) (names : List Ident) : List String := names.map (·.resolve d)

def AliasName.resolve (d : Dialect) (a : AliasName) : TableAlias :=
  ⟨a.name.resolve d, a.columns.map (·.name.resolve d)⟩

def resolvePath (d : Dialect) (parts : List Ident) : QueryBridge.Expr :=
  let names := resolveAll d parts
  .column names.dropLast (names.getLast?.getD "")

def Value.lower : Value → Except ReadError Literal
  | number text _ =>
    match Decimal.readInt64? text with
    | some n => .ok (.int (Int64.ofInt n))
    | none =>
      if text.toList.any (fun c => c = 'e' || c = 'E') then
        match Decimal.Binary64.ofText? text with
        | some x => .ok (.float x)
        | none => .error (.unsupported ("number " ++ text))
      else .ok (.decimal text)
  | string (.plain _) text => .ok (.string text)
  | string form text => .error (.unsupported ("literal " ++ form.render text))
  | bool b => .ok (.bool b)
  | null => .ok .null
  | placeholder text => .ok (.placeholder text)

def CastKind.conversion : CastKind → String
  | cast => "Cast conversion"
  | tryCast => "TryCast conversion"
  | safeCast => "SafeCast conversion"
  | doubleColon => "DoubleColon conversion"

/-- A truncation with its unit last and bare is brought into the order with the unit first. -/
def unitFirst (d : Dialect) (function : String) (args : List QueryBridge.Expr) :
    List QueryBridge.Expr :=
  match args with
  | [operand, .column [] part] =>
    if d = .bigquery && eqIgnoringAsciiCase function "DATE_TRUNC" && dateParts.contains (upper part)
    then [.literal (.string (lower (upper part))), operand]
    else args
  | _ => args

def JoinOperator.type? : JoinOperator → Option JoinType
  | inner => some .inner
  | left => some .left
  | right => some .right
  | full => some .full
  | cross => some .cross
  | crossApply | outerApply | semi | leftSemi | rightSemi | anti | leftAnti | rightAnti | asOf => none

/-- Whether a quantifier keeps duplicates; matching columns by name has no counterpart. -/
def keepsDuplicates : Option Quantifier → Except ReadError Bool
  | some .all => .ok true
  | some .distinct | none => .ok false
  | some q => .error (.unsupported ("set quantifier " ++ q.text))

def sortDir (ascending : Bool) : SortDir := if ascending then .asc else .desc

def nullsOrder (first : Bool) : NullsOrder := if first then .first else .last

def refuseIf (b : Bool) (feature : String) : Except ReadError Unit :=
  if b then .error (.unsupported feature) else .ok ()

mutual

def Expr.lower (d : Dialect) : Expr → Except ReadError QueryBridge.Expr
  | .ident name => .ok (.column [] (name.resolve d))
  | .path parts => .ok (resolvePath d parts)
  | .value v => return .literal (← v.lower)
  | .binary (.known op) left right => return .binary op (← left.lower d) (← right.lower d)
  | .binary (.other text) _ _ => .ok (.unsupported ("operator " ++ text))
  | .signed .not operand => return .not (← operand.lower d)
  | .signed .minus operand => return .neg (← operand.lower d)
  | .signed .plus operand => operand.lower d
  | .signed (.other text) _ => .ok (.unsupported ("operator " ++ text))
  | .nested inner => return .paren (← inner.lower d)
  | .call c => c.lower d
  | .case operand branches otherwise => do
    let o ← lowerOption d operand
    let b ← lowerBranches d branches
    return .case o b (← lowerOption d otherwise)
  | .subquery q => return .subquery (← q.lower d)
  | .exists q negated => return .exists (← q.lower d) negated
  | .inList operand values negated => return .inList (← operand.lower d) (← lowerAll d values) negated
  | .inQuery operand q negated => return .inQuery (← operand.lower d) (← q.lower d) negated
  | .between operand low high negated =>
    return .between (← operand.lower d) (← low.lower d) (← high.lower d) negated
  | .isNull operand negated => return .isNull (← operand.lower d) negated
  | .like operand pattern negated _ escape =>
    if escape.isSome then .ok (.unsupported "LIKE ... ESCAPE")
    else return .like (← operand.lower d) (← pattern.lower d) negated
  | .cast kind operand type format =>
    if kind ∈ [.cast, .doubleColon] ∧ format = none then
      return .cast (← operand.lower d) (DataType.parse type)
    else .ok (.unsupported kind.conversion)
  | .array _ items => return .array (← lowerAll d items)
  | .element array index => return .index (← array.lower d) (← index.lower d)
  | .slice _ bounds => .ok (.unsupported ("array slice [" ++ bounds ++ "]"))
  | .phrase text => .ok (.unsupported text)

def lowerAll (d : Dialect) : List Expr → Except ReadError (List QueryBridge.Expr)
  | [] => .ok []
  | e :: rest => return (← e.lower d) :: (← lowerAll d rest)

def lowerOption (d : Dialect) : Option Expr → Except ReadError (Option QueryBridge.Expr)
  | none => .ok none
  | some e => return some (← e.lower d)

def lowerBranches (d : Dialect) :
    List (Expr × Expr) → Except ReadError (List (QueryBridge.Expr × QueryBridge.Expr))
  | [] => .ok []
  | (condition, result) :: rest => do
    let c ← condition.lower d
    let r ← result.lower d
    return (c, r) :: (← lowerBranches d rest)

def Arg.lower (d : Dialect) : Arg → Except ReadError QueryBridge.Expr
  | .expr e => e.lower d
  | .star => .ok (.star [])
  | .pathStar path => .ok (.star (resolveAll d path))
  | .named text => .ok (.unsupported ("named argument " ++ text))

def lowerArgs (d : Dialect) : List Arg → Except ReadError (List QueryBridge.Expr)
  | [] => .ok []
  | a :: rest => return (← a.lower d) :: (← lowerArgs d rest)

def Args.lower (d : Dialect) (function : String) : Args → Except ReadError QueryBridge.Expr
  | .none => .ok (.keyword function)
  | .query q => return .call function (unitFirst d function [.subquery (← q.lower d)]) false
  | .list treatment args clauses =>
    if clauses.isEmpty then
      return .call function (unitFirst d function (← lowerArgs d args)) (treatment = some .distinct)
    else .ok (.unsupported ("argument clauses on " ++ function))

def Call.lower (d : Dialect) : Call → Except ReadError QueryBridge.Expr
  | ⟨name, args, withinGroup, filter, _, windowed, _⟩ =>
    if windowed.isSome then .ok (.unsupported ("window function " ++ dotted name))
    else if filter.isSome || withinGroup.isSome then
      .ok (.unsupported ("aggregate clauses on " ++ dotted name))
    else args.lower d (dotted name)

def Item.lower (d : Dialect) : Item → Except ReadError SelectItem
  | .expr e label => return ⟨← e.lower d, label.map (·.resolve d)⟩
  | .star _ => .ok ⟨.star [], none⟩
  | .pathStar path _ => .ok ⟨.star (resolveAll d path), none⟩

def lowerItems (d : Dialect) : List Item → Except ReadError (List SelectItem)
  | [] => .ok []
  | i :: rest => return (← i.lower d) :: (← lowerItems d rest)

def Relation.lower (d : Dialect) : Relation → Except ReadError QueryBridge.Relation
  | .table name args _ label _ =>
    if args.isSome then .error (.unsupported ("table function " ++ dotted name))
    else .ok (.table (resolveAll d name) (label.map (·.resolve d)))
  | .derived lateral q label =>
    if lateral then .error (.unsupported "LATERAL")
    else return .derived (← q.lower d) (label.map (·.resolve d))
  | .unnest exprs ordinality label offset _ =>
    if offset || ordinality then .error (.unsupported "UNNEST WITH OFFSET")
    else return .unnest (← lowerAll d exprs) (label.map (·.resolve d))
  | .phrase text label => .error (.unsupported (text ++ asAlias label))
  | .group inner label => .error (.unsupported (inParens inner.render ++ asAlias label))

def Constraint.lower (d : Dialect) : Constraint → Except ReadError QueryBridge.JoinConstraint
  | .on e => return .on (← e.lower d)
  | .using columns => .ok (.using (resolveAll d columns))
  | .none => .ok .none
  | .natural => .error (.unsupported "NATURAL JOIN")

def Join.lower (d : Dialect) : Join → Except ReadError QueryBridge.Join
  | ⟨global, operator, relation, nearest, constraint⟩ =>
    match operator.type? with
    | none => .error (.unsupported (Join.outline d ⟨global, operator, relation, nearest, constraint⟩))
    | some type => do
      let c ← constraint.lower d
      return ⟨type, ← relation.lower d, c⟩

def lowerJoins (d : Dialect) : List Join → Except ReadError (List QueryBridge.Join)
  | [] => .ok []
  | j :: rest => return (← j.lower d) :: (← lowerJoins d rest)

def FromItem.lower (d : Dialect) : FromItem → Except ReadError QueryBridge.FromItem
  | ⟨relation, joins⟩ => return ⟨← relation.lower d, ← lowerJoins d joins⟩

def lowerSources (d : Dialect) : List FromItem → Except ReadError (List QueryBridge.FromItem)
  | [] => .ok []
  | s :: rest => return (← s.lower d) :: (← lowerSources d rest)

def Distinct.lower : Distinct → Except ReadError Bool
  | .all => .ok false
  | .distinct => .ok true
  | .on _ => .error (.unsupported "DISTINCT ON")

def Grouping.lower (d : Dialect) : Grouping → Except ReadError (List QueryBridge.Expr)
  | .by keys => lowerAll d keys
  | .all => .error (.unsupported "GROUP BY ALL")

def Select.lower (d : Dialect) : Select → Except ReadError QueryBridge.Select
  | ⟨_, repeated, top, items, into, sources, _, selection, grouping, _, having, _, qualify, _, _⟩ => do
    let distinct ← repeated.lower
    refuseIf qualify.isSome "QUALIFY"
    refuseIf top.isSome "TOP"
    refuseIf into.isSome "SELECT INTO"
    let projection ← lowerItems d items
    let from_ ← lowerSources d sources
    let keys ← grouping.lower d
    let condition ← lowerOption d selection
    return ⟨distinct, projection, from_, condition, keys, ← lowerOption d having⟩

def Body.lower (d : Dialect) : Body → Except ReadError QueryBridge.Body
  | .select s => return .select (← s.lower d)
  | .query q => return .query (← q.lower d)
  | .setOp op quantifier left right => do
    let all ← keepsDuplicates quantifier
    let l ← left.lower d
    return .setOp op all l (← right.lower d)
  | .phrase text => .error (.unsupported text)

def OrderItem.lower (d : Dialect) : OrderItem → Except ReadError QueryBridge.OrderItem
  | ⟨e, ascending, nullsFirst⟩ => return ⟨← e.lower d, ascending.map sortDir, nullsFirst.map nullsOrder⟩

def lowerOrder (d : Dialect) : List OrderItem → Except ReadError (List QueryBridge.OrderItem)
  | [] => .ok []
  | o :: rest => return (← o.lower d) :: (← lowerOrder d rest)

def Cte.lower (d : Dialect) : Cte → Except ReadError QueryBridge.Cte
  | ⟨label, _, query, _⟩ =>
    return ⟨label.name.resolve d, (label.resolve d).columns, ← query.lower d⟩

def lowerCtes (d : Dialect) : List Cte → Except ReadError (List QueryBridge.Cte)
  | [] => .ok []
  | c :: rest => return (← c.lower d) :: (← lowerCtes d rest)

def Query.lower (d : Dialect) : Query → Except ReadError QueryBridge.Query
  | ⟨ctes, recursive, body, orderBy, limit, offset, _, fetch, locks, _⟩ => do
    refuseIf fetch.isSome "FETCH"
    refuseIf (!locks.isEmpty) "locking clause"
    let named ← lowerCtes d ctes
    let order ← lowerOrder d orderBy
    let b ← body.lower d
    let l ← lowerOption d limit
    return ⟨named, recursive, b, order, l, ← lowerOption d offset⟩

end

end QueryBridge.Source

namespace QueryBridge

def Query.read (d : Dialect) (text : String) : Except ReadError Query :=
  match Source.parse? d text with
  | none => .error .malformed
  | some [.query q] => q.lower d
  | some [.other statement] => .error (.notAQuery statement)
  | some statements => .error (.statementCount statements.length)

end QueryBridge
