import QueryBridge.Emission.Precedence

set_option autoImplicit false

namespace QueryBridge

open Token (space parens parensIf brackets commaList clause path)

abbrev Emitted := Except EmitError (List Token)

def Literal.token : Literal → Except EmitError Token
  | int n => .ok (.int n)
  | float x => if x.isFinite then .ok (.float x) else .error (.nonFiniteFloat x.render)
  | decimal text => .ok (.decimal text)
  | string s => .ok (.string s)
  | bool b => .ok (.bool b)
  | null => .ok (.keyword .null)
  | placeholder text => .ok (.placeholder text)

def isBareWord (word : String) : Bool := !word.isEmpty && word.toList.all Text.isAsciiWord

def isDatePart (unit : String) : Bool :=
  !unit.isEmpty && unit.toList.all fun c => c.isAlpha || c == '_'

def SetOp.keyword : SetOp → Keyword
  | union => .union
  | intersect => .intersect
  | except => .except

def JoinType.keywords : JoinType → List Token
  | inner => [.keyword .inner, space, .keyword .join]
  | left => [.keyword .left, space, .keyword .join]
  | right => [.keyword .right, space, .keyword .join]
  | full => [.keyword .full, space, .keyword .outer, space, .keyword .join]
  | cross => [.keyword .cross, space, .keyword .join]

def SortDir.tokens : Option SortDir → List Token
  | none => []
  | some asc => [space, .keyword .asc]
  | some desc => [space, .keyword .desc]

def NullsOrder.tokens : Option NullsOrder → List Token
  | none => []
  | some first => [space, .keyword .nullsFirst]
  | some last => [space, .keyword .nullsLast]

def identList (names : List String) : List Token := commaList (names.map fun n => [.ident n])

def TableAlias.tokens (a : TableAlias) : List Token :=
  [.keyword .as_, space, .ident a.name]
    ++ if a.columns.isEmpty then [] else parens (identList a.columns)

def aliasTokens : Option TableAlias → List Token
  | none => []
  | some a => space :: a.tokens

def columnAliasTokens : Option String → List Token
  | none => []
  | some name => [space, .keyword .as_, space, .ident name]

def qualifierTokens (qualifier : List String) : List Token :=
  qualifier.flatMap fun part => [.ident part, .symbol .dot]

def listClause (k : Keyword) (parts : List (List Token)) : List Token :=
  if parts.isEmpty then [] else clause k (commaList parts)

/-- The value of a group of one row: the group's size decides. -/
def singleValueTokens (r : Rules) (arg : List Token) : List Token :=
  [.keyword .case_, space, .function "COUNT"] ++ parens [.symbol .star]
    ++ [space, .keyword .when_, space, .int 0, space, .keyword .then_, space, .keyword .null]
    ++ [space, .keyword .when_, space, .int 1, space, .keyword .then_, space]
    ++ .function r.singleValue :: parens arg
    ++ [space, .keyword .else_, space, .keyword .null, space, .keyword .end_]

inductive CallForm where
  | plain
  | singleValue
  | truncUnitLast
  deriving DecidableEq

def callForm (r : Rules) (function : String) : CallForm :=
  let name := Text.upper function
  if name = "SINGLE_VALUE" then .singleValue
  else if name = "DATE_TRUNC" ∧ r.truncStyle = .unitLast then .truncUnitLast
  else .plain

def invalidTrunc (detail : String) : EmitError := .invalidCall "DATE_TRUNC" detail

def truncUnit : Expr → Except EmitError Token
  | .literal (.string unit) =>
    if isDatePart unit then .ok (.word (Text.upper unit))
    else .error (invalidTrunc s!"'{unit}' is not a date part")
  | _ => .error (invalidTrunc "date part must be a string literal")

def Query.hasClauses (q : Query) : Bool :=
  !q.ctes.isEmpty || !q.orderBy.isEmpty || q.limit.isSome || q.offset.isSome

def setOpTokens (r : Rules) (op : SetOp) (all : Bool) (left right : List Token) : List Token :=
  left ++ [space, .keyword op.keyword]
    ++ (if all then [space, .keyword .all]
        else if r.explicitDistinct then [space, .keyword .distinct] else [])
    ++ space :: right

/-- The limit that stands in front of an OFFSET where one is required. -/
def offsetPrelude (r : Rules) (hasLimit : Bool) : List Token :=
  if r.offsetNeedsLimit && !hasLimit then clause .limit [.symbol .minus, .int 1] else []

mutual

def Expr.tokens (r : Rules) : Expr → Emitted
  | .column qualifier name => .ok (qualifierTokens qualifier ++ [.ident name])
  | .literal value => return [← value.token]
  | .binary op left right => do
    let l ← left.tokens r
    let t ← right.tokens r
    return parensIf (left.needsParensLeft op) l ++ [space, op.token, space]
      ++ parensIf (right.needsParensRight op) t
  | .not operand => do
    let t ← operand.tokens r
    return [.keyword .not, space] ++ parensIf (operand.precedence < Expr.notLevel) t
  | .neg operand => do
    let t ← operand.tokens r
    return .symbol .minus :: parensIf operand.needsParensAsAtom t
  | .call function args distinct =>
    match callForm r function with
    | .plain => do
      let ts ← tokensOfExprs r args
      return .function function
        :: parens ((if distinct then [.keyword .distinct, space] else []) ++ commaList ts)
    | .singleValue => match args with
      | [arg] => do
        if distinct then throw (.invalidCall "SINGLE_VALUE" "DISTINCT is not allowed")
        return singleValueTokens r (← arg.tokens r)
      | _ => .error (.invalidCall "SINGLE_VALUE" s!"expected 1 argument, got {args.length}")
    | .truncUnitLast => match args with
      | [unit, operand] => do
        let u ← truncUnit unit
        let t ← operand.tokens r
        return .function "DATE_TRUNC" :: parens (t ++ [.symbol .comma, space, u])
      | _ => .error (invalidTrunc s!"expected 2 arguments, got {args.length}")
  | .keyword word =>
    if isBareWord word then .ok [.word (Text.upper word)]
    else .error (r.unsupported s!"keyword {word}")
  | .case operand branches otherwise => do
    let o ← tokensOfOption r [space] operand
    let b ← tokensOfBranches r branches
    let e ← tokensOfOption r [space, .keyword .else_, space] otherwise
    return .keyword .case_ :: o ++ b ++ e ++ [space, .keyword .end_]
  | .subquery query => return parens (← query.tokens r)
  | .exists query negated => do
    let t ← query.tokens r
    return (if negated then [.keyword .not, space] else []) ++ [.keyword .exists_, space] ++ parens t
  | .inList operand values negated =>
    if values.isEmpty then .ok [.keyword (if negated then .true_ else .false_)]
    else do
      let t ← operand.tokens r
      let vs ← tokensOfExprs r values
      return parensIf operand.needsParensInPredicate t ++ negation negated
        ++ [space, .keyword .in_, space] ++ parens (commaList vs)
  | .inQuery operand query negated => do
    let t ← operand.tokens r
    let q ← query.tokens r
    return parensIf operand.needsParensInPredicate t ++ negation negated
      ++ [space, .keyword .in_, space] ++ parens q
  | .between operand low high negated => do
    let t ← operand.tokens r
    let l ← low.tokens r
    let h ← high.tokens r
    return parensIf operand.needsParensInPredicate t ++ negation negated
      ++ clause .between (parensIf low.needsParensInPredicate l)
      ++ clause .and (parensIf high.needsParensInPredicate h)
  | .isNull operand negated => do
    let t ← operand.tokens r
    return parensIf operand.needsParensInPredicate t
      ++ [space, .keyword (if negated then .isNotNull else .isNull)]
  | .like operand pattern negated => do
    let t ← operand.tokens r
    let p ← pattern.tokens r
    return parensIf operand.needsParensInPredicate t ++ negation negated
      ++ clause .like (parensIf pattern.needsParensInPredicate p)
  | .cast operand type => do
    let name ← r.typeName type
    let t ← operand.tokens r
    return .keyword .cast :: parens (t ++ [space, .keyword .as_, space, .typeName name])
  | .index array index =>
    match r.indexStyle with
    | .unsupported => .error (r.unsupported "array element access")
    | .oneBased => do
      let a ← array.tokens r
      let i ← index.tokens r
      return parensIf array.needsParensAsAtom a ++ brackets i
    | .ordinal => do
      let a ← array.tokens r
      let i ← index.tokens r
      return parensIf array.needsParensAsAtom a ++ brackets (.function "ORDINAL" :: parens i)
    | .zeroBased => do
      let a ← array.tokens r
      let i ← match index with
        | .literal (.int n) => pure [.int (n - 1)]
        | other => do
          let t ← other.tokens r
          pure (parens t ++ [space, .symbol .minus, space, .int 1])
      return parensIf array.needsParensAsAtom a ++ brackets i
  | .array items =>
    match r.arrayStyle with
    | .bracket => return brackets (commaList (← tokensOfExprs r items))
    | .keyword => return .keyword .array :: brackets (commaList (← tokensOfExprs r items))
    | .call function => return .function function :: parens (commaList (← tokensOfExprs r items))
    | .unsupported => .error (r.unsupported "array constructors")
  | .star qualifier => .ok (qualifierTokens qualifier ++ [.symbol .star])
  | .paren inner => return parens (← inner.tokens r)
  | .unsupported detail => .error (r.unsupported detail)
where
  negation (negated : Bool) : List Token := if negated then [space, .keyword .not] else []

def tokensOfExprs (r : Rules) : List Expr → Except EmitError (List (List Token))
  | [] => .ok []
  | e :: rest => do
    let t ← e.tokens r
    let ts ← tokensOfExprs r rest
    return t :: ts

def tokensOfOption (r : Rules) (lead : List Token) : Option Expr → Emitted
  | none => .ok []
  | some e => return lead ++ (← e.tokens r)

def tokensOfBranches (r : Rules) : List (Expr × Expr) → Emitted
  | [] => .ok []
  | (condition, result) :: rest => do
    let c ← condition.tokens r
    let t ← result.tokens r
    let ts ← tokensOfBranches r rest
    return clause .when_ c ++ clause .then_ t ++ ts

def SelectItem.tokens (r : Rules) : SelectItem → Emitted
  | ⟨expr, label⟩ => return (← expr.tokens r) ++ columnAliasTokens label

def tokensOfItems (r : Rules) : List SelectItem → Except EmitError (List (List Token))
  | [] => .ok []
  | item :: rest => do
    let t ← item.tokens r
    let ts ← tokensOfItems r rest
    return t :: ts

def Relation.tokens (r : Rules) : Relation → Emitted
  | .table name label => .ok (path name ++ aliasTokens label)
  | .derived query label => return parens (← query.tokens r) ++ aliasTokens label
  | .unnest exprs label =>
    if r.unnest then do
      let ts ← tokensOfExprs r exprs
      return .keyword .unnest :: parens (commaList ts) ++ aliasTokens label
    else .error (r.unsupported "UNNEST")

def JoinConstraint.tokens (r : Rules) : JoinConstraint → Emitted
  | .on condition => return clause .on_ (← condition.tokens r)
  | .using columns => .ok (clause .using_ (parens (identList columns)))
  | .none => .ok []

def Join.tokens (r : Rules) : Join → Emitted
  | ⟨type, relation, constraint⟩ =>
    if type = .full ∧ !r.fullJoin then .error (r.unsupported "FULL OUTER JOIN")
    else do
      let t ← relation.tokens r
      let c ← constraint.tokens r
      return type.keywords ++ space :: t ++ c

def tokensOfJoins (r : Rules) : List Join → Emitted
  | [] => .ok []
  | join :: rest => do
    let t ← join.tokens r
    let ts ← tokensOfJoins r rest
    return space :: t ++ ts

def FromItem.tokens (r : Rules) : FromItem → Emitted
  | ⟨relation, joins⟩ => do
    let t ← relation.tokens r
    let ts ← tokensOfJoins r joins
    return t ++ ts

def tokensOfSources (r : Rules) : List FromItem → Except EmitError (List (List Token))
  | [] => .ok []
  | item :: rest => do
    let t ← item.tokens r
    let ts ← tokensOfSources r rest
    return t :: ts

def Select.tokens (r : Rules) : Select → Emitted
  | ⟨distinct, projection, sources, selection, groupBy, having⟩ => do
    let p ← tokensOfItems r projection
    let f ← tokensOfSources r sources
    let w ← tokensOfOption r [space, .keyword .where_, space] selection
    let g ← tokensOfExprs r groupBy
    let h ← tokensOfOption r [space, .keyword .having_, space] having
    return .keyword .select :: (if distinct then [space, .keyword .distinct] else [])
      ++ (if p.isEmpty then [] else space :: commaList p)
      ++ listClause .from_ f ++ w ++ listClause .groupBy g ++ h

def Body.tokens (r : Rules) : Body → Emitted
  | .select s => s.tokens r
  | .setOp op all left right => do
    let l ← left.operandTokens r
    let t ← right.operandTokens r
    return setOpTokens r op all l t
  | .query q => q.tokens r

/-- Without parentheses an operand can be a SELECT or another set operation, but no clauses. -/
def Body.operandTokens (r : Rules) : Body → Emitted
  | .select s => return parensIf r.operandParens (← s.tokens r)
  | .setOp op all left right => do
    let l ← left.operandTokens r
    let t ← right.operandTokens r
    return parensIf r.operandParens (setOpTokens r op all l t)
  | .query q =>
    if r.operandParens then return parens (← q.tokens r)
    else if q.hasClauses then
      .error (r.unsupported "ORDER BY or LIMIT inside a compound SELECT operand")
    else q.bodyOperandTokens r

def Query.bodyOperandTokens (r : Rules) : Query → Emitted
  | ⟨_, _, body, _, _, _⟩ => body.operandTokens r

def OrderItem.tokens (r : Rules) : OrderItem → Emitted
  | ⟨expr, dir, nulls⟩ => return (← expr.tokens r) ++ SortDir.tokens dir ++ NullsOrder.tokens nulls

def tokensOfOrder (r : Rules) : List OrderItem → Except EmitError (List (List Token))
  | [] => .ok []
  | item :: rest => do
    let t ← item.tokens r
    let ts ← tokensOfOrder r rest
    return t :: ts

def Cte.tokens (r : Rules) : Cte → Emitted
  | ⟨name, columns, query⟩ => do
    let t ← query.tokens r
    return .ident name :: (if columns.isEmpty then [] else space :: parens (identList columns))
      ++ clause .as_ (parens t)

def tokensOfCtes (r : Rules) : List Cte → Except EmitError (List (List Token))
  | [] => .ok []
  | cte :: rest => do
    let t ← cte.tokens r
    let ts ← tokensOfCtes r rest
    return t :: ts

def Query.tokens (r : Rules) : Query → Emitted
  | ⟨ctes, recursive, body, orderBy, limit, offset⟩ => do
    let c ← tokensOfCtes r ctes
    let b ← body.tokens r
    let o ← tokensOfOrder r orderBy
    let l ← tokensOfOption r [space, .keyword .limit, space] limit
    let f ← tokensOfOption r (offsetPrelude r limit.isSome ++ [space, .keyword .offset, space]) offset
    return (if c.isEmpty then []
        else .keyword .with_ :: (if recursive then [space, .keyword .recursive] else [])
          ++ space :: commaList c ++ [space])
      ++ b ++ listClause .orderBy o ++ l ++ f

end

def Expr.sql (d : Dialect) (e : Expr) : Except EmitError String :=
  (e.tokens d.rules).map (Token.render d.rules)

def Query.sql (d : Dialect) (q : Query) : Except EmitError String :=
  (q.tokens d.rules).map (Token.render d.rules)

end QueryBridge
