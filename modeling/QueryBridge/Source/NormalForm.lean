import QueryBridge.Emission.Precedence
import QueryBridge.Source.Syntax

set_option autoImplicit false

namespace QueryBridge.Source

def spaceJoin (parts : List String) : String := " ".intercalate parts

def commaJoin (parts : List String) : String := ", ".intercalate parts

def inParens (text : String) : String := "(" ++ text ++ ")"

def inBraces (text : String) : String := String.ofList ('\x7b' :: text.toList ++ ['\x7d'])

def behindBlank : Option String → String
  | some text => " " ++ text
  | none => ""

def spaced (parts : List (Option String)) : String := spaceJoin (parts.filterMap id)

def whenTrue (b : Bool) (text : String) : Option String := if b then some text else none

def eachBehindBlank (texts : List String) : String := String.join (texts.map (" " ++ ·))

/-- Doubles a mark unless it is doubled already or stands behind a backslash. -/
def doubleMarks (mark previous : Char) : List Char → List Char
  | [] => []
  | [c] => if c = mark && previous != '\\' then [c, c] else [c]
  | c :: next :: rest =>
    if c = mark then
      if previous = '\\' then c :: doubleMarks mark previous (next :: rest)
      else if next = mark then c :: c :: doubleMarks mark c rest
      else c :: c :: doubleMarks mark c (next :: rest)
    else c :: doubleMarks mark c (next :: rest)

def marked (mark : Char) (text : String) : String :=
  String.ofList (mark :: doubleMarks mark '\x00' text.toList ++ [mark])

def Ident.render (name : Ident) : String :=
  match name.quote with
  | none => name.text
  | some '[' => "[" ++ name.text ++ "]"
  | some mark => marked mark name.text

def Ident.verbatim (name : Ident) : String :=
  match name.quote with
  | none => name.text
  | some '[' => "[" ++ name.text ++ "]"
  | some mark => String.ofList (mark :: name.text.toList ++ [mark])

def dotted (path : List Ident) : String := ".".intercalate (path.map (·.render))

def identList (names : List Ident) : String := commaJoin (names.map (·.render))

def escapeBack : Char → List Char
  | '\'' => ['\\', '\'']
  | '\\' => ['\\', '\\']
  | '\n' => ['\\', 'n']
  | '\t' => ['\\', 't']
  | '\r' => ['\\', 'r']
  | c => [c]

def upperHex (width n : Nat) : List Char :=
  let ds := (Nat.toDigits 16 n).map Char.toUpper
  List.replicate (width - ds.length) '0' ++ ds

def codePointBack (c : Char) : List Char :=
  if c = '\'' then ['\'', '\'']
  else if c = '\\' then ['\\', '\\']
  else if c.toNat < 128 then [c]
  else if c.toNat ≤ 0xffff then '\\' :: upperHex 4 c.toNat
  else '\\' :: '+' :: upperHex 6 c.toNat

def between (count : Nat) (mark : Char) (text : String) : String :=
  let marks := String.ofList (List.replicate count mark)
  marks ++ text ++ marks

def StringForm.render (form : StringForm) (text : String) : String :=
  match form with
  | plain mark => marked mark text
  | triple mark => between 3 mark text
  | bytes mark => "B" ++ between 1 mark text
  | tripleBytes mark => "B" ++ between 3 mark text
  | raw mark => "R" ++ between 1 mark text
  | tripleRaw mark => "R" ++ between 3 mark text
  | national => "N" ++ between 1 '\'' text
  | escaped => "E" ++ between 1 '\'' (String.ofList (text.toList.flatMap escapeBack))
  | unicode => "U&" ++ between 1 '\'' (String.ofList (text.toList.flatMap codePointBack))
  | hex => "X" ++ between 1 '\'' text
  | dollar tag => "$" ++ tag ++ "$" ++ text ++ "$" ++ tag ++ "$"

def Value.render : Value → String
  | number text long => if long then text ++ "L" else text
  | string form text => form.render text
  | bool b => if b then "true" else "false"
  | null => "NULL"
  | placeholder text => text

def Operator.text : Operator → String
  | known .and => "AND"
  | known .or => "OR"
  | known .concat => "||"
  | known op => match op.token.fixedText with
    | some text => text
    | none => ""
  | other text => text

def Sign.text : Sign → String
  | not => "NOT"
  | minus => "-"
  | plus => "+"
  | other text => text

def NullTreatment.text : NullTreatment → String
  | respect => "RESPECT NULLS"
  | ignore => "IGNORE NULLS"

def Quantifier.text : Quantifier → String
  | all => "ALL"
  | distinct => "DISTINCT"
  | byName => "BY NAME"
  | allByName => "ALL BY NAME"
  | distinctByName => "DISTINCT BY NAME"

def setOpText : SetOp → String
  | .union => "UNION"
  | .intersect => "INTERSECT"
  | .except => "EXCEPT"

def AliasColumn.render (c : AliasColumn) : String := c.name.render ++ behindBlank c.type

def AliasName.render (a : AliasName) : String :=
  a.name.render
    ++ if a.columns.isEmpty then "" else " " ++ inParens (commaJoin (a.columns.map (·.render)))

def asAlias : Option AliasName → String
  | some a => " AS " ++ a.render
  | none => ""

def asIdent : Option Ident → String
  | some name => " AS " ++ name.render
  | none => ""

def JoinOperator.text : JoinOperator → String
  | inner => "JOIN"
  | left => "LEFT JOIN"
  | right => "RIGHT JOIN"
  | full => "FULL JOIN"
  | cross => "CROSS JOIN"
  | crossApply => "CROSS APPLY"
  | outerApply => "OUTER APPLY"
  | semi => "SEMI JOIN"
  | leftSemi => "LEFT SEMI JOIN"
  | rightSemi => "RIGHT SEMI JOIN"
  | anti => "ANTI JOIN"
  | leftAnti => "LEFT ANTI JOIN"
  | rightAnti => "RIGHT ANTI JOIN"
  | asOf => "ASOF JOIN"

def negatedText (negated : Bool) : String := if negated then "NOT " else ""

mutual

def Expr.render : Expr → String
  | .ident name => name.render
  | .path parts => dotted parts
  | .value v => v.render
  | .binary op left right => left.render ++ " " ++ op.text ++ " " ++ right.render
  | .signed .not operand => "NOT " ++ operand.render
  | .signed (.other "!") operand => operand.render ++ "!"
  | .signed sign operand => sign.text ++ operand.render
  | .nested inner => inParens inner.render
  | .call c => c.render
  | .case operand branches otherwise =>
    "CASE" ++ renderOption " " operand ++ renderBranches branches ++ renderOption " ELSE " otherwise
      ++ " END"
  | .subquery q => inParens q.render
  | .exists q negated => negatedText negated ++ "EXISTS " ++ inParens q.render
  | .inList operand values negated =>
    operand.render ++ " " ++ negatedText negated ++ "IN " ++ inParens (commaJoin (renderAll values))
  | .inQuery operand q negated =>
    operand.render ++ " " ++ negatedText negated ++ "IN " ++ inParens q.render
  | .between operand low high negated =>
    operand.render ++ " " ++ negatedText negated ++ "BETWEEN " ++ low.render ++ " AND " ++ high.render
  | .isNull operand negated => operand.render ++ " IS " ++ negatedText negated ++ "NULL"
  | .like operand pattern negated any escape =>
    operand.render ++ " " ++ negatedText negated ++ "LIKE " ++ (if any then "ANY " else "")
      ++ pattern.render ++ match escape with
        | some text => " ESCAPE '" ++ text ++ "'"
        | none => ""
  | .cast .doubleColon operand type _ => operand.render ++ "::" ++ type
  | .cast kind operand type format =>
    let word := match kind with
      | .tryCast => "TRY_CAST"
      | .safeCast => "SAFE_CAST"
      | _ => "CAST"
    word ++ inParens (operand.render ++ " AS " ++ type ++ match format with
      | some text => " FORMAT " ++ text
      | none => "")
  | .array named items => (if named then "ARRAY" else "") ++ "[" ++ commaJoin (renderAll items) ++ "]"
  | .element array index => array.render ++ "[" ++ index.render ++ "]"
  | .slice array bounds => array.render ++ "[" ++ bounds ++ "]"
  | .phrase text => text

def renderAll : List Expr → List String
  | [] => []
  | e :: rest => e.render :: renderAll rest

def renderOption (lead : String) : Option Expr → String
  | none => ""
  | some e => lead ++ e.render

def renderBranches : List (Expr × Expr) → String
  | [] => ""
  | (condition, result) :: rest =>
    " WHEN " ++ condition.render ++ " THEN " ++ result.render ++ renderBranches rest

def Arg.render : Arg → String
  | .expr e => e.render
  | .star => "*"
  | .pathStar path => dotted path ++ ".*"
  | .named text => text

def renderArgs : List Arg → List String
  | [] => []
  | a :: rest => a.render :: renderArgs rest

def Args.render : Args → String
  | .none => ""
  | .query q => inParens q.render
  | .list treatment args clauses =>
    let lead := match treatment with
      | some q => q.text ++ " "
      | none => ""
    let listed := renderArgs args
    let gap := if listed.isEmpty || clauses.isEmpty then "" else " "
    inParens (lead ++ commaJoin listed ++ gap ++ spaceJoin clauses)

def Call.render : Call → String
  | ⟨name, args, withinGroup, filter, nulls, windowed, braced⟩ =>
    let text := dotted name ++ args.render ++ behindBlank withinGroup ++ behindBlank filter
      ++ behindBlank (nulls.map (·.text)) ++ behindBlank windowed
    if braced then inBraces ("fn " ++ text) else text

def Item.render : Item → String
  | .expr e label => e.render ++ asIdent label
  | .star options => spaceJoin ("*" :: options)
  | .pathStar path options => spaceJoin ((dotted path ++ ".*") :: options)

def renderItems : List Item → List String
  | [] => []
  | i :: rest => i.render :: renderItems rest

def Relation.render : Relation → String
  | .table name args ordinality label clauses =>
    dotted name ++ (args.map inParens).getD "" ++ (if ordinality then " WITH ORDINALITY" else "")
      ++ asAlias label ++ eachBehindBlank clauses
  | .derived lateral q label =>
    (if lateral then "LATERAL " else "") ++ inParens q.render ++ asAlias label
  | .unnest exprs ordinality label offset offsetAlias =>
    "UNNEST" ++ inParens (commaJoin (renderAll exprs))
      ++ (if ordinality then " WITH ORDINALITY" else "") ++ asAlias label
      ++ (if offset then " WITH OFFSET" else "") ++ asIdent offsetAlias
  | .phrase text label => text ++ asAlias label
  | .group inner label => inParens inner.render ++ asAlias label

def Constraint.render : Constraint → String
  | .on e => " ON " ++ e.render
  | .using columns => " USING" ++ inParens (identList columns)
  | .natural | .none => ""

def Join.render : Join → String
  | ⟨global, operator, relation, nearest, constraint⟩ =>
    let natural := match constraint with
      | .natural => "NATURAL "
      | _ => ""
    (if global then "GLOBAL " else "") ++ natural ++ operator.text ++ " " ++ relation.render
      ++ renderOption " MATCH_CONDITION (" nearest ++ (if nearest.isSome then ")" else "")
      ++ constraint.render

def renderJoins : List Join → String
  | [] => ""
  | j :: rest => " " ++ j.render ++ renderJoins rest

def FromItem.render : FromItem → String
  | ⟨relation, joins⟩ => relation.render ++ renderJoins joins

def renderSources : List FromItem → List String
  | [] => []
  | s :: rest => s.render :: renderSources rest

def Distinct.render : Distinct → String
  | .all => ""
  | .distinct => " DISTINCT"
  | .on keys => " DISTINCT ON " ++ inParens (commaJoin (renderAll keys))

def Grouping.render : Grouping → String
  | .by keys =>
    let listed := renderAll keys
    if listed.isEmpty then "" else " GROUP BY " ++ commaJoin listed
  | .all => " GROUP BY ALL"

def Select.render : Select → String
  | ⟨mode, repeated, top, items, into, sources, views, selection, grouping, tail, having, windows,
      qualify, windowsFirst, hierarchy⟩ =>
    let listed := renderSources sources
    "SELECT" ++ behindBlank mode ++ repeated.render ++ behindBlank top ++ " "
      ++ commaJoin (renderItems items) ++ behindBlank into
      ++ (if listed.isEmpty then "" else " FROM " ++ commaJoin listed)
      ++ eachBehindBlank views ++ renderOption " WHERE " selection ++ grouping.render
      ++ eachBehindBlank tail ++ renderOption " HAVING " having
      ++ (if windowsFirst then behindBlank windows ++ behindBlank qualify
          else behindBlank qualify ++ behindBlank windows)
      ++ behindBlank hierarchy

def Body.render : Body → String
  | .select s => s.render
  | .setOp op quantifier left right =>
    left.render ++ " " ++ setOpText op ++ behindBlank (quantifier.map (·.text)) ++ " " ++ right.render
  | .query q => inParens q.render
  | .phrase text => text

def OrderItem.render : OrderItem → String
  | ⟨expr, ascending, nullsFirst⟩ =>
    expr.render ++ (match ascending with
      | some true => " ASC"
      | some false => " DESC"
      | none => "") ++ match nullsFirst with
      | some true => " NULLS FIRST"
      | some false => " NULLS LAST"
      | none => ""

def renderOrder : List OrderItem → List String
  | [] => []
  | o :: rest => o.render :: renderOrder rest

def Cte.render : Cte → String
  | ⟨label, materialized, query, source⟩ =>
    label.render ++ " AS" ++ behindBlank materialized ++ " " ++ inParens query.render
      ++ match source with
        | some name => " FROM " ++ name.render
        | none => ""

def renderCtes : List Cte → List String
  | [] => []
  | c :: rest => c.render :: renderCtes rest

def Query.render : Query → String
  | ⟨ctes, recursive, body, orderBy, limit, offset, offsetRows, fetch, locks, markup⟩ =>
    let named := renderCtes ctes
    let ordered := renderOrder orderBy
    (if named.isEmpty then ""
      else "WITH " ++ (if recursive then "RECURSIVE " else "") ++ commaJoin named ++ " ")
      ++ body.render ++ (if ordered.isEmpty then "" else " ORDER BY " ++ commaJoin ordered)
      ++ renderOption " LIMIT " limit ++ renderOption " OFFSET " offset ++ behindBlank offsetRows
      ++ behindBlank fetch ++ eachBehindBlank locks ++ behindBlank markup

end

def Statement.render : Statement → String
  | .query q => q.render
  | .other text => text

end QueryBridge.Source
