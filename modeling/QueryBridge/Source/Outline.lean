import QueryBridge.Source.NormalForm

set_option autoImplicit false

namespace QueryBridge.Source

def bracketed (texts : List String) : String := "[" ++ commaJoin texts ++ "]"

def shape (name part : String) : String := name ++ inParens part

def record (name : String) (parts : List (String × String)) : String :=
  name ++ " " ++ inBraces (" " ++ commaJoin (parts.map fun p => p.1 ++ ": " ++ p.2) ++ " ")

def outlineChar (c : Char) : List Char :=
  if c = '"' then ['\\', '"']
  else if c = '\\' then ['\\', '\\']
  else if c = '\n' then ['\\', 'n']
  else if c = '\r' then ['\\', 'r']
  else if c = '\t' then ['\\', 't']
  else if c.toNat = 0 then ['\\', '0']
  else if c.toNat < 32 || c.toNat = 127 then
    '\\' :: 'u' :: '\x7b' :: Nat.toDigits 16 c.toNat ++ ['\x7d']
  else [c]

def outlineText (text : String) : String :=
  String.ofList ('"' :: text.toList.flatMap outlineChar ++ ['"'])

def outlineBool (b : Bool) : String := if b then "true" else "false"

def outlinePart : Option String → String
  | some text => shape "Some" text
  | none => "None"

def Position.outline (p : Position) : String :=
  shape "Location" (toString p.line ++ "," ++ toString p.column)

def Span.outline (s : Span) : String := shape "Span" (s.start.outline ++ ".." ++ s.stop.outline)

def Ident.outline (name : Ident) : String :=
  let mark := match name.quote with
    | some '\'' => "Some('\\'')"
    | some c => "Some('" ++ c.toString ++ "')"
    | none => "None"
  record "Ident"
    [("value", outlineText name.text), ("quote_style", mark), ("span", name.span.outline)]

def outlineNames (names : List Ident) : String := bracketed (names.map (·.outline))

def StringForm.shapeName : StringForm → String
  | plain '\'' => "SingleQuotedString"
  | plain _ => "DoubleQuotedString"
  | triple '\'' => "TripleSingleQuotedString"
  | triple _ => "TripleDoubleQuotedString"
  | bytes '\'' => "SingleQuotedByteStringLiteral"
  | bytes _ => "DoubleQuotedByteStringLiteral"
  | tripleBytes '\'' => "TripleSingleQuotedByteStringLiteral"
  | tripleBytes _ => "TripleDoubleQuotedByteStringLiteral"
  | raw '\'' => "SingleQuotedRawStringLiteral"
  | raw _ => "DoubleQuotedRawStringLiteral"
  | tripleRaw '\'' => "TripleSingleQuotedRawStringLiteral"
  | tripleRaw _ => "TripleDoubleQuotedRawStringLiteral"
  | national => "NationalStringLiteral"
  | escaped => "EscapedStringLiteral"
  | unicode => "UnicodeStringLiteral"
  | hex => "HexStringLiteral"
  | dollar _ => "DollarQuotedString"

def Value.outline : Value → String
  | number text long => shape "Number" (outlineText text ++ ", " ++ outlineBool long)
  | string (.dollar tag) text =>
    let tag? := if tag.isEmpty then none else some (outlineText tag)
    shape "DollarQuotedString" (record "DollarQuotedString"
      [("value", outlineText text), ("tag", outlinePart tag?)])
  | string form text => shape form.shapeName (outlineText text)
  | bool b => shape "Boolean" (outlineBool b)
  | null => "Null"
  | placeholder text => shape "Placeholder" (outlineText text)

def knownOutline : BinaryOp → String
  | .eq => "Eq"
  | .ne => "NotEq"
  | .lt => "Lt"
  | .gt => "Gt"
  | .lte => "LtEq"
  | .gte => "GtEq"
  | .and => "And"
  | .or => "Or"
  | .plus => "Plus"
  | .minus => "Minus"
  | .mul => "Multiply"
  | .div => "Divide"
  | .mod => "Modulo"
  | .concat => "StringConcat"

def otherOutlines : List (String × String) :=
  [("XOR", "Xor"), ("<=>", "Spaceship"), ("|", "BitwiseOr"), ("&", "BitwiseAnd"),
    ("//", "DuckIntegerDivide"), ("#", "PGBitwiseXor"), ("<<", "PGBitwiseShiftLeft"),
    (">>", "PGBitwiseShiftRight"), ("&&", "PGOverlap"), ("^@", "PGStartsWith"),
    ("~", "PGRegexMatch"), ("~*", "PGRegexIMatch"), ("!~", "PGRegexNotMatch"),
    ("!~*", "PGRegexNotIMatch"), ("~~", "PGLikeMatch"), ("~~*", "PGILikeMatch"),
    ("!~~", "PGNotLikeMatch"), ("!~~*", "PGNotILikeMatch"), ("->", "Arrow"), ("->>", "LongArrow"),
    ("#>", "HashArrow"), ("#>>", "HashLongArrow"), ("@>", "AtArrow"), ("<@", "ArrowAt"),
    ("#-", "HashMinus"), ("@?", "AtQuestion"), ("@@", "AtAt"), ("?", "Question"),
    ("?&", "QuestionAnd"), ("?|", "QuestionPipe")]

def Operator.outline (d : Dialect) : Operator → String
  | known op => knownOutline op
  | other "^" => if d = .postgres then "PGExp" else "BitwiseXor"
  | other text => (otherOutlines.lookup text).getD (shape "Custom" (outlineText text))

def Sign.outline : Sign → String
  | not => "Not"
  | minus => "Minus"
  | plus => "Plus"
  | other "!" => "PGPostfixFactorial"
  | other "!!" => "PGPrefixFactorial"
  | other "|/" => "PGSquareRoot"
  | other "||/" => "PGCubeRoot"
  | other "@" => "PGAbs"
  | other _ => "PGBitwiseNot"

def Quantifier.outline : Quantifier → String
  | distinct => "Distinct"
  | _ => "All"

def NullTreatment.outline : NullTreatment → String
  | ignore => "IgnoreNulls"
  | respect => "RespectNulls"

def CastKind.outline : CastKind → String
  | cast => "Cast"
  | tryCast => "TryCast"
  | safeCast => "SafeCast"
  | doubleColon => "DoubleColon"

def typeOutlines : List (String × String) :=
  [("TINYINT", "TinyInt(None)"), ("SMALLINT", "SmallInt(None)"), ("INT2", "Int2(None)"),
    ("MEDIUMINT", "MediumInt(None)"), ("INT", "Int(None)"), ("INT4", "Int4(None)"),
    ("INT8", "Int8(None)"), ("INTEGER", "Integer(None)"), ("BIGINT", "BigInt(None)"),
    ("INT64", "Int64"), ("FLOAT", "Float(None)"), ("FLOAT4", "Float4"), ("FLOAT8", "Float8"),
    ("FLOAT64", "Float64"), ("REAL", "Real"), ("DOUBLE", "Double"),
    ("DOUBLE PRECISION", "DoublePrecision"), ("NUMERIC", "Numeric(None)"),
    ("DECIMAL", "Decimal(None)"), ("DEC", "Dec(None)"), ("BIGNUMERIC", "BigNumeric(None)"),
    ("BOOLEAN", "Boolean"), ("BOOL", "Bool"), ("CHAR", "Char(None)"),
    ("CHARACTER", "Character(None)"), ("VARCHAR", "Varchar(None)"), ("NVARCHAR", "Nvarchar(None)"),
    ("TEXT", "Text"), ("STRING", "String(None)"), ("BYTES", "Bytes(None)"), ("BYTEA", "Bytea"),
    ("DATE", "Date"), ("TIME", "Time(None, None)"), ("TIMESTAMP", "Timestamp(None, None)"),
    ("TIMESTAMPTZ", "Timestamp(None, Tz)"), ("DATETIME", "Datetime(None)"),
    ("INTERVAL", "Interval"), ("JSON", "JSON"), ("JSONB", "JSONB"), ("UUID", "Uuid")]

mutual

def Expr.outline (d : Dialect) : Expr → String
  | .ident name => shape "Identifier" name.outline
  | .path parts => shape "CompoundIdentifier" (outlineNames parts)
  | .value v => shape "Value" v.outline
  | .binary op left right => record "BinaryOp"
      [("left", left.outline d), ("op", op.outline d), ("right", right.outline d)]
  | .signed sign operand => record "UnaryOp" [("op", sign.outline), ("expr", operand.outline d)]
  | .nested inner => shape "Nested" (inner.outline d)
  | .call c => shape "Function" (c.outline d)
  | .case operand branches otherwise => record "Case"
      [("operand", outlineOption d operand), ("conditions", bracketed (outlineConditions d branches)),
       ("results", bracketed (outlineResults d branches)), ("else_result", outlineOption d otherwise)]
  | .inList operand values negated => record "InList"
      [("expr", operand.outline d), ("list", bracketed (outlineAll d values)),
       ("negated", outlineBool negated)]
  | .between operand low high negated => record "Between"
      [("expr", operand.outline d), ("negated", outlineBool negated), ("low", low.outline d),
       ("high", high.outline d)]
  | .isNull operand negated => shape (if negated then "IsNotNull" else "IsNull") (operand.outline d)
  | .like operand pattern negated any escape => record "Like"
      [("negated", outlineBool negated), ("any", outlineBool any), ("expr", operand.outline d),
       ("pattern", pattern.outline d), ("escape_char", outlinePart (escape.map outlineText))]
  | .array named items => shape "Array" (record "Array"
      [("elem", bracketed (outlineAll d items)), ("named", outlineBool named)])
  | .element array index => record "Subscript"
      [("expr", array.outline d), ("subscript", record "Index" [("index", index.outline d)])]
  | .subquery q => inParens q.render
  | .exists q negated => negatedText negated ++ "EXISTS " ++ inParens q.render
  | .inQuery operand q negated =>
    operand.render ++ " " ++ negatedText negated ++ "IN " ++ inParens q.render
  | .cast kind operand type format => record "Cast"
      [("kind", kind.outline), ("expr", operand.outline d),
       ("data_type", (typeOutlines.lookup type).getD type), ("format", outlinePart format)]
  | .slice array bounds => array.render ++ "[" ++ bounds ++ "]"
  | .phrase text => text

def outlineAll (d : Dialect) : List Expr → List String
  | [] => []
  | e :: rest => e.outline d :: outlineAll d rest

def outlineOption (d : Dialect) : Option Expr → String
  | none => "None"
  | some e => shape "Some" (e.outline d)

def outlineConditions (d : Dialect) : List (Expr × Expr) → List String
  | [] => []
  | (condition, _) :: rest => condition.outline d :: outlineConditions d rest

def outlineResults (d : Dialect) : List (Expr × Expr) → List String
  | [] => []
  | (_, result) :: rest => result.outline d :: outlineResults d rest

def Arg.outline (d : Dialect) : Arg → String
  | .expr e => shape "Unnamed" (shape "Expr" (e.outline d))
  | .star => shape "Unnamed" "Wildcard"
  | .pathStar path =>
    shape "Unnamed" (shape "QualifiedWildcard" (shape "ObjectName" (outlineNames path)))
  | .named text => text

def outlineArgs (d : Dialect) : List Arg → List String
  | [] => []
  | a :: rest => a.outline d :: outlineArgs d rest

def Args.outline (d : Dialect) : Args → String
  | .none => "None"
  | .query q => shape "Subquery" q.render
  | .list treatment args clauses => shape "List" (record "FunctionArgumentList"
      [("duplicate_treatment", outlinePart (treatment.map (·.outline))),
       ("args", bracketed (outlineArgs d args)), ("clauses", bracketed clauses)])

def Call.outline (d : Dialect) : Call → String
  | ⟨name, args, withinGroup, filter, nulls, windowed, braced⟩ => record "Function"
      [("name", shape "ObjectName" (outlineNames name)), ("uses_odbc_syntax", outlineBool braced),
       ("parameters", "None"), ("args", args.outline d), ("filter", outlinePart filter),
       ("null_treatment", outlinePart (nulls.map (·.outline))), ("over", outlinePart windowed),
       ("within_group", bracketed withinGroup.toList)]

end

def Constraint.outline (d : Dialect) : Constraint → String
  | .on e => shape "On" (e.outline d)
  | .using columns => shape "Using" (outlineNames columns)
  | .natural => "Natural"
  | .none => "None"

def Join.outline (d : Dialect) (j : Join) : String :=
  let constraint := j.constraint.outline d
  match j.operator with
  | .inner => shape "Inner" constraint
  | .left => shape "LeftOuter" constraint
  | .right => shape "RightOuter" constraint
  | .full => shape "FullOuter" constraint
  | .cross => "CrossJoin"
  | .crossApply => "CrossApply"
  | .outerApply => "OuterApply"
  | .semi => shape "Semi" constraint
  | .leftSemi => shape "LeftSemi" constraint
  | .rightSemi => shape "RightSemi" constraint
  | .anti => shape "Anti" constraint
  | .leftAnti => shape "LeftAnti" constraint
  | .rightAnti => shape "RightAnti" constraint
  | .asOf =>
    let nearest := match j.nearest with
      | some e => e.outline d
      | none => ""
    record "AsOf" [("match_condition", nearest), ("constraint", constraint)]

end QueryBridge.Source
