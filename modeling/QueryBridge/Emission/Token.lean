import QueryBridge.Decimal.Layout
import QueryBridge.Dialect.Catalogue

set_option autoImplicit false

namespace QueryBridge

inductive Keyword where
  | select | from_ | where_ | and | or | not | as_ | on_ | using_ | join | inner | left | right
  | full | outer | cross | groupBy | having_ | orderBy | asc | desc | nullsFirst | nullsLast
  | limit | offset | case_ | when_ | then_ | else_ | end_ | in_ | between | like | isNull
  | isNotNull | distinct | all | union | intersect | except | with_ | recursive | exists_ | cast
  | unnest | array | true_ | false_ | null
  deriving DecidableEq, Repr

def Keyword.text : Keyword → String
  | select => "SELECT" | from_ => "FROM" | where_ => "WHERE" | and => "AND" | or => "OR"
  | not => "NOT" | as_ => "AS" | on_ => "ON" | using_ => "USING" | join => "JOIN"
  | inner => "INNER" | left => "LEFT" | right => "RIGHT" | full => "FULL" | outer => "OUTER"
  | cross => "CROSS" | groupBy => "GROUP BY" | having_ => "HAVING" | orderBy => "ORDER BY"
  | asc => "ASC" | desc => "DESC" | nullsFirst => "NULLS FIRST" | nullsLast => "NULLS LAST"
  | limit => "LIMIT" | offset => "OFFSET" | case_ => "CASE" | when_ => "WHEN" | then_ => "THEN"
  | else_ => "ELSE" | end_ => "END" | in_ => "IN" | between => "BETWEEN" | like => "LIKE"
  | isNull => "IS NULL" | isNotNull => "IS NOT NULL" | distinct => "DISTINCT" | all => "ALL"
  | union => "UNION" | intersect => "INTERSECT" | except => "EXCEPT" | with_ => "WITH"
  | recursive => "RECURSIVE" | exists_ => "EXISTS" | cast => "CAST" | unnest => "UNNEST"
  | array => "ARRAY" | true_ => "TRUE" | false_ => "FALSE" | null => "NULL"

def Keyword.every : List Keyword :=
  [select, from_, where_, and, or, not, as_, on_, using_, join, inner, left, right, full, outer, cross,
    groupBy, having_, orderBy, asc, desc, nullsFirst, nullsLast, limit, offset, case_, when_, then_, else_,
    end_, in_, between, like, isNull, isNotNull, distinct, all, union, intersect, except, with_, recursive,
    exists_, cast, unnest, array, true_, false_, null]

def Keyword.ofText? (s : String) : Option Keyword := every.find? (·.text == s)

inductive Symbol where
  | comma | dot | star | leftParen | rightParen | leftBracket | rightBracket | eq | ne | lt | gt
  | lte | gte | plus | minus | mul | div | mod | space
  deriving DecidableEq, Repr

def Symbol.text : Symbol → String
  | comma => "," | dot => "." | star => "*" | leftParen => "(" | rightParen => ")"
  | leftBracket => "[" | rightBracket => "]" | eq => "=" | ne => "<>" | lt => "<" | gt => ">"
  | lte => "<=" | gte => ">=" | plus => "+" | minus => "-" | mul => "*" | div => "/" | mod => "%"
  | space => " "

inductive Token where
  | keyword (k : Keyword)
  | symbol (s : Symbol)
  /-- String concatenation, spelled by the dialect. -/
  | concat
  /-- A name, always quoted. -/
  | ident (name : String)
  /-- A plain word printed as it is, such as a date part. -/
  | word (text : String)
  | int (value : Int64)
  | float (value : Decimal.Binary64)
  | decimal (text : String)
  | string (value : String)
  | bool (value : Bool)
  | placeholder (text : String)
  | typeName (text : String)
  | function (name : String)
  deriving DecidableEq

namespace Token

def fixedText : Token → Option String
  | keyword k => some k.text
  | symbol s => some s.text
  | _ => none

def text (r : Rules) : Token → String
  | keyword k => k.text
  | symbol s => s.text
  | concat => r.concatOperator
  | ident name => r.quoteIdentifier name
  | word text | decimal text | placeholder text | typeName text => text
  | int n => toString n
  | float x => x.render
  | string s => r.quoteString s
  | bool b => r.formatBool b
  | function name => Text.upper ((r.remapFunction name).getD name)

def render (r : Rules) (tokens : List Token) : String := String.join (tokens.map (·.text r))

def space : Token := symbol .space

def parens (tokens : List Token) : List Token :=
  symbol .leftParen :: tokens ++ [symbol .rightParen]

def parensIf (b : Bool) (tokens : List Token) : List Token := if b then parens tokens else tokens

def brackets (tokens : List Token) : List Token :=
  symbol .leftBracket :: tokens ++ [symbol .rightBracket]

def commaList (parts : List (List Token)) : List Token :=
  List.intercalate [symbol .comma, space] parts

def clause (k : Keyword) (tokens : List Token) : List Token :=
  space :: keyword k :: space :: tokens

def path (parts : List String) : List Token :=
  List.intercalate [symbol .dot] (parts.map fun p => [ident p])

end Token

end QueryBridge
