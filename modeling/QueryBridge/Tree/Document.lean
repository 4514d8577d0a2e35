import QueryBridge.Decimal.Layout
import QueryBridge.Json.Basic
import QueryBridge.Tree.Basic

set_option autoImplicit false

namespace QueryBridge

open Json

def DataType.toJson : DataType → Json
  | .scalar t => .record [("Scalar", .string t.wireName)]
  | .decimal p s =>
    .record [("Decimal", .record [("precision", ofOption count p), ("scale", ofOption count s)])]
  | .char n => .record [("Char", ofOption count n)]
  | .varchar n => .record [("Varchar", ofOption count n)]
  | .array e => .record [("Array", e.toJson)]
  | .interval q => .record [("Interval", ofOption .string q)]
  | .unrecognized s => .record [("Unrecognized", .string s)]
where
  count (n : UInt32) : Json := .int n.toNat

namespace BinaryOp

def all : List BinaryOp := [eq, ne, lt, gt, lte, gte, and, or, plus, minus, mul, div, mod, concat]

def wireName : BinaryOp → String
  | eq => "=" | ne => "<>" | lt => "<" | gt => ">" | lte => "<=" | gte => ">=" | and => "AND" | or => "OR"
  | plus => "+" | minus => "-" | mul => "*" | div => "/" | mod => "%" | concat => "||"

end BinaryOp

namespace JoinType

def all : List JoinType := [inner, left, right, full, cross]

def wireName : JoinType → String
  | inner => "inner" | left => "left" | right => "right" | full => "full" | cross => "cross"

end JoinType

namespace SetOp

def all : List SetOp := [union, intersect, except]

def wireName : SetOp → String
  | union => "union" | intersect => "intersect" | except => "except"

end SetOp

def SortDir.wireName : SortDir → String
  | asc => "asc" | desc => "desc"

def NullsOrder.wireName : NullsOrder → String
  | first => "first" | last => "last"

def node (kind : String) (members : List (String × Json)) : Json := .record (("kind", .string kind) :: members)

def Literal.toJson : Literal → Json
  | .int n => node "int" [("value", .int n.toInt)]
  | .float x => node "float" [("value", .string x.render)]
  | .decimal s => node "decimal" [("value", .string s)]
  | .string s => node "string" [("value", .string s)]
  | .bool b => node "bool" [("value", .bool b)]
  | .null => node "null" []
  | .placeholder s => node "placeholder" [("value", .string s)]

def TableAlias.toJson (a : TableAlias) : Json :=
  .record [("name", .string a.name), ("columns", strings a.columns)]

mutual

def Expr.toJson : Expr → Json
  | .column q n => node "column" [("qualifier", strings q), ("name", .string n)]
  | .literal l => l.toJson
  | .binary op l r => node "binary" [("op", .string op.wireName), ("left", l.toJson), ("right", r.toJson)]
  | .not e => node "not" [("expr", e.toJson)]
  | .neg e => node "neg" [("expr", e.toJson)]
  | .call f args d =>
    node "function" [("name", .string f), ("args", .list (exprsJson args)), ("distinct", .bool d)]
  | .keyword w => node "keyword" [("name", .string w)]
  | .case operand branches otherwise =>
    node "case" [("operand", optionJson operand), ("when", .list (branchesJson branches)),
      ("else", optionJson otherwise)]
  | .subquery q => node "subquery" [("query", q.toJson)]
  | .exists q negated => node "exists" [("query", q.toJson), ("negated", .bool negated)]
  | .inList e values negated =>
    node "in" [("expr", e.toJson), ("values", .list (exprsJson values)), ("negated", .bool negated)]
  | .inQuery e q negated =>
    node "in_subquery" [("expr", e.toJson), ("query", q.toJson), ("negated", .bool negated)]
  | .between e low high negated =>
    node "between" [("expr", e.toJson), ("low", low.toJson), ("high", high.toJson), ("negated", .bool negated)]
  | .isNull e negated => node "is_null" [("expr", e.toJson), ("negated", .bool negated)]
  | .like e pattern negated =>
    node "like" [("expr", e.toJson), ("pattern", pattern.toJson), ("negated", .bool negated)]
  | .cast e type => node "cast" [("expr", e.toJson), ("type", type.toJson)]
  | .index a i => node "index" [("array", a.toJson), ("index", i.toJson)]
  | .array items => node "array" [("items", .list (exprsJson items))]
  | .star q => node "star" [("qualifier", strings q)]
  | .paren e => node "paren" [("expr", e.toJson)]
  | .unsupported s => node "unsupported" [("detail", .string s)]

def exprsJson : List Expr → List Json
  | [] => []
  | e :: rest => e.toJson :: exprsJson rest

def optionJson : Option Expr → Json
  | none => .null
  | some e => e.toJson

def branchesJson : List (Expr × Expr) → List Json
  | [] => []
  | (condition, result) :: rest => .list [condition.toJson, result.toJson] :: branchesJson rest

def SelectItem.toJson : SelectItem → Json
  | ⟨e, label⟩ => .record [("expr", e.toJson), ("alias", ofOption .string label)]

def itemsJson : List SelectItem → List Json
  | [] => []
  | i :: rest => i.toJson :: itemsJson rest

def Relation.toJson : Relation → Json
  | .table path label => node "table" [("name", strings path), ("alias", ofOption TableAlias.toJson label)]
  | .derived q label => node "derived" [("query", q.toJson), ("alias", ofOption TableAlias.toJson label)]
  | .unnest exprs label =>
    node "unnest" [("exprs", .list (exprsJson exprs)), ("alias", ofOption TableAlias.toJson label)]

def JoinConstraint.toJson : JoinConstraint → Json
  | .on e => .record [("on", e.toJson)]
  | .using columns => .record [("using", strings columns)]
  | .none => .null

def Join.toJson : Join → Json
  | ⟨type, relation, constraint⟩ =>
    .record [("type", .string type.wireName), ("relation", relation.toJson), ("constraint", constraint.toJson)]

def joinsJson : List Join → List Json
  | [] => []
  | j :: rest => j.toJson :: joinsJson rest

def FromItem.toJson : FromItem → Json
  | ⟨relation, joins⟩ => .record [("relation", relation.toJson), ("joins", .list (joinsJson joins))]

def sourcesJson : List FromItem → List Json
  | [] => []
  | s :: rest => s.toJson :: sourcesJson rest

def Select.toJson : Select → Json
  | ⟨distinct, projection, sources, selection, groupBy, having⟩ =>
    node "select" [("distinct", .bool distinct), ("projection", .list (itemsJson projection)),
      ("from", .list (sourcesJson sources)), ("where", optionJson selection),
      ("group_by", .list (exprsJson groupBy)), ("having", optionJson having)]

def Body.toJson : Body → Json
  | .select s => s.toJson
  | .setOp op all left right =>
    node "set" [("op", .string op.wireName), ("all", .bool all), ("left", left.toJson), ("right", right.toJson)]
  | .query q => node "query" [("query", q.toJson)]

def OrderItem.toJson : OrderItem → Json
  | ⟨e, dir, nulls⟩ =>
    .record [("expr", e.toJson), ("dir", ofOption (.string ·.wireName) dir),
      ("nulls", ofOption (.string ·.wireName) nulls)]

def orderJson : List OrderItem → List Json
  | [] => []
  | o :: rest => o.toJson :: orderJson rest

def Cte.toJson : Cte → Json
  | ⟨name, columns, query⟩ =>
    .record [("name", .string name), ("columns", strings columns), ("query", query.toJson)]

def ctesJson : List Cte → List Json
  | [] => []
  | c :: rest => c.toJson :: ctesJson rest

def Query.toJson : Query → Json
  | ⟨ctes, recursive, body, orderBy, limit, offset⟩ =>
    .record [("ctes", .list (ctesJson ctes)), ("recursive", .bool recursive), ("body", body.toJson),
      ("order_by", .list (orderJson orderBy)), ("limit", optionJson limit), ("offset", optionJson offset)]

end

end QueryBridge
