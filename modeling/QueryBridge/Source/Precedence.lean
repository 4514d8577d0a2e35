import QueryBridge.Source.TypeNames

set_option autoImplicit false

namespace QueryBridge.Source

inductive Rank where
  | access | subscript | collation | timeZone | power | times | plus | exclusiveOr | ampersand
  | caret | pipe | special | between | like | compare | is | arrow | not | and | or
  deriving DecidableEq, Repr

def sharedLevel : Rank → Nat
  | .access | .subscript => 50
  | .collation => 0
  | .timeZone => 41
  | .power | .times => 40
  | .plus => 30
  | .exclusiveOr => 24
  | .ampersand => 23
  | .caret => 22
  | .pipe => 21
  | .between | .compare => 20
  | .like => 19
  | .is => 17
  | .special | .arrow => 16
  | .not => 15
  | .and => 10
  | .or => 5

def postgresLevel : Rank → Nat
  | .access => 140
  | .subscript => 130
  | .collation => 120
  | .timeZone => 110
  | .power | .caret => 100
  | .times => 90
  | .plus => 80
  | .exclusiveOr => 75
  | .special | .arrow | .ampersand | .pipe => 70
  | .between | .like => 60
  | .compare => 50
  | .is => 40
  | .not => 30
  | .and => 20
  | .or => 10

def level (d : Dialect) : Rank → Nat := if d = .postgres then postgresLevel else sharedLevel

def predicateRank? : String → Option Rank
  | "IN" | "BETWEEN" => some .between
  | "LIKE" | "ILIKE" | "RLIKE" | "REGEXP" | "SIMILAR" => some .like
  | _ => none

/-- The rank of a keyword behind an operand; `next` and `later` are the keywords after it. -/
def wordRank? (d : Dialect) (key next later : String) : Option Rank :=
  match key with
  | "OR" => some .or
  | "AND" => some .and
  | "XOR" => some .exclusiveOr
  | "AT" => if next = "TIME" && later = "ZONE" then some .timeZone else none
  | "NOT" => predicateRank? next
  | "IS" => some .is
  | "OPERATOR" => some .between
  | "DIV" => some .times
  | "COLLATE" => if d = .postgres then some .collation else none
  | _ => predicateRank? key

def symbolRank? (d : Dialect) (text : String) : Option Rank :=
  match text with
  | "=" | "==" | "<>" | "<" | "<=" | ">" | ">=" | "<=>" => some .compare
  | "~" | "~*" | "!~" | "!~*" | "~~" | "~~*" | "!~~" | "!~~*" => some .compare
  | "+" | "-" => some .plus
  | "*" | "/" | "//" | "%" => some .times
  | "||" => some (if d = .postgres then .special else .times)
  | "|" => some .pipe
  | "&" => some .ampersand
  | "^" => some .caret
  | "#" | "<<" | ">>" => some (if d = .postgres then .special else .caret)
  | "::" => some .access
  | "[" => some .subscript
  | ":" => if d.dataPaths then some .access else none
  | "!" | "&&" | "^@" => some (if d = .postgres then .special else .access)
  | "->" | "->>" | "#>" | "#>>" | "@>" | "<@" | "#-" | "@?" | "@@" | "?" | "?&" | "?|" => some .arrow
  | _ => none

/-- The level of what comes next, zero if it does not continue an expression. -/
def followingLevel (d : Dialect) (s : List Placed) : Nat :=
  let key (n : Nat) := ((s[n]?).map (·.lexeme.key)).getD ""
  let rank := match s.head?.map (·.lexeme) with
    | some (.word _) => wordRank? d (key 0) (key 1) (key 2)
    | some (.symbol text) => symbolRank? d text
    | some (.operator _) => some .special
    | _ => none
  (rank.map (level d)).getD 0

def symbolOperator? (d : Dialect) (text : String) : Option Operator :=
  match text with
  | "=" | "==" => some (.known .eq)
  | "<>" => some (.known .ne)
  | "<" => some (.known .lt)
  | "<=" => some (.known .lte)
  | ">" => some (.known .gt)
  | ">=" => some (.known .gte)
  | "+" => some (.known .plus)
  | "-" => some (.known .minus)
  | "*" => some (.known .mul)
  | "/" => some (.known .div)
  | "%" => some (.known .mod)
  | "||" => some (.known .concat)
  | "<<" | ">>" => if d.shiftOperators then some (.other text) else none
  | "#" | "&&" | "^@" => if d = .postgres then some (.other text) else none
  | "<=>" | "|" | "^" | "&" | "//" | "~" | "~*" | "!~" | "!~*" | "~~" | "~~*" | "!~~" | "!~~*"
  | "->" | "->>" | "#>" | "#>>" | "@>" | "<@" | "#-" | "@?" | "@@" | "?" | "?&" | "?|" =>
    some (.other text)
  | _ => none

def isComparison : Operator → Bool
  | .known .eq | .known .ne | .known .lt | .known .lte | .known .gt | .known .gte => true
  | _ => false

end QueryBridge.Source
