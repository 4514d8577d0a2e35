import QueryBridge.Decimal.Binary64
import QueryBridge.Types.Scalar
import QueryBridge.Text.Case

set_option autoImplicit false

namespace QueryBridge

open Text

inductive DataType where
  | scalar (type : Scalar)
  | decimal (precision scale : Option UInt32)
  | char (length : Option UInt32)
  | varchar (length : Option UInt32)
  | array (element : DataType)
  | interval (qualifier : Option String)
  | unrecognized (name : String)
  deriving DecidableEq

namespace DataType

/-- The kinds that carry parameters have constructors of their own. -/
def ofScalar : Scalar → DataType
  | .decimal => decimal none none
  | .char => char none
  | .varchar => varchar none
  | t => scalar t

def scalar? : DataType → Option Scalar
  | scalar t => some t
  | decimal _ _ => some .decimal
  | char _ => some .char
  | varchar _ => some .varchar
  | array _ | interval _ | unrecognized _ => none

def withLength (name : String) : Option UInt32 → String
  | some n => s!"{name}({n})"
  | none => name

def withPrecision (name : String) : Option UInt32 → Option UInt32 → String
  | some p, some s => s!"{name}({p}, {s})"
  | some p, none => s!"{name}({p})"
  | none, _ => name

def intervalName : Option String → String
  | some q => "INTERVAL " ++ q
  | none => "INTERVAL"

def render : DataType → String
  | scalar t => t.sqlName
  | decimal p s => withPrecision "NUMERIC" p s
  | char n => withLength "CHAR" n
  | varchar n => withLength "VARCHAR" n
  | array e => e.render ++ "[]"
  | interval q => intervalName q
  | unrecognized name => name

/-- The text between `open` and `close` when `s` is `head`, blanks, and that bracketed text. -/
def bracketed? (head : String) (opening closing : Char) (s : List Char) : Option (List Char) :=
  if head.toList.isPrefixOf s then
    match trimChars (s.drop head.length) with
    | c :: rest =>
      if c = opening && rest.getLast? = some closing then some rest.dropLast else none
    | [] => none
  else none

def readUInt32? (s : List Char) : Option UInt32 :=
  let ds := match s with
    | '+' :: rest => rest
    | _ => s
  let n := ds.foldl (fun n c => 10 * n + (c.toNat - 48)) 0
  if ds.isEmpty || !ds.all Char.isDigit || Decimal.twoTo 32 ≤ n then none else some n.toUInt32

def splitCommas (s : List Char) : List (List Char) :=
  s.foldr (fun c parts => match c, parts with
    | ',', _ => [] :: parts
    | _, part :: more => (c :: part) :: more
    | _, [] => [[c]]) [[]]

def readDecimal? (inner : List Char) : Option DataType :=
  match (splitCommas inner).map trimChars with
  | [p] => (readUInt32? p).map fun p => decimal (some p) none
  | [p, s] => do return decimal (some (← readUInt32? p)) (some (← readUInt32? s))
  | _ => none

def readLength? (inner : List Char) : Option UInt32 := readUInt32? (trimChars inner)

def plainNames : List (String × DataType) :=
  [("bool", scalar .bool), ("boolean", scalar .bool), ("tinyint", scalar .int8),
    ("int1", scalar .int8), ("smallint", scalar .int16), ("int2", scalar .int16),
    ("int", scalar .int32), ("integer", scalar .int32), ("int4", scalar .int32),
    ("bigint", scalar .int64), ("int8", scalar .int64), ("int64", scalar .int64),
    ("real", scalar .float32), ("float4", scalar .float32), ("double", scalar .float64),
    ("float8", scalar .float64), ("float64", scalar .float64),
    ("double precision", scalar .float64), ("float", scalar .float64),
    ("decimal", decimal none none), ("numeric", decimal none none), ("number", decimal none none),
    ("bignumeric", decimal none none), ("bigdecimal", decimal none none), ("char", char none),
    ("character", char none), ("bpchar", char none), ("varchar", varchar none),
    ("character varying", varchar none), ("text", varchar none), ("string", varchar none),
    ("nvarchar", varchar none), ("binary", scalar .binary), ("blob", scalar .binary),
    ("bytea", scalar .binary), ("bytes", scalar .binary), ("varbinary", scalar .varbinary),
    ("date", scalar .date), ("time", scalar .time), ("time without time zone", scalar .time),
    ("timestamp", scalar .timestamp), ("datetime", scalar .timestamp),
    ("timestamp without time zone", scalar .timestamp), ("timestamptz", scalar .timestampTz),
    ("timestamp with time zone", scalar .timestampTz), ("json", scalar .json),
    ("jsonb", scalar .json), ("uuid", scalar .uuid)]

/-- The first of the heads that `s` brackets in parentheses decides. -/
def parenthesized? (heads : List String) (s : List Char) : Option (List Char) :=
  heads.findSome? fun head => bracketed? head '(' ')' s

/-- A type without element type: `lower` is the lower-case form of the text `shown`. -/
def readFlat (shown lower : List Char) : DataType :=
  let unknown := unrecognized (String.ofList shown)
  if lower = "interval".toList then interval none
  else if "interval ".toList.isPrefixOf lower then
    interval (some (String.ofList (upperChars (trimChars (lower.drop 9)))))
  else match parenthesized? ["decimal", "numeric", "number", "bignumeric"] lower with
  | some inner => (readDecimal? inner).getD unknown
  | none => match parenthesized? ["varchar", "character varying", "nvarchar"] lower with
  | some inner => ((readLength? inner).map fun n => varchar (some n)).getD unknown
  | none => match parenthesized? ["char", "character", "nchar"] lower with
  | some inner => ((readLength? inner).map fun n => char (some n)).getD unknown
  | none => (plainNames.lookup (String.ofList lower)).getD unknown

def element? (lower : List Char) : Option (List Char) :=
  if "[]".toList.isSuffixOf lower then some (lower.take (lower.length - 2))
  else bracketed? "array" '<' '>' lower

theorem bracketed?_length_lt {head : String} {opening closing : Char} {s t : List Char}
    (h : bracketed? head opening closing s = some t) : t.length < s.length := by
  unfold bracketed? at h
  split at h
  · split at h
    · rename_i c rest e
      split at h
      · obtain rfl := Option.some.inj h
        have hl := trimChars_length_le (s.drop head.length)
        rw [e] at hl
        simp only [List.length_cons, List.length_drop, List.length_dropLast] at hl ⊢
        omega
      · cases h
    · cases h
  · cases h

theorem element?_length_lt {s t : List Char} (h : element? s = some t) : t.length < s.length := by
  unfold element? at h
  split at h
  · obtain rfl := Option.some.inj h
    have hs : 2 ≤ s.length := by
      rename_i hsuffix
      exact (List.isSuffixOf_iff_suffix.1 hsuffix).length_le
    simp only [List.length_take]
    omega
  · exact bracketed?_length_lt h

def readLower (shown lower : List Char) : DataType :=
  match _h : element? lower with
  | some inner => array (readLower (trimChars inner) (trimChars inner))
  | none => readFlat shown lower
  termination_by lower.length
  decreasing_by
    exact Nat.lt_of_le_of_lt (trimChars_length_le inner) (element?_length_lt _h)

def parse (s : String) : DataType :=
  let shown := trimChars s.toList
  readLower shown (lowerChars shown)

end DataType

end QueryBridge
