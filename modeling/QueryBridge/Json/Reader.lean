import QueryBridge.Json.Number

set_option autoImplicit false

namespace QueryBridge.Json

open Decimal

def isSpace (c : Char) : Bool := c == ' ' || c == '\n' || c == '\t' || c == '\r'

def skipSpace (s : List Char) : List Char := s.dropWhile isSpace

def readWord (value : Json) : List Char → List Char → Taken
  | [], s => (value, some s)
  | _ :: _, [] => breakOff .cutWord
  | e :: expected, c :: rest => if e = c then readWord value expected rest else breakOff .malformed

def hexValue? (c : Char) : Option Nat :=
  if c.isDigit then some (c.toNat - '0'.toNat)
  else if 'a' ≤ c && c ≤ 'f' then some (c.toNat - 'a'.toNat + 10)
  else if 'A' ≤ c && c ≤ 'F' then some (c.toNat - 'A'.toNat + 10)
  else none

inductive Piece where
  | char (c : Char)
  | surrogate (unit : Nat)

/-- The four digits behind the `u` of an escape; a text with fewer than four bytes left is cut. -/
def readUnit (s : List Char) : Except JsonFault (Nat × List Char) :=
  match s with
  | a :: b :: c :: d :: rest =>
    match hexValue? a, hexValue? b, hexValue? c, hexValue? d with
    | some a, some b, some c, some d => .ok (((a * 16 + b) * 16 + c) * 16 + d, rest)
    | _, _, _, _ => .error .malformed
  | short => .error (if (String.ofList short).utf8ByteSize < 4 then .truncated else .malformed)

def isHigh (unit : Nat) : Bool := 0xD800 ≤ unit && unit ≤ 0xDBFF

def isLow (unit : Nat) : Bool := 0xDC00 ≤ unit && unit ≤ 0xDFFF

def pieceOfUnit (unit : Nat) : Piece :=
  if isHigh unit || isLow unit then .surrogate unit else .char (Char.ofNat unit)

def shortEscapes : List (Char × Char) :=
  [('"', '"'), ('\\', '\\'), ('/', '/'), ('b', '\x08'), ('f', '\x0c'), ('n', '\n'), ('r', '\r'), ('t', '\t')]

def readEscape : List Char → Except JsonFault (Piece × List Char)
  | [] => .error .truncated
  | c :: rest =>
    if c = 'u' then (readUnit rest).map fun r => (pieceOfUnit r.1, r.2)
    else match shortEscapes.lookup c with
      | some d => .ok (.char d, rest)
      | none => .error .malformed

def readPieces (fuel : Nat) (s : List Char) : Except JsonFault (List Piece × List Char) :=
  match fuel, s with
  | _, [] => .error .truncated
  | 0, _ => .error .truncated
  | fuel + 1, c :: rest =>
    if c = '"' then .ok ([], rest)
    else if c.toNat < 32 then .error .malformed
    else do
      let (piece, rest) ← if c = '\\' then readEscape rest else .ok (.char c, rest)
      let (pieces, rest) ← readPieces fuel rest
      return (piece :: pieces, rest)

/-- The text of the pieces: a high surrogate and the low one behind it are one character; others denote nothing. -/
def assemble? : List Piece → Option (List Char)
  | [] => some []
  | .char c :: rest => (assemble? rest).map (c :: ·)
  | .surrogate h :: .surrogate l :: rest =>
    if isHigh h && isLow l then
      (assemble? rest).map (Char.ofNat (0x10000 + (h - 0xD800) * 0x400 + (l - 0xDC00)) :: ·)
    else none
  | .surrogate _ :: _ => none

def readString (s : List Char) : Taken :=
  match readPieces s.length s with
  | .error fault => breakOff fault
  | .ok (pieces, rest) =>
    (((assemble? pieces).map fun cs => .string (String.ofList cs)).getD .unreadable, some rest)

/-- The key of a member. What is no string is still read, and counts as malformed if the text breaks off in it. -/
def keyOf (isQuoted : Bool) : Taken → Taken
  | (key, none) => match key with
    | .broken fault => breakOff (if isQuoted then fault else .malformed)
    | key => (key, none)
  | taken => taken

mutual

def readValue (fuel : Nat) (s : List Char) : Taken :=
  match fuel with
  | 0 => breakOff .truncated
  | fuel + 1 =>
    match skipSpace s with
    | [] => breakOff .truncated
    | c :: rest =>
      if c = '[' then
        let (items, stop, rest) := readItems fuel true rest
        (.array items stop, rest)
      else if c = '{' then
        let (members, stop, rest) := readMembers fuel true rest
        (.object members stop, rest)
      else if c = '"' then readString rest
      else if c = 'n' then readWord .null ['u', 'l', 'l'] rest
      else if c = 't' then readWord (.bool true) ['r', 'u', 'e'] rest
      else if c = 'f' then readWord (.bool false) ['a', 'l', 's', 'e'] rest
      else if c = '-' then readUnsigned true rest
      else if c.isDigit then readUnsigned false (c :: rest)
      else breakOff .malformed

def readItems (fuel : Nat) (isFirst : Bool) (s : List Char) :
    List Json × Option JsonFault × Option (List Char) :=
  match fuel with
  | 0 => ([], some .truncated, none)
  | fuel + 1 =>
    match skipSpace s with
    | [] => ([], some .truncated, none)
    | c :: rest =>
      if c = ']' then ([], none, some rest)
      else if isFirst then nextItem fuel (c :: rest)
      else if c = ',' then
        match skipSpace rest with
        | ']' :: _ => ([.broken .malformed], none, none)
        | rest => nextItem fuel rest
      else ([], some .malformed, none)

def nextItem (fuel : Nat) (s : List Char) : List Json × Option JsonFault × Option (List Char) :=
  match fuel with
  | 0 => ([], some .truncated, none)
  | fuel + 1 =>
    match readValue fuel s with
    | (item, none) => ([item], none, none)
    | (item, some rest) =>
      let (items, stop, rest) := readItems fuel false rest
      (item :: items, stop, rest)

def readMembers (fuel : Nat) (isFirst : Bool) (s : List Char) :
    List (Json × Json) × Option JsonFault × Option (List Char) :=
  match fuel with
  | 0 => ([], some .truncated, none)
  | fuel + 1 =>
    match skipSpace s with
    | [] => ([], some .truncated, none)
    | c :: rest =>
      if c = '}' then ([], none, some rest)
      else if isFirst then nextMember fuel (c :: rest)
      else if c = ',' then
        match skipSpace rest with
        | '}' :: _ => ([(.broken .malformed, .null)], none, none)
        | rest => nextMember fuel rest
      else ([], some .malformed, none)

def nextMember (fuel : Nat) (s : List Char) :
    List (Json × Json) × Option JsonFault × Option (List Char) :=
  match fuel with
  | 0 => ([], some .truncated, none)
  | fuel + 1 =>
    match keyOf (s.head? = some '"') (readValue fuel s) with
    | (key, none) => ([(key, .null)], none, none)
    | (key, some rest) =>
      match skipSpace rest with
      | [] => ([(key, .broken .truncated)], none, none)
      | c :: rest =>
        if c = ':' then
          match readValue fuel rest with
          | (value, none) => ([(key, value)], none, none)
          | (value, some rest) =>
            let (members, stop, rest) := readMembers fuel false rest
            ((key, value) :: members, stop, rest)
        else ([(key, .broken .malformed)], none, none)

end

def parse (text : String) : Json × Bool :=
  let s := text.toList
  match readValue (3 * s.length + 3) s with
  | (j, none) => (j, false)
  | (j, some rest) => (j, !(skipSpace rest).isEmpty)

end QueryBridge.Json
