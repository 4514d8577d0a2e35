import QueryBridge.Decimal.Layout
import QueryBridge.Json.Basic

set_option autoImplicit false

namespace QueryBridge.Json

open Decimal

def hexDigit (n : Nat) : Char := (Nat.toDigits 16 n).headD '0'

/-- Characters below the blank are escaped, with a letter if they have one. -/
def escapeChar (c : Char) : List Char :=
  match c with
  | '"' => ['\\', '"']
  | '\\' => ['\\', '\\']
  | '\x08' => ['\\', 'b']
  | '\x0c' => ['\\', 'f']
  | '\n' => ['\\', 'n']
  | '\r' => ['\\', 'r']
  | '\t' => ['\\', 't']
  | c => if c.toNat < 32 then ['\\', 'u', '0', '0', hexDigit (c.toNat / 16), hexDigit (c.toNat % 16)] else [c]

def stringText (s : String) : String := String.ofList ('"' :: s.toList.flatMap escapeChar ++ ['"'])

def floatText (x : Binary64) : String := if x.isFinite then x.renderWith "+" else "null"

mutual

/-- A document without blanks. What is missing from a broken one is written as null. -/
def render : Json → String
  | .null | .unreadable | .broken _ => "null"
  | .bool b => if b then "true" else "false"
  | .int n => toString n
  | .float x => floatText x
  | .string s => stringText s
  | .array items _ => "[" ++ ",".intercalate (renderItems items) ++ "]"
  | .object members _ => "\x7b" ++ ",".intercalate (renderMembers members) ++ "\x7d"

def renderItems : List Json → List String
  | [] => []
  | j :: rest => render j :: renderItems rest

def renderMembers : List (Json × Json) → List String
  | [] => []
  | (key, value) :: rest => (render key ++ ":" ++ render value) :: renderMembers rest

end

def newLine (depth : Nat) : String := "\n" ++ String.ofList (List.replicate (2 * depth) ' ')

/-- Parts on lines of their own, one level deeper than the brackets; nothing between brackets stays empty. -/
def block (depth : Nat) (opening closing : String) (parts : List String) : String :=
  if parts.isEmpty then opening ++ closing
  else opening ++ newLine (depth + 1) ++ ("," ++ newLine (depth + 1)).intercalate parts ++ newLine depth ++ closing

mutual

def renderIndented (depth : Nat) : Json → String
  | .array items _ => block depth "[" "]" (indentedItems (depth + 1) items)
  | .object members _ => block depth "\x7b" "\x7d" (indentedMembers (depth + 1) members)
  | j => render j

def indentedItems (depth : Nat) : List Json → List String
  | [] => []
  | j :: rest => renderIndented depth j :: indentedItems depth rest

def indentedMembers (depth : Nat) : List (Json × Json) → List String
  | [] => []
  | (key, value) :: rest => (render key ++ ": " ++ renderIndented depth value) :: indentedMembers depth rest

end

def pretty (j : Json) : String := renderIndented 0 j

end QueryBridge.Json
