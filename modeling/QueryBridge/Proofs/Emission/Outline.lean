import Mathlib.Data.List.Basic
import QueryBridge.Emission.Token

set_option autoImplicit false

namespace QueryBridge.Emission

open Token (space parens)

inductive Item where
  | token (t : Token)
  | group (items : List Item)
  | case (items : List Item)

inductive Bracket where
  | paren
  | case
  deriving DecidableEq

def Bracket.item : Bracket → List Item → Item
  | paren => .group
  | case => .case

/-- The items since the innermost open bracket, and in front of each open bracket the items before it. -/
structure Scan where
  current : List Item
  opened : List (Bracket × List Item)

namespace Scan

def openBracket (s : Scan) (b : Bracket) : Scan := ⟨[], (b, s.current) :: s.opened⟩

def closeBracket (s : Scan) (b : Bracket) : Option Scan :=
  match s.opened with
  | (b', before) :: rest => if b' = b then some ⟨before ++ [b.item s.current], rest⟩ else none
  | [] => none

def extend (s : Scan) (items : List Item) : Scan := ⟨s.current ++ items, s.opened⟩

def step (s : Scan) : Token → Option Scan
  | .symbol .space => some s
  | .symbol .leftParen => some (s.openBracket .paren)
  | .symbol .rightParen => s.closeBracket .paren
  | .keyword .case_ => some (s.openBracket .case)
  | .keyword .end_ => s.closeBracket .case
  | t => some (s.extend [.token t])

def run (s : Scan) (ts : List Token) : Option Scan := ts.foldlM step s

theorem run_nil (s : Scan) : s.run [] = some s := rfl

theorem run_cons (s : Scan) (t : Token) (ts : List Token) : s.run (t :: ts) = (s.step t).bind (·.run ts) := rfl

theorem run_append (s : Scan) (xs ys : List Token) : s.run (xs ++ ys) = (s.run xs).bind (·.run ys) :=
  List.foldlM_append

end Scan

def outline (ts : List Token) : Option (List Item) :=
  match Scan.run ⟨[], []⟩ ts with
  | some ⟨items, []⟩ => some items
  | _ => none

def isPlain : Token → Bool
  | .symbol .space | .symbol .leftParen | .symbol .rightParen | .keyword .case_ | .keyword .end_ => false
  | _ => true

/-- The stream has matching brackets and the items for its outline. -/
inductive Outlined : List Token → List Item → Prop
  | nil : Outlined [] []
  | space : Outlined [space] []
  | token {t : Token} (plain : isPlain t) : Outlined [t] [.token t]
  | append {xs ys : List Token} {is js : List Item} (hx : Outlined xs is) (hy : Outlined ys js) :
    Outlined (xs ++ ys) (is ++ js)
  | parens {xs : List Token} {is : List Item} (hx : Outlined xs is) : Outlined (parens xs) [.group is]
  | case {xs : List Token} {is : List Item} (hx : Outlined xs is) :
    Outlined (.keyword .case_ :: xs ++ [.keyword .end_]) [.case is]

namespace Outlined

variable {ts xs : List Token} {is js : List Item} {t : Token}

theorem cons (plain : isPlain t) (h : Outlined xs is) : Outlined (t :: xs) (.token t :: is) :=
  (token plain).append h

theorem cons_space (h : Outlined xs is) : Outlined (Token.space :: xs) is := space.append h

theorem run_eq (h : Outlined ts is) (s : Scan) : s.run ts = some (s.extend is) := by
  induction h generalizing s with
  | nil => simp [Scan.run_nil, Scan.extend]
  | space => simp [Scan.run_cons, Scan.run_nil, Scan.step, Token.space, Scan.extend]
  | @token t plain =>
    rw [Scan.run_cons]
    unfold Scan.step
    split
    all_goals first | rfl | cases plain
  | append hx hy ihx ihy => simp [Scan.run_append, ihx, ihy, Scan.extend]
  | parens hx ih =>
    have opened : s.step (.symbol .leftParen) = some (s.openBracket .paren) := rfl
    rw [Token.parens, List.cons_append, Scan.run_cons, opened, Option.bind_some, Scan.run_append, ih]
    rfl
  | case hx ih =>
    have opened : s.step (.keyword .case_) = some (s.openBracket .case) := rfl
    rw [List.cons_append, Scan.run_cons, opened, Option.bind_some, Scan.run_append, ih]
    rfl

theorem outline_eq (h : Outlined ts is) : outline ts = some is := by
  rw [outline, h.run_eq]
  rfl

theorem unique (h : Outlined ts is) (h' : Outlined ts js) : is = js :=
  Option.some.inj (h.outline_eq.symm.trans h'.outline_eq)

end Outlined

mutual

/-- The tokens outside of parentheses; those of a CASE stand there as well. -/
def Item.surface : Item → List Token
  | .token t => [t]
  | .group _ => []
  | .case items => surface items

def surface : List Item → List Token
  | [] => []
  | item :: rest => item.surface ++ surface rest

end

/-- The keywords that only the framework of a query has. -/
def queryWord? : Token → Option Keyword
  | .keyword k => match k with
    | .select | .union | .intersect | .except | .with_ | .orderBy | .limit | .offset => some k
    | _ => none
  | _ => none

def words (items : List Item) : List Keyword := (surface items).filterMap queryWord?

section

variable {is js : List Item}

theorem surface_append : surface (is ++ js) = surface is ++ surface js := by
  induction is with
  | nil => rw [List.nil_append, surface, List.nil_append]
  | cons i is ih => rw [List.cons_append, surface, surface, ih, List.append_assoc]

theorem surface_singleton {i : Item} : surface [i] = i.surface := by
  rw [surface, surface, List.append_nil]

theorem words_append : words (is ++ js) = words is ++ words js := by
  simp [words, surface_append]

end

/-- The brackets of the stream match, and outside of parentheses it has just these words. -/
def HasWords (ts : List Token) (ws : List Keyword) : Prop := ∃ is, Outlined ts is ∧ words is = ws

abbrev Quiet (ts : List Token) : Prop := HasWords ts []

section

variable {xs ys : List Token} {ws vs : List Keyword} {t : Token}

theorem hasWords_nil : Quiet [] := ⟨[], .nil, rfl⟩

theorem hasWords_space : Quiet [space] := ⟨[], .space, rfl⟩

theorem hasWords_token (plain : isPlain t) : HasWords [t] (queryWord? t).toList := by
  refine ⟨[.token t], .token plain, ?_⟩
  rw [words, surface_singleton, Item.surface]
  cases word : queryWord? t <;> simp [word]

theorem HasWords.append (hx : HasWords xs ws) (hy : HasWords ys vs) : HasWords (xs ++ ys) (ws ++ vs) := by
  obtain ⟨is, hx, rfl⟩ := hx
  obtain ⟨js, hy, rfl⟩ := hy
  exact ⟨is ++ js, hx.append hy, words_append⟩

theorem HasWords.parens (h : HasWords xs ws) : Quiet (parens xs) := by
  obtain ⟨is, h, -⟩ := h
  refine ⟨[.group is], h.parens, ?_⟩
  rw [words, surface_singleton, Item.surface, List.filterMap_nil]

theorem HasWords.case (h : HasWords xs ws) : HasWords (Token.keyword .case_ :: xs ++ [Token.keyword .end_]) ws := by
  obtain ⟨is, h, rfl⟩ := h
  refine ⟨[.case is], h.case, ?_⟩
  rw [words, surface_singleton, Item.surface, words]

theorem HasWords.cons_space (h : HasWords xs ws) : HasWords (space :: xs) ws := hasWords_space.append h

theorem HasWords.cons (plain : isPlain t) (h : HasWords xs ws) : HasWords (t :: xs) ((queryWord? t).toList ++ ws) :=
  (hasWords_token plain).append h

end

end QueryBridge.Emission
