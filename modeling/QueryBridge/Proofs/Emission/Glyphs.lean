import Mathlib.Data.List.Chain
import QueryBridge.Emission.Token

set_option autoImplicit false

namespace QueryBridge

def Token.isQuoted : Token → Bool
  | ident _ | string _ => true
  | _ => false

end QueryBridge

namespace QueryBridge.Emission

/-- A character, and whether it stands outside of quotes. -/
abbrev Glyph := Char × Bool

def bare (c : Char) : Glyph := (c, true)

def glyphs (r : Rules) (t : Token) : List Glyph := (t.text r).toList.map fun c => (c, !t.isQuoted)

def spelled (r : Rules) (ts : List Token) : List Glyph := ts.flatMap (glyphs r)

def HasOpener (gs : List Glyph) : Prop :=
  [bare '-', bare '-'] <:+: gs ∨ [bare '/', bare '*'] <:+: gs

instance (gs : List Glyph) : Decidable (HasOpener gs) := inferInstanceAs (Decidable (_ ∨ _))

/-- The second character does not make a comment open behind the first. -/
def Apart (a b : Glyph) : Prop :=
  ¬ ((a = bare '-' ∧ b = bare '-') ∨ (a = bare '/' ∧ b = bare '*'))

instance (a b : Glyph) : Decidable (Apart a b) := inferInstanceAs (Decidable (¬ _))

abbrev CommentFree (gs : List Glyph) : Prop := gs.IsChain Apart

variable {r : Rules}

theorem spelled_text (ts : List Token) : (spelled r ts).map (·.1) = (Token.render r ts).toList := by
  have single (t : Token) : (glyphs r t).map (·.1) = (t.text r).toList := by
    simp [glyphs, Function.comp_def]
  simp [spelled, Token.render, List.map_flatMap, List.flatMap_map, single]

theorem hasOpener_iff {gs : List Glyph} : HasOpener gs ↔ ¬ CommentFree gs := by
  have infix_iff (a b : Glyph) : [a, b] <:+: gs ↔ ∃ l l', gs = l ++ a :: b :: l' := by
    constructor
    · rintro ⟨l, l', h⟩
      exact ⟨l, l', by simpa using h.symm⟩
    · rintro ⟨l, l', h⟩
      exact ⟨l, l', by simpa using h.symm⟩
  unfold CommentFree
  rw [List.isChain_iff_forall_rel_of_append_cons_cons]
  simp only [HasOpener, infix_iff, Apart, not_forall, not_not]
  constructor
  · rintro (⟨l, l', h⟩ | ⟨l, l', h⟩)
    · exact ⟨_, _, l, l', h, .inl ⟨rfl, rfl⟩⟩
    · exact ⟨_, _, l, l', h, .inr ⟨rfl, rfl⟩⟩
  · rintro ⟨a, b, l, l', h, ⟨rfl, rfl⟩ | ⟨rfl, rfl⟩⟩
    · exact .inl ⟨l, l', h⟩
    · exact .inr ⟨l, l', h⟩

def Leads (gs : List Glyph) : Prop := ∀ g ∈ gs.head?, g ≠ bare '-' ∧ g ≠ bare '*'

def Trails (gs : List Glyph) : Prop := ∀ g ∈ gs.getLast?, g ≠ bare '-' ∧ g ≠ bare '/'

theorem apart_of_second {a b : Glyph} (h : b ≠ bare '-' ∧ b ≠ bare '*') : Apart a b := by
  rintro (⟨-, rfl⟩ | ⟨-, rfl⟩)
  · exact h.1 rfl
  · exact h.2 rfl

theorem apart_of_first {a b : Glyph} (h : a ≠ bare '-' ∧ a ≠ bare '/') : Apart a b := by
  rintro (⟨rfl, -⟩ | ⟨rfl, -⟩)
  · exact h.1 rfl
  · exact h.2 rfl

theorem commentFree_append_of_leads {xs ys : List Glyph} (h : Leads ys) :
    CommentFree (xs ++ ys) ↔ CommentFree xs ∧ CommentFree ys := by
  unfold CommentFree
  rw [List.isChain_append]
  exact ⟨fun h => ⟨h.1, h.2.1⟩, fun h' => ⟨h'.1, h'.2, fun a _ b hb => apart_of_second (h b hb)⟩⟩

theorem commentFree_append_of_trails {xs ys : List Glyph} (h : Trails xs) :
    CommentFree (xs ++ ys) ↔ CommentFree xs ∧ CommentFree ys := by
  unfold CommentFree
  rw [List.isChain_append]
  exact ⟨fun h => ⟨h.1, h.2.1⟩, fun h' => ⟨h'.1, h'.2, fun a ha b _ => apart_of_first (h a ha)⟩⟩

def isMark (c : Char) : Bool := c == '-' || c == '/' || c == '*'

/-- No comment opens in the text, nor would one across its ends. -/
structure Tame (s : List Char) : Prop where
  dashes : ¬ ['-', '-'] <:+: s
  slashStar : ¬ ['/', '*'] <:+: s
  head : ∀ c ∈ s.head?, isMark c = false
  last : ∀ c ∈ s.getLast?, isMark c = false

def Plain (s : List Char) : Prop := ∀ c ∈ s, isMark c = false

instance (s : List Char) : Decidable (Plain s) := List.decidableBAll (fun c => isMark c = false) s

def asBare (s : List Char) : List Glyph := s.map bare

theorem isMark_eq_false {c : Char} : isMark c = false ↔ c ≠ '-' ∧ c ≠ '/' ∧ c ≠ '*' := by
  simp [isMark, and_assoc]

theorem commentFree_asBare {s : List Char} (dashes : ¬ ['-', '-'] <:+: s) (slashStar : ¬ ['/', '*'] <:+: s) :
    CommentFree (asBare s) := by
  unfold CommentFree asBare
  rw [List.isChain_map, List.isChain_iff_forall_rel_of_append_cons_cons]
  rintro a b l l' rfl
  rintro (⟨ha, hb⟩ | ⟨ha, hb⟩)
  · cases ha
    cases hb
    exact dashes ⟨l, l', by simp⟩
  · cases ha
    cases hb
    exact slashStar ⟨l, l', by simp⟩

namespace Tame

variable {s : List Char} (h : Tame s)

include h

theorem commentFree : CommentFree (asBare s) := commentFree_asBare h.dashes h.slashStar

theorem leads : Leads (asBare s) := by
  intro g hg
  rw [asBare, List.head?_map, Option.mem_def, Option.map_eq_some_iff] at hg
  obtain ⟨c, hc, rfl⟩ := hg
  have plain := isMark_eq_false.1 (h.head c hc)
  simp [bare, plain]

theorem trails : Trails (asBare s) := by
  intro g hg
  rw [asBare, List.getLast?_map, Option.mem_def, Option.map_eq_some_iff] at hg
  obtain ⟨c, hc, rfl⟩ := hg
  have plain := isMark_eq_false.1 (h.last c hc)
  simp [bare, plain]

end Tame

namespace Plain

variable {s t : List Char}

theorem tame (h : Plain s) : Tame s where
  dashes hs := by simpa [isMark] using h '-' (hs.subset List.mem_cons_self)
  slashStar hs := by simpa [isMark] using h '/' (hs.subset List.mem_cons_self)
  head c hc := h c (List.mem_of_mem_head? hc)
  last c hc := h c (List.mem_of_getLast? hc)

theorem append (hs : Plain s) (ht : Plain t) : Plain (s ++ t) := List.forall_mem_append.2 ⟨hs, ht⟩

end Plain

/-- No comment opens in the text of the tokens. -/
def Free (r : Rules) (ts : List Token) : Prop := CommentFree (spelled r ts)

/-- Whatever stands in front of the tokens, no comment opens where they begin. -/
def Fresh (r : Rules) (ts : List Token) : Prop := Leads (spelled r ts)

def Dashed (r : Rules) (ts : List Token) : Prop := (spelled r ts).head? = some (bare '-')

/-- The token has a text, no comment opens in it and none across its ends. -/
structure Inert (r : Rules) (t : Token) : Prop where
  free : Free r [t]
  fresh : Fresh r [t]
  nonempty : glyphs r t ≠ []
  trails : Trails (glyphs r t)

section

variable {t : Token} {xs ys : List Token}

theorem spelled_cons : spelled r (t :: xs) = glyphs r t ++ spelled r xs := List.flatMap_cons

theorem spelled_append : spelled r (xs ++ ys) = spelled r xs ++ spelled r ys := List.flatMap_append

theorem spelled_singleton : spelled r [t] = glyphs r t := List.flatMap_singleton _ _

@[simp] theorem free_nil : Free r [] := List.isChain_nil

@[simp] theorem fresh_nil : Fresh r [] := nofun

@[simp] theorem fresh_append (hx : Fresh r xs) (hy : Fresh r ys) : Fresh r (xs ++ ys) := by
  intro g hg
  rw [spelled_append, List.head?_append, Option.mem_def, Option.or_eq_some_iff] at hg
  exact hg.elim (hx g) fun h => hy g h.2

theorem fresh_cons (ht : Fresh r [t]) (hx : Fresh r xs) : Fresh r (t :: xs) := fresh_append ht hx

theorem Inert.fresh_cons (h : Inert r t) : Fresh r (t :: xs) := by
  intro g hg
  rw [spelled_cons, List.head?_append_of_ne_nil _ h.nonempty, ← spelled_singleton] at hg
  exact h.fresh g hg

theorem Fresh.not_dashed (h : Fresh r xs) : ¬ Dashed r xs := fun dash => (h _ dash).1 rfl

@[simp] theorem free_append (h : Fresh r ys) : Free r (xs ++ ys) ↔ Free r xs ∧ Free r ys := by
  rw [Free, spelled_append, commentFree_append_of_leads h]
  rfl

theorem free_cons (h : Fresh r xs) : Free r (t :: xs) ↔ Free r [t] ∧ Free r xs :=
  show Free r ([t] ++ xs) ↔ _ from free_append h

theorem free_inert_cons (h : Inert r t) : Free r (t :: xs) ↔ Free r xs := by
  rw [Free, spelled_cons, commentFree_append_of_trails h.trails, ← spelled_singleton]
  exact and_iff_right h.free

end

theorem glyphs_bare {t : Token} (h : t.isQuoted = false) : glyphs r t = asBare (t.text r).toList := by
  rw [glyphs, h]
  rfl

section

variable {t : Token} (bare : t.isQuoted = false) (tame : Tame (t.text r).toList)

include bare tame

theorem free_of_tame : Free r [t] := by
  rw [Free, spelled_singleton, glyphs_bare bare]
  exact tame.commentFree

theorem fresh_of_tame : Fresh r [t] := by
  rw [Fresh, spelled_singleton, glyphs_bare bare]
  exact tame.leads

end

section

variable {t : Token} (quoted : t.isQuoted)

include quoted

theorem quoted_ne_bare {c : Char} {g : Glyph} (h : g ∈ glyphs r t) : g ≠ bare c := by
  rintro rfl
  simp [glyphs, quoted, bare] at h

theorem free_of_quoted : Free r [t] := by
  rw [Free, spelled_singleton, CommentFree, List.isChain_iff_forall_rel_of_append_cons_cons]
  intro a b l l' split
  have mem : b ∈ glyphs r t := by simp [split]
  exact apart_of_second ⟨quoted_ne_bare quoted mem, quoted_ne_bare quoted mem⟩

theorem fresh_of_quoted : Fresh r [t] := by
  intro g hg
  rw [spelled_singleton] at hg
  have mem := List.mem_of_mem_head? hg
  exact ⟨quoted_ne_bare quoted mem, quoted_ne_bare quoted mem⟩

end

theorem inert_of_plain {t : Token} (bare : t.isQuoted = false) (nonempty : t.text r ≠ "")
    (plain : Plain (t.text r).toList) : Inert r t where
  free := free_of_tame bare plain.tame
  fresh := fresh_of_tame bare plain.tame
  nonempty := by simpa [glyphs] using nonempty
  trails := by
    rw [glyphs_bare bare]
    exact plain.tame.trails

theorem inert_keyword (k : Keyword) : Inert r (.keyword k) := by
  have plain : k.text ≠ "" ∧ Plain k.text.toList := by cases k <;> decide +kernel
  exact inert_of_plain rfl plain.1 plain.2

@[simp] def markSymbols : List Symbol := [.minus, .mul, .star, .div]

theorem inert_symbol {s : Symbol} (h : s ∉ markSymbols) : Inert r (.symbol s) := by
  have plain : s.text ≠ "" ∧ Plain s.text.toList := by
    cases s with
    | minus | mul | star | div => simp at h
    | _ => decide
  exact inert_of_plain rfl plain.1 plain.2

end QueryBridge.Emission
