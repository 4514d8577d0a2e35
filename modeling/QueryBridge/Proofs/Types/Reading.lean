import QueryBridge.Proofs.Text.LetterCase
import QueryBridge.Types.DataType

set_option autoImplicit false

namespace QueryBridge.DataType

open Text

def named? (lower : List Char) : Option DataType :=
  if lower = "interval".toList then some (interval none)
  else if "interval ".toList.isPrefixOf lower then
    some (interval (some (String.ofList (upperChars (trimChars (lower.drop 9))))))
  else match parenthesized? ["decimal", "numeric", "number", "bignumeric"] lower with
  | some inner => readDecimal? inner
  | none => match parenthesized? ["varchar", "character varying", "nvarchar"] lower with
  | some inner => (readLength? inner).map fun n => varchar (some n)
  | none => match parenthesized? ["char", "character", "nchar"] lower with
  | some inner => (readLength? inner).map fun n => char (some n)
  | none => plainNames.lookup (String.ofList lower)

theorem readFlat_eq (shown lower : List Char) :
    readFlat shown lower = (named? lower).getD (unrecognized (String.ofList shown)) := by
  unfold readFlat named?
  split
  · rfl
  · split
    · rfl
    · cases parenthesized? ["decimal", "numeric", "number", "bignumeric"] lower with
      | some inner => rfl
      | none =>
        cases parenthesized? ["varchar", "character varying", "nvarchar"] lower with
        | some inner => rfl
        | none => cases parenthesized? ["char", "character", "nchar"] lower <;> rfl

theorem readLower_flat {lower : List Char} (flat : element? lower = none) (shown : List Char) :
    readLower shown lower = (named? lower).getD (unrecognized (String.ofList shown)) := by
  rw [readLower.eq_def]
  split
  · rename_i h
    cases flat.symm.trans h
  · exact readFlat_eq shown lower

theorem readLower_array {lower inner : List Char} (h : element? lower = some inner) (shown : List Char) :
    readLower shown lower = array (readLower (trimChars inner) (trimChars inner)) := by
  rw [readLower.eq_def]
  split
  · rename_i h'
    cases h.symm.trans h'
    rfl
  · rename_i h'
    cases h.symm.trans h'

section

variable {s t : List Char}

theorem splitCommas_single (h : ',' ∉ s) : splitCommas s = [s] := by
  induction s with
  | nil => rfl
  | cons c s ih =>
    have other : c ≠ ',' := fun e => h (e ▸ List.mem_cons_self)
    have rest := ih fun mem => h (.tail _ mem)
    unfold splitCommas at rest ⊢
    rw [List.foldr_cons, rest]
    split
    · exact absurd rfl other
    · rename_i e
      cases e
      rfl
    · rename_i e
      cases e

theorem splitCommas_append (h : ',' ∉ s) : splitCommas (s ++ ',' :: t) = s :: splitCommas t := by
  induction s with
  | nil => rfl
  | cons c s ih =>
    have other : c ≠ ',' := fun e => h (e ▸ List.mem_cons_self)
    have rest := ih fun mem => h (.tail _ mem)
    unfold splitCommas at rest ⊢
    rw [List.cons_append, List.foldr_cons, rest]
    split
    · exact absurd rfl other
    · rename_i e
      cases e
      rfl
    · rename_i e
      cases e

end

def digits (n : UInt32) : List Char := (toString n).toList

theorem isDigit_of_mem_digits {n : UInt32} {c : Char} (h : c ∈ digits n) : c.isDigit := by
  change c ∈ (n.toNat.repr).toList at h
  rw [Nat.toList_repr] at h
  exact Nat.isDigit_of_mem_toDigits (by decide) (by decide) h

theorem not_mem_digits {n : UInt32} {c : Char} (h : ¬ c.isDigit) : c ∉ digits n :=
  fun mem => h (isDigit_of_mem_digits mem)

theorem readUInt32?_unsigned {c : Char} {s : List Char} (all : ∀ d ∈ c :: s, d.isDigit) {n : UInt32}
    (value : (c :: s).foldl (fun n c => 10 * n + (c.toNat - 48)) 0 = n.toNat) :
    readUInt32? (c :: s) = some n := by
  have unsigned : c ≠ '+' := by
    rintro rfl
    exact absurd (all _ List.mem_cons_self) (by decide)
  have small : ¬ Decimal.twoTo 32 ≤ n.toNat := Nat.not_le.2 n.toNat_lt
  have digital : (c :: s).all Char.isDigit = true := List.all_eq_true.2 all
  unfold readUInt32?
  split
  · exact absurd (List.cons.inj ‹_›).1 unsigned
  · dsimp only
    rw [value, if_neg (by simp [digital, small])]
    exact congrArg some n.ofNat_toNat

theorem readUInt32?_digits (n : UInt32) : readUInt32? (digits n) = some n := by
  have text : digits n = Nat.toDigits 10 n.toNat := Nat.toList_repr ..
  have value : (digits n).foldl (fun n c => 10 * n + (c.toNat - 48)) 0 = n.toNat := by
    rw [text]
    exact Nat.ofDigitChars_toDigits (by omega) (by omega)
  have all : ∀ d ∈ digits n, d.isDigit := fun _ => isDigit_of_mem_digits
  cases e : digits n with
  | nil => exact absurd (text.symm.trans e) Nat.toDigits_ne_nil
  | cons c s => exact readUInt32?_unsigned (e ▸ all) (e ▸ value)

def decimalText (p : UInt32) : Option UInt32 → List Char
  | none => digits p
  | some s => digits p ++ ',' :: ' ' :: digits s

theorem digit_plain {c : Char} (h : c.isDigit) : isAscii c ∧ isBlank c = false ∧ c.toLower = c := by
  have all : ∀ n < 58, 48 ≤ n → isAscii (Char.ofNat n) ∧ isBlank (Char.ofNat n) = false ∧
      (Char.ofNat n).toLower = Char.ofNat n := by decide
  simp only [Char.isDigit, Bool.and_eq_true, decide_eq_true_eq, ge_iff_le, UInt32.le_iff_toNat_le] at h
  have := all c.toNat (Nat.lt_succ_of_le h.2) h.1
  rwa [Char.ofNat_toNat] at this

theorem trimChars_digits (n : UInt32) : trimChars (digits n) = digits n := by
  have unblank : ∀ c ∈ digits n, isBlank c = false := fun c hc => (digit_plain (isDigit_of_mem_digits hc)).2.1
  exact trimChars_eq_self (fun c hc => unblank c (List.mem_of_mem_head? hc))
    fun c hc => unblank c (List.mem_of_getLast? hc)

theorem trimChars_space (s : List Char) : trimChars (' ' :: s) = trimChars s := by
  rw [trimChars, trimStart, List.dropWhile_cons_of_pos (by decide)]
  rfl

theorem readLength?_digits (n : UInt32) : readLength? (digits n) = some n := by
  rw [readLength?, trimChars_digits, readUInt32?_digits]

theorem parts_decimalText (p : UInt32) (s : Option UInt32) :
    (splitCommas (decimalText p s)).map trimChars = digits p :: (s.map digits).toList := by
  have free (n : UInt32) : ',' ∉ digits n := not_mem_digits (by decide)
  cases s with
  | none => simp [decimalText, splitCommas_single (free p), trimChars_digits]
  | some s =>
    have free' : ',' ∉ ' ' :: digits s := by simp [free]
    simp [decimalText, splitCommas_append (free p), splitCommas_single free', trimChars_space, trimChars_digits]

theorem readDecimal?_decimalText (p : UInt32) (s : Option UInt32) :
    readDecimal? (decimalText p s) = some (decimal (some p) s) := by
  rw [readDecimal?, parts_decimalText]
  cases s <;> simp [readUInt32?_digits]

section

variable {opening closing : Char} (ho : isBlank opening = false) (hc : isBlank closing = false)

include ho hc

theorem bracketed?_of_head (head : String) (inner : List Char) :
    bracketed? head opening closing (head.toList ++ opening :: (inner ++ [closing])) = some inner := by
  have trimmed : trimChars (opening :: (inner ++ [closing])) = opening :: (inner ++ [closing]) :=
    trimChars_eq_self (by simpa using ho) (by simp [List.getLast?_cons, hc])
  have starts : head.toList.isPrefixOf (head.toList ++ opening :: (inner ++ [closing])) = true :=
    List.isPrefixOf_iff_prefix.2 (List.prefix_append _ _)
  have rest : (head.toList ++ opening :: (inner ++ [closing])).drop head.length =
      opening :: (inner ++ [closing]) := List.drop_left' String.length_toList
  simp [bracketed?, starts, rest, trimmed]

end

theorem bracketed?_other {head : String} {opening closing : Char} {s : List Char}
    (h : ¬ head.toList <+: s) : bracketed? head opening closing s = none := by
  rw [bracketed?, if_neg (mt List.isPrefixOf_iff_prefix.1 h)]

theorem element?_flat {c : Char} {s : List Char} (first : c ≠ 'a') (last : (c :: s).getLast? ≠ some ']') :
    element? (c :: s) = none := by
  have ends : ¬ "[]".toList.isSuffixOf (c :: s) := fun h => by
    obtain ⟨l, e⟩ := List.isSuffixOf_iff_suffix.1 h
    exact last (by simp [← e])
  rw [element?, if_neg ends]
  exact bracketed?_other fun ⟨l, e⟩ => first (List.cons.inj e).1.symm

theorem element?_suffixed (s : List Char) : element? (s ++ "[]".toList) = some s := by
  have ends : "[]".toList.isSuffixOf (s ++ "[]".toList) := List.isSuffixOf_iff_suffix.2 (List.suffix_append _ _)
  rw [element?, if_pos ends]
  simp

theorem element?_angled (s : List Char) : element? ("array".toList ++ '<' :: (s ++ ['>'])) = some s := by
  have ends : ¬ "[]".toList.isSuffixOf ("array".toList ++ '<' :: (s ++ ['>'])) := fun h => by
    obtain ⟨l, e⟩ := List.isSuffixOf_iff_suffix.1 h
    have last := congrArg List.getLast? e
    simp [List.getLast?_cons] at last
  rw [element?, if_neg ends]
  exact bracketed?_of_head (by decide) (by decide) "array" s

theorem prefix_of_break {b : Char} {l s t : List Char} (h : l <+: s ++ b :: t) (free : b ∉ l) : l <+: s := by
  induction s generalizing l with
  | nil =>
    cases l with
    | nil => exact List.nil_prefix
    | cons c l =>
      obtain rfl : c = b := (List.cons_prefix_cons.1 h).1
      exact absurd List.mem_cons_self free
  | cons d s ih =>
    cases l with
    | nil => exact List.nil_prefix
    | cons c l =>
      obtain ⟨rfl, rest⟩ := List.cons_prefix_cons.1 h
      exact List.cons_prefix_cons.2 ⟨rfl, ih rest fun mem => free (.tail _ mem)⟩

/-- Of the heads, at most the name itself begins it. -/
def Apart (heads : List String) (name : String) : Prop :=
  ∀ head ∈ heads, '(' ∉ head.toList ∧ (head.toList.isPrefixOf name.toList → head = name)

instance (heads : List String) (name : String) : Decidable (Apart heads name) :=
  inferInstanceAs (Decidable (∀ head ∈ heads, _))

def withText (name : String) (inner : List Char) : List Char := name.toList ++ '(' :: (inner ++ [')'])

theorem parenthesized?_withText {heads : List String} {name : String} (h : Apart heads name) (inner : List Char) :
    parenthesized? heads (withText name inner) = if name ∈ heads then some inner else none := by
  induction heads with
  | nil => rfl
  | cons head heads ih =>
    have rest := ih fun other mem => h other (.tail _ mem)
    rw [parenthesized?, List.findSome?_cons]
    by_cases same : head = name
    · subst same
      have found : bracketed? head '(' ')' (withText head inner) = some inner :=
        bracketed?_of_head (by decide) (by decide) head inner
      simp [found]
    · have other : bracketed? head '(' ')' (withText name inner) = none :=
        bracketed?_other fun starts =>
          have ⟨free, only⟩ := h head List.mem_cons_self
          same (only (List.isPrefixOf_iff_prefix.2 (prefix_of_break starts free)))
      rw [other]
      simpa [parenthesized?, Ne.symm same] using rest

theorem withText_ne {s : String} (free : '(' ∉ s.toList) (name : String) (inner : List Char) :
    withText name inner ≠ s.toList := fun e => free (e ▸ by simp [withText])

theorem plainNames_withText (name : String) (inner : List Char) :
    plainNames.lookup (String.ofList (withText name inner)) = none := by
  have free : ∀ p ∈ plainNames, '(' ∉ p.1.toList := by decide +kernel
  refine List.lookup_eq_none_iff.2 fun p mem => ?_
  simpa using fun e => withText_ne (free p mem) name inner (by simp [← e])

theorem named?_withText {name : String} (decimals : Apart ["decimal", "numeric", "number", "bignumeric"] name)
    (varchars : Apart ["varchar", "character varying", "nvarchar"] name)
    (chars : Apart ["char", "character", "nchar"] name)
    (other : ¬ "interval ".toList.isPrefixOf name.toList) (inner : List Char) :
    named? (withText name inner) =
      if name ∈ ["decimal", "numeric", "number", "bignumeric"] then readDecimal? inner
      else if name ∈ ["varchar", "character varying", "nvarchar"] then
        (readLength? inner).map fun n => varchar (some n)
      else if name ∈ ["char", "character", "nchar"] then (readLength? inner).map fun n => char (some n)
      else none := by
  have plain : withText name inner ≠ "interval".toList := withText_ne (by decide) name inner
  have qualified : ¬ "interval ".toList.isPrefixOf (withText name inner) := fun h =>
    other (List.isPrefixOf_iff_prefix.2 (prefix_of_break (List.isPrefixOf_iff_prefix.1 h) (by decide)))
  rw [named?, if_neg plain, if_neg qualified, parenthesized?_withText decimals, parenthesized?_withText varchars,
    parenthesized?_withText chars, plainNames_withText]
  split_ifs <;> rfl

end QueryBridge.DataType
