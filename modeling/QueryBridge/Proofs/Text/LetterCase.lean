import Mathlib.Data.List.Basic
import Mathlib.Data.List.TakeWhile
import QueryBridge.Text.Case

set_option autoImplicit false

namespace QueryBridge.Text

/-- A character at which a word ends. -/
structure Breaks (b : Char) : Prop where
  caseless : isCased b = false
  counted : isCaseIgnorable b = false
  other : b ≠ 'Σ'

section

variable {b : Char} (hb : Breaks b)

include hb

theorem meetsCased_break (s t : List Char) : meetsCased (s ++ b :: t) = meetsCased s := by
  unfold meetsCased
  induction s with
  | nil => simp [hb.caseless, hb.counted]
  | cons c s ih =>
    by_cases h : isCaseIgnorable c
    · simpa [h] using ih
    · simp [h]

theorem lowerFrom_behind (s before t : List Char) : lowerFrom (s ++ b :: before) t = lowerFrom s t := by
  induction t generalizing s with
  | nil => rfl
  | cons c t ih =>
    rw [lowerFrom, lowerFrom, meetsCased_break hb]
    exact congrArg _ (ih (c :: s))

theorem lowerFrom_break (before s t : List Char) :
    lowerFrom before (s ++ b :: t) = lowerFrom before s ++ lowerChar b ++ lowerChars t := by
  induction s generalizing before with
  | nil =>
    have rest : lowerFrom (b :: before) t = lowerChars t := lowerFrom_behind hb [] before t
    simp only [List.nil_append, lowerFrom, if_neg hb.other, rest]
  | cons c s ih =>
    rw [List.cons_append, lowerFrom, lowerFrom, meetsCased_break hb, ih]
    simp only [List.append_assoc]

theorem lowerChars_break (s t : List Char) :
    lowerChars (s ++ b :: t) = lowerChars s ++ lowerChar b ++ lowerChars t := lowerFrom_break hb [] s t

end

theorem lowerFrom_ascii {s : List Char} (h : ∀ c ∈ s, isAscii c) (before : List Char) :
    lowerFrom before s = s.map Char.toLower := by
  induction s generalizing before with
  | nil => rfl
  | cons c s ih =>
    have ascii := h c List.mem_cons_self
    have other : c ≠ 'Σ' := by
      rintro rfl
      exact absurd ascii (by decide)
    rw [lowerFrom, if_neg other, lowerChar, if_pos ascii, ih fun d hd => h d (.tail _ hd)]
    rfl

theorem lowerChars_ascii {s : List Char} (h : ∀ c ∈ s, isAscii c) : lowerChars s = s.map Char.toLower :=
  lowerFrom_ascii h []

theorem upperChars_ascii {s : List Char} (h : ∀ c ∈ s, isAscii c) : upperChars s = s.map Char.toUpper := by
  rw [upperChars, List.map_eq_flatMap]
  exact List.flatMap_congr fun c mem => by rw [upperChar, if_pos (h c mem)]

theorem dropBlanks_eq_self {s : List Char} (first : ∀ c ∈ s.head?, isBlank c = false) : s.dropWhile isBlank = s := by
  cases s with
  | nil => rfl
  | cons c s => simp [first c rfl]

theorem trimEnd_eq_self {s : List Char} (last : ∀ c ∈ s.getLast?, isBlank c = false) : trimEnd s = s := by
  rw [trimEnd, dropBlanks_eq_self (by simpa using last), List.reverse_reverse]

theorem trimChars_eq_self {s : List Char} (first : ∀ c ∈ s.head?, isBlank c = false)
    (last : ∀ c ∈ s.getLast?, isBlank c = false) : trimChars s = s := by
  rw [trimChars, trimStart, dropBlanks_eq_self first, trimEnd_eq_self last]

/-- A text that blanks neither begin nor end. It may be empty. -/
@[mk_iff]
structure Trimmed (s : List Char) : Prop where
  first : ∀ c ∈ s.head?, isBlank c = false
  last : ∀ c ∈ s.getLast?, isBlank c = false

instance (s : List Char) : Decidable (Trimmed s) :=
  decidable_of_iff (s.head?.all (!isBlank ·) ∧ s.getLast?.all (!isBlank ·))
    (by simp only [trimmed_iff, Option.all_eq_true, Option.mem_def, Bool.not_eq_true'])

section

variable {s t : List Char}

theorem Trimmed.eq (h : Trimmed s) : trimChars s = s := trimChars_eq_self h.first h.last

theorem Trimmed.append (h : Trimmed s) (ht : Trimmed t) (more : t ≠ []) : Trimmed (s ++ t) where
  first := by
    cases s with
    | nil => exact ht.first
    | cons c s => exact h.first
  last := by
    rw [List.getLast?_append_of_ne_nil _ more]
    exact ht.last

theorem dropBlanks_first (s : List Char) : ∀ c ∈ (s.dropWhile isBlank).head?, isBlank c = false := by
  intro c first
  have unblank := List.head?_dropWhile_not isBlank s
  rw [Option.mem_def.1 first] at unblank
  simpa using unblank

theorem trimmed_trimChars (s : List Char) : Trimmed (trimChars s) where
  first c first := by
    -- what the end loses is behind the first character
    obtain ⟨blanks, split⟩ : ∃ blanks, trimChars s ++ blanks = trimStart s := by
      have parts := List.takeWhile_append_dropWhile (p := isBlank) (l := (trimStart s).reverse)
      refine ⟨((trimStart s).reverse.takeWhile isBlank).reverse, ?_⟩
      rw [trimChars, trimEnd, ← List.reverse_append, parts, List.reverse_reverse]
    refine dropBlanks_first s c ?_
    rw [← trimStart, ← split, List.head?_append, Option.mem_def.1 first]
    rfl
  last := by
    rw [trimChars, trimEnd, List.getLast?_reverse]
    exact dropBlanks_first _

theorem trimChars_surround {before after : List Char} (front : ∀ c ∈ before, isBlank c)
    (behind : ∀ c ∈ after, isBlank c) (s : List Char) : trimChars (before ++ s ++ after) = trimChars s := by
  have start : trimStart (before ++ s ++ after) = trimStart (s ++ after) := by
    rw [List.append_assoc]
    exact List.dropWhile_append_of_pos front
  have dropped : ∀ t, trimEnd (t ++ after) = trimEnd t := fun t => by
    rw [trimEnd, List.reverse_append, List.dropWhile_append_of_pos (by simpa using behind), trimEnd]
  rw [trimChars, start, trimStart, List.dropWhile_append]
  split
  · rename_i empty
    rw [trimChars, trimStart, List.isEmpty_iff.1 empty, List.dropWhile_eq_nil_iff.2 (by simpa using behind)]
  · exact dropped _

theorem trimChars_subset (s : List Char) : trimChars s ⊆ s := by
  intro c mem
  rw [trimChars, trimEnd, List.mem_reverse] at mem
  have kept := (List.dropWhile_sublist isBlank).subset mem
  exact (List.dropWhile_sublist isBlank).subset (List.mem_reverse.1 kept)

theorem trimChars_of_last (last : ∀ c ∈ s.getLast?, isBlank c = false) : trimChars s = trimStart s := by
  refine trimEnd_eq_self fun c mem => last c ?_
  rw [← List.takeWhile_append_dropWhile (p := isBlank) (l := s), List.getLast?_append, ← trimStart,
    Option.mem_def.1 mem]
  rfl

theorem trimChars_ne_nil (more : s ≠ []) (last : ∀ c ∈ s.getLast?, isBlank c = false) : trimChars s ≠ [] := by
  rw [trimChars_of_last last]
  intro empty
  have blank := (List.dropWhile_eq_nil_iff (p := isBlank)).1 empty _ (List.getLast_mem more)
  rw [last _ (List.getLast?_eq_some_getLast more)] at blank
  cases blank

end

theorem lowerFrom_snoc (before s : List Char) (c : Char) :
    ∃ lowered before', lowerFrom before (s ++ [c]) = lowered ++ lowerFrom before' [c] := by
  induction s generalizing before with
  | nil => exact ⟨[], before, rfl⟩
  | cons d s ih =>
    obtain ⟨lowered, before', h⟩ := ih (d :: before)
    rw [List.cons_append, lowerFrom, h]
    exact ⟨_, before', (List.append_assoc _ _ _).symm⟩

theorem lowerRanges_apart : ∀ r ∈ lowerRanges, 0x5d < (r.first : Int) + r.offset ∧
    ∀ b ∈ blankRanges, (r.last : Int) + r.offset < b.1 ∨ (b.2 : Int) < r.first + r.offset := by decide +kernel

/-- A character that is no blank and no square bracket. -/
structure Inside (c : Char) : Prop where
  unblank : isBlank c = false
  unclosed : c ≠ ']'

theorem inside_of_high {c : Char} (high : 0x5d < c.toNat)
    (apart : ∀ b ∈ blankRanges, c.toNat < b.1 ∨ b.2 < c.toNat) : Inside c := by
  constructor
  · unfold isBlank
    split
    · have space : c ≠ ' ' := by
        rintro rfl
        exact absurd high (by decide)
      simp only [Bool.or_eq_false_iff, beq_eq_false_iff_ne, Bool.and_eq_false_iff, decide_eq_false_iff_not]
      exact ⟨space, .inr (by omega)⟩
    · simp only [inRanges, List.any_eq_false, Bool.and_eq_true, decide_eq_true_eq]
      intro b hb
      have := apart b hb
      omega
  · rintro rfl
    exact absurd high (by decide)

theorem inside_ofNat {n : Nat} (high : 0x5d < n) (apart : ∀ b ∈ blankRanges, n < b.1 ∨ b.2 < n) :
    Inside (Char.ofNat n) := by
  by_cases valid : n.isValidChar
  · have same : (Char.ofNat n).toNat = n := by
      rw [Char.ofNat, dif_pos valid]
      rfl
    exact inside_of_high (same.symm ▸ high) (same.symm ▸ apart)
  · rw [Char.ofNat, dif_neg valid]
    exact ⟨by decide, by decide⟩

theorem inside_mapped {c : Char} (h : Inside c) : Inside (mapByRanges lowerRanges c) := by
  unfold mapByRanges
  cases found : lowerRanges.findSome? (·.mapped? c.toNat) with
  | none => exact h
  | some d =>
    obtain ⟨r, mem, mapped⟩ := List.exists_of_findSome?_eq_some found
    obtain ⟨high, apart⟩ := lowerRanges_apart r mem
    rw [CaseRange.mapped?] at mapped
    split at mapped
    · rename_i within
      obtain rfl := Option.some.inj mapped
      refine inside_ofNat (by omega) fun b hb => ?_
      have := apart b hb
      omega
    · cases mapped

theorem inside_toLower {c : Char} (ascii : isAscii c) (h : Inside c) : Inside c.toLower := by
  have all : ∀ n < 128, isBlank (Char.ofNat n) = false → Char.ofNat n ≠ ']' →
      isBlank (Char.ofNat n).toLower = false ∧ (Char.ofNat n).toLower ≠ ']' := by decide
  have same := all c.toNat (by simpa [isAscii] using ascii)
  rw [Char.ofNat_toNat] at same
  exact ⟨(same h.unblank h.unclosed).1, (same h.unblank h.unclosed).2⟩

theorem inside_lowerChar {c : Char} (h : Inside c) : ∀ d ∈ lowerChar c, Inside d := by
  unfold lowerChar
  split
  · rintro d (_ | ⟨_, ⟨⟩⟩)
    exact inside_toLower ‹_› h
  · split
    · rintro d (_ | ⟨_, _ | ⟨_, ⟨⟩⟩⟩)
      · exact inside_of_high (by decide) (by decide)
      · exact inside_of_high (by decide) (by decide)
    · rintro d (_ | ⟨_, ⟨⟩⟩)
      exact inside_mapped h

theorem inside_sigmas : Inside 'ς' ∧ Inside 'σ' :=
  ⟨inside_of_high (by decide) (by decide), inside_of_high (by decide) (by decide)⟩

theorem inside_lowerFrom {c : Char} (h : Inside c) (before : List Char) :
    ∀ d ∈ lowerFrom before [c], Inside d := by
  simp only [lowerFrom, List.append_nil]
  split
  · intro d hd
    obtain rfl := List.mem_singleton.1 hd
    split
    · exact inside_sigmas.1
    · exact inside_sigmas.2
  · exact inside_lowerChar h

theorem lowerChar_ne_nil (c : Char) : lowerChar c ≠ [] := by
  unfold lowerChar
  split
  · exact List.cons_ne_nil _ _
  · split <;> exact List.cons_ne_nil _ _

theorem lowerFrom_ne_nil (before : List Char) (c : Char) : lowerFrom before [c] ≠ [] := by
  simp only [lowerFrom, List.append_nil]
  split
  · exact List.cons_ne_nil _ _
  · exact lowerChar_ne_nil c

theorem inside_head_lowerChars {c : Char} (h : Inside c) (s : List Char) :
    ∃ d rest, lowerChars (c :: s) = d :: rest ∧ Inside d := by
  rw [lowerChars, lowerFrom]
  split
  · refine ⟨_, _, rfl, ?_⟩
    split
    · exact inside_sigmas.1
    · exact inside_sigmas.2
  · cases e : lowerChar c with
    | nil => exact absurd e (lowerChar_ne_nil c)
    | cons d rest => exact ⟨d, _, List.cons_append, inside_lowerChar h d (e ▸ List.mem_cons_self)⟩

theorem inside_lowerChars {s : List Char} (h : ∀ c ∈ s.getLast?, Inside c) :
    ∀ d ∈ (lowerChars s).getLast?, Inside d := by
  rcases s.eq_nil_or_concat with rfl | ⟨s, c, rfl⟩
  · exact fun d hd => by cases hd
  · have last : Inside c := h c (by simp)
    obtain ⟨lowered, before, split⟩ := lowerFrom_snoc [] s c
    rw [List.concat_eq_append, lowerChars, split, List.getLast?_append_of_ne_nil _ (lowerFrom_ne_nil before c)]
    exact fun d hd => inside_lowerFrom last before d (List.mem_of_getLast? hd)

def asciiLower (s : String) : String := String.ofList (s.toList.map Char.toLower)

theorem toLower_of_not_isAscii {c : Char} (h : ¬ isAscii c) : c.toLower = c := by
  refine dif_neg fun capital => ?_
  have upper := UInt32.le_iff_toNat_le.1 capital.2
  simp only [isAscii, decide_eq_true_eq, Char.toNat] at h
  exact h (Nat.lt_of_le_of_lt upper (by decide))

theorem toLower_same {α : Type} (f : Char → α) (h : ∀ n < 128, f (Char.ofNat n).toLower = f (Char.ofNat n))
    (c : Char) : f c.toLower = f c := by
  by_cases ascii : isAscii c
  · have same := h c.toNat (by simpa [isAscii] using ascii)
    rwa [Char.ofNat_toNat] at same
  · rw [toLower_of_not_isAscii ascii]

@[simp]
theorem isBlank_toLower (c : Char) : isBlank c.toLower = isBlank c := toLower_same isBlank (by decide) c

@[simp]
theorem isAsciiWord_toLower (c : Char) : isAsciiWord c.toLower = isAsciiWord c :=
  toLower_same isAsciiWord (by decide) c

@[simp]
theorem isCased_toLower (c : Char) : isCased c.toLower = isCased c := toLower_same isCased (by decide) c

@[simp]
theorem isCaseIgnorable_toLower (c : Char) : isCaseIgnorable c.toLower = isCaseIgnorable c :=
  toLower_same isCaseIgnorable (by decide) c

@[simp]
theorem lowerChar_toLower (c : Char) : lowerChar c.toLower = lowerChar c := toLower_same lowerChar (by decide) c

@[simp]
theorem upperChar_toLower (c : Char) : upperChar c.toLower = upperChar c := toLower_same upperChar (by decide) c

theorem toUpper_of_not_isAscii {c : Char} (h : ¬ isAscii c) : c.toUpper = c := by
  refine dif_neg fun small => ?_
  have le := UInt32.le_iff_toNat_le.1 small.2
  simp only [isAscii, decide_eq_true_eq, Char.toNat] at h
  exact h (Nat.lt_of_le_of_lt le (by decide))

theorem toUpper_same {α : Type} (f : Char → α) (h : ∀ n < 128, f (Char.ofNat n).toUpper = f (Char.ofNat n))
    (c : Char) : f c.toUpper = f c := by
  by_cases ascii : isAscii c
  · have same := h c.toNat (by simpa [isAscii] using ascii)
    rwa [Char.ofNat_toNat] at same
  · rw [toUpper_of_not_isAscii ascii]

@[simp]
theorem isBlank_toUpper (c : Char) : isBlank c.toUpper = isBlank c := toUpper_same isBlank (by decide) c

theorem toLower_eq_sigma (c : Char) : c.toLower = 'Σ' ↔ c = 'Σ' :=
  iff_of_eq (toLower_same (· = 'Σ') (by decide) c)

/-- An ASCII text without capitals. -/
structure Lowered (s : List Char) : Prop where
  ascii : ∀ c ∈ s, isAscii c
  small : ∀ c ∈ s, c.toLower = c

section

variable {s t : List Char}

theorem Lowered.mono (h : Lowered s) (sub : t ⊆ s) : Lowered t :=
  ⟨fun c mem => h.ascii c (sub mem), fun c mem => h.small c (sub mem)⟩

theorem Lowered.eq (h : Lowered s) : lowerChars s = s := by
  rw [lowerChars_ascii h.ascii]
  exact (List.map_congr_left h.small).trans (List.map_id' s)

theorem lowered_lowerChars (ascii : ∀ c ∈ s, isAscii c) : Lowered (lowerChars s) := by
  rw [lowerChars_ascii ascii]
  refine ⟨fun c mem => ?_, fun c mem => ?_⟩ <;> obtain ⟨d, within, rfl⟩ := List.mem_map.1 mem
  · rw [toLower_same isAscii (by decide)]
    exact ascii d within
  · exact toLower_same Char.toLower (by decide) d

theorem isAscii_upperChars (ascii : ∀ c ∈ s, isAscii c) : ∀ c ∈ upperChars s, isAscii c := by
  rw [upperChars_ascii ascii]
  intro c mem
  obtain ⟨d, within, rfl⟩ := List.mem_map.1 mem
  rw [toUpper_same isAscii (by decide)]
  exact ascii d within

theorem upperChars_upperChars (ascii : ∀ c ∈ s, isAscii c) : upperChars (upperChars s) = upperChars s := by
  rw [upperChars_ascii (isAscii_upperChars ascii), upperChars_ascii ascii, List.map_map]
  exact List.map_congr_left fun c _ => toUpper_same Char.toUpper (by decide) c

theorem lowerChars_upperChars (ascii : ∀ c ∈ s, isAscii c) : lowerChars (upperChars s) = lowerChars s := by
  rw [lowerChars_ascii (isAscii_upperChars ascii), lowerChars_ascii ascii, upperChars_ascii ascii, List.map_map]
  exact List.map_congr_left fun c _ => toUpper_same Char.toLower (by decide) c

theorem trimmed_lowerChars (ascii : ∀ c ∈ s, isAscii c) : Trimmed (lowerChars s) ↔ Trimmed s := by
  simp [lowerChars_ascii ascii, trimmed_iff]

theorem upperChars_lowered (h : Lowered s) :
    (∀ c ∈ upperChars s, isAscii c) ∧ lowerChars (upperChars s) = s :=
  ⟨isAscii_upperChars h.ascii, (lowerChars_upperChars h.ascii).trans h.eq⟩

end

section

variable (s : List Char)

theorem meetsCased_map_toLower : meetsCased (s.map Char.toLower) = meetsCased s := by
  unfold meetsCased
  induction s with
  | nil => rfl
  | cons c s ih =>
    by_cases h : isCaseIgnorable c
    · simpa [h] using ih
    · simp [h]

theorem lowerFrom_map_toLower (before : List Char) :
    lowerFrom (before.map Char.toLower) (s.map Char.toLower) = lowerFrom before s := by
  induction s generalizing before with
  | nil => rfl
  | cons c s ih =>
    have rest := ih (c :: before)
    rw [List.map_cons] at rest
    simp only [List.map_cons, lowerFrom, toLower_eq_sigma, meetsCased_map_toLower, lowerChar_toLower, rest]

theorem lowerChars_map_toLower : lowerChars (s.map Char.toLower) = lowerChars s := lowerFrom_map_toLower s []

theorem upperChars_map_toLower : upperChars (s.map Char.toLower) = upperChars s := by
  simp [upperChars, List.flatMap_map]

theorem trimChars_map {f : Char → Char} (kept : ∀ c, isBlank (f c) = isBlank c) :
    trimChars (s.map f) = (trimChars s).map f := by
  have blank : isBlank ∘ f = isBlank := funext kept
  simp only [trimChars, trimStart, trimEnd, List.dropWhile_map, ← List.map_reverse, blank]

theorem trimChars_map_toLower : trimChars (s.map Char.toLower) = (trimChars s).map Char.toLower :=
  trimChars_map s isBlank_toLower

end

section

variable (s t : String)

theorem lower_asciiLower : lower (asciiLower s) = lower s := by
  rw [lower, asciiLower, String.toList_ofList, lowerChars_map_toLower, lower]

theorem upper_asciiLower : upper (asciiLower s) = upper s := by
  rw [upper, asciiLower, String.toList_ofList, upperChars_map_toLower, upper]

example : upper (asciiLower "Straße ΑΣ") = "STRASSE ΑΣ" := by decide +kernel

theorem asciiLower_append : asciiLower (s ++ t) = asciiLower s ++ asciiLower t := by
  simp [asciiLower, String.toList_append, ← String.ofList_append]

theorem asciiLower_asciiLower : asciiLower (asciiLower s) = asciiLower s := by
  rw [asciiLower, asciiLower, String.toList_ofList, List.map_map]
  exact congrArg String.ofList (List.map_congr_left fun c _ => toLower_same Char.toLower (by decide) c)

theorem asciiLower_intercalate (parts : List String) :
    asciiLower (s.intercalate parts) = (asciiLower s).intercalate (parts.map asciiLower) := by
  induction parts with
  | nil => rfl
  | cons t parts ih =>
    cases parts with
    | nil => simp
    | cons u parts =>
      simp only [List.map_cons] at ih ⊢
      rw [String.intercalate_cons_cons, String.intercalate_cons_cons, asciiLower_append, asciiLower_append, ih]

end

end QueryBridge.Text
