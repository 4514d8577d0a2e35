import QueryBridge.Proofs.Types.Respelling

set_option autoImplicit false

/-! A type prints in spellings of its own, not in those it was read from. Reading what was printed gives
the type again, at every depth of arrays. Reading keeps the names that it does not know and the
qualifiers of intervals, so that there the text itself has to come back. -/

namespace QueryBridge.DataType

open Text

/-- Whatever text is shown for it, the printed type is read as the type again. -/
structure Settled (t : DataType) : Prop where
  ascii : ∀ c ∈ t.render.toList, isAscii c
  trimmed : Trimmed t.render.toList
  flat : element? (lowerChars t.render.toList) = none
  named : named? (lowerChars t.render.toList) = some t

theorem Settled.reread {t : DataType} (h : Settled t) (shown : List Char) :
    readLower shown (lowerChars t.render.toList) = t := by
  rw [readLower_flat h.flat, h.named, Option.getD_some]

theorem Firm.ends {s : List Char} (h : Firm s) : Trimmed s := by
  obtain ⟨⟨c, rest, first, unblank⟩, front, b, last, unblank'⟩ := h
  exact ⟨by simp [first, unblank], by simp [last, unblank']⟩

theorem firm_of_trimmed {s : List Char} (h : Trimmed s) (more : s ≠ []) : Firm s where
  first :=
    have ⟨c, rest, e⟩ := List.exists_cons_of_ne_nil more
    ⟨c, rest, e, h.first c (by simp [e])⟩
  last := ⟨s.dropLast, s.getLast more, (List.dropLast_append_getLast more).symm,
    h.last _ (List.getLast?_eq_some_getLast more)⟩

theorem Flat.settled {t : DataType} (h : Flat t.render) (ascii : ∀ c ∈ t.render.toList, isAscii c)
    (named : named? (lowerChars t.render.toList) = some t) : Settled t where
  ascii := ascii
  trimmed := h.firm.ends
  flat := h.unnested
  named := named

theorem settled_interval : Settled (interval none) :=
  (flat_of_ends (by decide) (by decide)).settled (List.all_eq_true.1 (by decide)) (by decide +kernel)

theorem settled_plain : ∀ p ∈ plainNames, Settled p.2 := by
  have checked : ∀ p ∈ plainNames,
      ((p.2.render.toList.head?.any fun c => isAscii c && c.isAlpha && c.toLower != 'a') &&
        p.2.render.toList.getLast?.any fun c => !isBlank c && c != ']') ∧
      p.2.render.toList.all isAscii ∧ named? (lowerChars p.2.render.toList) = some p.2 := by
    decide +kernel
  intro p mem
  obtain ⟨ends, ascii, named⟩ := checked p mem
  have ⟨first, last⟩ := Bool.and_eq_true_iff.1 ends
  exact (flat_of_ends first last).settled (List.all_eq_true.1 ascii) named

theorem settled_withText {t : DataType} {name : String} {inner : List Char}
    (text : t.render.toList = withText name inner) (flat : Flat name) (ascii : ∀ c ∈ name.toList, isAscii c)
    (plain : ∀ c ∈ inner, isAscii c ∧ c.toLower = c) (named : named? (withText (lower name) inner) = some t) :
    Settled t := by
  refine (flat.parameters text).settled ?_ ?_
  · rw [text]
    exact withText_ascii ascii plain
  · rw [text, lowerChars_withText ascii plain, named]

theorem settled_decimal (p : UInt32) (s : Option UInt32) : Settled (decimal (some p) s) :=
  settled_withText (toList_withPrecision "NUMERIC" p s) (flat_of_ends (by decide) (by decide))
    (List.all_eq_true.1 (by decide)) decimalText_plain
    (named?_decimal (show "numeric" ∈ ["decimal", "numeric", "number"] by decide) p s)

theorem settled_varchar (n : UInt32) : Settled (varchar (some n)) :=
  settled_withText (toList_withLength "VARCHAR" n) (flat_of_ends (by decide) (by decide))
    (List.all_eq_true.1 (by decide)) digits_plain
    (named?_length (show "varchar" ∈ ["varchar", "char", "text"] by decide) n)

theorem settled_char (n : UInt32) : Settled (char (some n)) :=
  settled_withText (toList_withLength "CHAR" n) (flat_of_ends (by decide) (by decide))
    (List.all_eq_true.1 (by decide)) digits_plain
    (named?_length (show "char" ∈ ["varchar", "char", "text"] by decide) n)

/-- An interval comes back with its qualifier unless the two together end like an array. -/
theorem settled_qualified {q : List Char} (low : Lowered q) (firm : Firm q)
    (unnested : ¬ "[]".toList <:+ "interval".toList ++ ' ' :: q) :
    Settled (interval (some (String.ofList (upperChars q)))) := by
  have text : (interval (some (String.ofList (upperChars q)))).render.toList =
      "INTERVAL".toList ++ ' ' :: upperChars q := by
    simp [render, intervalName, String.toList_append]
  obtain ⟨ascii, back⟩ := upperChars_lowered low
  have all : ∀ c ∈ "INTERVAL".toList ++ ' ' :: upperChars q, isAscii c := by
    intro c mem
    simp only [List.mem_append, List.mem_cons] at mem
    rcases mem with mem | rfl | mem
    · exact List.all_eq_true.1 (show "INTERVAL".toList.all isAscii by decide) c mem
    · decide
    · exact ascii c mem
  have lowered : lowerChars ("INTERVAL".toList ++ ' ' :: upperChars q) = "interval".toList ++ ' ' :: q := by
    rw [lowerChars_ascii ascii] at back
    rw [lowerChars_ascii all]
    simpa using back
  refine ⟨by rwa [text], ?_, ?_, ?_⟩
  · obtain ⟨front, c, last, unblank⟩ := firm.last
    rw [text, ← trimmed_lowerChars all, lowered]
    exact Firm.ends ⟨⟨'i', _, rfl, by decide⟩, "interval".toList ++ ' ' :: front, c, by simp [last], unblank⟩
  · rw [text, lowered, element?, if_neg (mt List.isSuffixOf_iff_suffix.1 unnested)]
    exact bracketed?_other (by simp)
  · rw [text, lowered, named?_interval firm]

section

variable {inner lower : List Char} {t : DataType}

theorem settled_of_readDecimal? (h : readDecimal? inner = some t) : Settled t := by
  unfold readDecimal? at h
  split at h
  · obtain ⟨p, -, rfl⟩ := Option.map_eq_some_iff.1 h
    exact settled_decimal p none
  · obtain ⟨p, -, h⟩ := Option.bind_eq_some_iff.1 h
    obtain ⟨s, -, h⟩ := Option.bind_eq_some_iff.1 h
    cases h
    exact settled_decimal p (some s)
  · cases h

theorem not_suffix_of_flat (flat : element? lower = none) : ¬ "[]".toList <:+ lower := fun ends => by
  rw [element?, if_pos (List.isSuffixOf_iff_suffix.2 ends)] at flat
  cases flat

/-- The qualifier that reading finds behind the word settles. -/
theorem settled_behind {rest : List Char} (low : Lowered lower) (trimmed : Trimmed lower)
    (flat : element? lower = none) (split : "interval ".toList ++ rest = lower) :
    Settled (interval (some (String.ofList (upperChars (trimChars rest))))) := by
  have within : rest <:+ lower := ⟨_, split⟩
  have more : rest ≠ [] := by
    rintro rfl
    exact absurd (trimmed.last ' ' (by simp [← split])) (by decide)
  have last : ∀ c ∈ rest.getLast?, isBlank c = false := fun c hc =>
    trimmed.last c (by rw [← split, List.getLast?_append, Option.mem_def.1 hc]; rfl)
  have tail : trimChars rest <:+ rest := by
    rw [trimChars_of_last last]
    exact List.dropWhile_suffix isBlank
  have firm : Firm (trimChars rest) := firm_of_trimmed (trimmed_trimChars rest) (trimChars_ne_nil more last)
  have below : trimChars rest <:+ lower := tail.trans within
  refine settled_qualified (low.mono below.subset) firm fun ends => not_suffix_of_flat flat ?_
  -- a qualifier of one character stands behind a blank, not behind a bracket
  by_cases long : 2 ≤ (trimChars rest).length
  · have inside : trimChars rest <:+ "interval".toList ++ ' ' :: trimChars rest := ⟨"interval ".toList, by simp⟩
    exact (List.suffix_of_suffix_length_le ends inside (by simpa using long)).trans below
  · obtain ⟨c, one⟩ : ∃ c, trimChars rest = [c] := by
      refine List.length_eq_one_iff.1 (le_antisymm (by omega) ?_)
      exact List.length_pos_iff.2 (trimChars_ne_nil more last)
    obtain ⟨front, e⟩ := ends
    have reversed := congrArg List.reverse e
    simp [one] at reversed

theorem settled_of_named? (low : Lowered lower) (trimmed : Trimmed lower) (flat : element? lower = none)
    (h : named? lower = some t) : Settled t := by
  unfold named? at h
  split at h
  · cases h
    exact settled_interval
  split at h
  case isTrue qualified =>
    cases h
    obtain ⟨rest, split⟩ := List.isPrefixOf_iff_prefix.1 qualified
    have behind : lower.drop 9 = rest := by rw [← split]; rfl
    rw [behind]
    exact settled_behind low trimmed flat split
  split at h
  · exact settled_of_readDecimal? h
  split at h
  · obtain ⟨n, -, rfl⟩ := Option.map_eq_some_iff.1 h
    exact settled_varchar n
  split at h
  · obtain ⟨n, -, rfl⟩ := Option.map_eq_some_iff.1 h
    exact settled_char n
  · obtain ⟨before, after, split, -⟩ := List.lookup_eq_some_iff.1 h
    exact settled_plain (String.ofList lower, t) (by rw [split]; simp)

end

/-- The printed type is read as the type, and so it is from its lower case where that is the text shown. -/
structure Returns (t : DataType) : Prop where
  ascii : ∀ c ∈ t.render.toList, isAscii c
  trimmed : Trimmed t.render.toList
  reread : readLower t.render.toList (lowerChars t.render.toList) = t

/-- What an array's element needs: reading shows an element's text in lower case. -/
structure ReturnsLowered (t : DataType) : Prop extends Returns t where
  lowered : readLower (lowerChars t.render.toList) (lowerChars t.render.toList) = t

theorem Settled.returns {t : DataType} (h : Settled t) : ReturnsLowered t where
  ascii := h.ascii
  trimmed := h.trimmed
  reread := h.reread _
  lowered := h.reread _

theorem ReturnsLowered.array {e : DataType} (h : ReturnsLowered e) : ReturnsLowered (DataType.array e) := by
  have text : (DataType.array e).render.toList = e.render.toList ++ "[]".toList := String.toList_append
  have ascii : ∀ c ∈ e.render.toList ++ "[]".toList, isAscii c := fun c mem => by
    rcases List.mem_append.1 mem with mem | mem
    · exact h.ascii c mem
    · exact List.all_eq_true.1 (show "[]".toList.all isAscii by decide) c mem
  have lowered : lowerChars (e.render.toList ++ "[]".toList) = lowerChars e.render.toList ++ "[]".toList := by
    rw [lowerChars_ascii ascii, lowerChars_ascii h.ascii, List.map_append]
    rfl
  have read (shown : List Char) :
      readLower shown (lowerChars (e.render.toList ++ "[]".toList)) = DataType.array e := by
    rw [lowered, readLower_array (element?_suffixed _), ((trimmed_lowerChars h.ascii).2 h.trimmed).eq, h.lowered]
  refine ⟨⟨?_, ?_, ?_⟩, ?_⟩ <;> rw [text]
  · exact ascii
  · exact h.trimmed.append (by decide) (by decide)
  · exact read _
  · exact read _

section

variable {shown lower inner : List Char}

/-- A text without element type is read as a type that comes back, or it is shown as it is. -/
theorem returns_flat (ascii : ∀ c ∈ shown, isAscii c) (trimmed : Trimmed shown)
    (flat : element? (lowerChars shown) = none) :
    ReturnsLowered (readLower shown (lowerChars shown)) ∨
      named? (lowerChars shown) = none ∧ Returns (unrecognized (String.ofList shown)) := by
  cases known : named? (lowerChars shown) with
  | some t =>
    have settled : Settled t :=
      settled_of_named? (lowered_lowerChars ascii) ((trimmed_lowerChars ascii).2 trimmed) flat known
    rw [readLower_flat flat, known]
    exact .inl settled.returns
  | none =>
    have text : (unrecognized (String.ofList shown)).render.toList = shown := String.toList_ofList
    refine .inr ⟨rfl, ?_, ?_, ?_⟩ <;> rw [text]
    · exact ascii
    · exact trimmed
    · rw [readLower_flat flat, known, Option.getD_none]

theorem element?_subset (h : element? lower = some inner) : inner ⊆ lower := by
  unfold element? at h
  split at h
  · cases h
    exact (List.take_sublist _ _).subset
  · unfold bracketed? at h
    split at h
    · split at h
      · rename_i c rest split
        split at h
        · cases h
          intro d mem
          have within : d ∈ trimChars (lower.drop "array".length) := split ▸ .tail c (List.dropLast_subset rest mem)
          exact List.drop_subset _ lower (trimChars_subset _ within)
        · cases h
      · cases h
    · cases h

end

/-- An element's text is in lower case, so that every text inside it comes back as it is. -/
theorem returns_element {s : List Char} (low : Lowered s) (trimmed : Trimmed s) : ReturnsLowered (readLower s s) := by
  cases nested : element? s with
  | some inner =>
    have shorter : (trimChars inner).length < s.length :=
      Nat.lt_of_le_of_lt (trimChars_length_le inner) (element?_length_lt nested)
    have within : trimChars inner ⊆ s := fun c mem => element?_subset nested (trimChars_subset inner mem)
    rw [readLower_array nested]
    exact (returns_element (low.mono within) (trimmed_trimChars inner)).array
  | none =>
    rw [← low.eq] at nested
    rcases returns_flat low.ascii trimmed nested with known | ⟨unknown, back⟩
    · rwa [low.eq] at known
    · have text : (unrecognized (String.ofList s)).render.toList = s := String.toList_ofList
      have read : readLower s s = unrecognized (String.ofList s) := by
        rw [low.eq] at nested unknown
        rw [readLower_flat nested, unknown, Option.getD_none]
      rw [read]
      refine ⟨back, ?_⟩
      rw [text, low.eq, read]
  termination_by s.length

theorem returns_readLower {shown : List Char} (ascii : ∀ c ∈ shown, isAscii c) (trimmed : Trimmed shown) :
    Returns (readLower shown (lowerChars shown)) := by
  cases nested : element? (lowerChars shown) with
  | some inner =>
    have low : Lowered (trimChars inner) :=
      (lowered_lowerChars ascii).mono fun c mem => element?_subset nested (trimChars_subset inner mem)
    rw [readLower_array nested]
    exact (returns_element low (trimmed_trimChars inner)).array.toReturns
  | none =>
    rcases returns_flat ascii trimmed nested with known | ⟨unknown, back⟩
    · exact known.toReturns
    · rwa [readLower_flat nested, unknown, Option.getD_none]

/-- Printing what an ASCII text was read as and reading that gives the same type, at every depth of arrays, for
every list of parameters, every qualifier of an interval and every name that reading does not know. -/
theorem parse_render_parse {s : String} (ascii : ∀ c ∈ s.toList, isAscii c) :
    DataType.parse (DataType.parse s).render = DataType.parse s := by
  have within : ∀ c ∈ trimChars s.toList, isAscii c := fun c mem => ascii c (trimChars_subset _ mem)
  have back : Returns (DataType.parse s) := returns_readLower within (trimmed_trimChars _)
  rw [DataType.parse, back.trimmed.eq]
  exact back.reread

/-- Around an element with a name of its own, an array is printed with square brackets and its element small. -/
theorem pointArray_reread :
    (DataType.parse " Array < Geo[Point] >[]").render = "geo[point][][]" ∧
      DataType.parse "geo[point][][]" = DataType.parse " Array < Geo[Point] >[]" := by
  have outer : element? (lowerChars (trimChars " Array < Geo[Point] >[]".toList)) =
      some "array < geo[point] >".toList := by decide
  have inner : element? (trimChars "array < geo[point] >".toList) = some " geo[point] ".toList := by decide
  have flat : element? (trimChars " geo[point] ".toList) = none := by decide
  have unknown : named? (trimChars " geo[point] ".toList) = none := by decide
  have printed : (DataType.parse " Array < Geo[Point] >[]").render = "geo[point][][]" := by
    rw [DataType.parse, readLower_array outer, readLower_array inner, readLower_flat flat, unknown]
    rfl
  refine ⟨printed, ?_⟩
  rw [← printed]
  exact parse_render_parse (List.all_eq_true.1 (by decide))

end QueryBridge.DataType
