import QueryBridge.Dialect.Catalogue
import QueryBridge.Proofs.Emission.Spelling
import QueryBridge.Proofs.Types.Reading

set_option autoImplicit false

namespace QueryBridge.DataType

open Text

theorem toList_withLength (name : String) (n : UInt32) :
    (withLength name (some n)).toList = withText name (digits n) := by
  simp [withLength, withText, digits, toString, String.toList_append]

theorem toList_withPrecision (name : String) (p : UInt32) (s : Option UInt32) :
    (withPrecision name (some p) s).toList = withText name (decimalText p s) := by
  cases s <;> simp [withPrecision, withText, decimalText, digits, toString, String.toList_append]

theorem digits_plain {n : UInt32} : ∀ c ∈ digits n, isAscii c ∧ c.toLower = c := fun _ mem =>
  have ⟨ascii, _, same⟩ := digit_plain (isDigit_of_mem_digits mem)
  ⟨ascii, same⟩

theorem decimalText_plain {p : UInt32} {s : Option UInt32} :
    ∀ c ∈ decimalText p s, isAscii c ∧ c.toLower = c := by
  intro c mem
  cases s with
  | none => exact digits_plain c mem
  | some s =>
    simp only [decimalText, List.mem_append, List.mem_cons] at mem
    rcases mem with mem | rfl | rfl | mem
    · exact digits_plain c mem
    · decide
    · decide
    · exact digits_plain c mem

theorem withText_ascii {name : String} (ascii : ∀ c ∈ name.toList, isAscii c) {inner : List Char}
    (plain : ∀ c ∈ inner, isAscii c ∧ c.toLower = c) : ∀ c ∈ withText name inner, isAscii c := by
  intro c mem
  simp only [withText, List.mem_append, List.mem_cons, List.not_mem_nil, or_false] at mem
  rcases mem with mem | rfl | mem | rfl
  · exact ascii c mem
  · decide
  · exact (plain c mem).1
  · decide

theorem lowerChars_withText {name : String} (ascii : ∀ c ∈ name.toList, isAscii c) {inner : List Char}
    (plain : ∀ c ∈ inner, isAscii c ∧ c.toLower = c) :
    lowerChars (withText name inner) = withText (lower name) inner := by
  have same : inner.map Char.toLower = inner :=
    (List.map_congr_left fun c mem => (plain c mem).2).trans (List.map_id' inner)
  rw [lowerChars_ascii (withText_ascii ascii plain)]
  simp [withText, lower, lowerChars_ascii ascii, same]

/-- A text that blanks neither begin nor end. -/
structure Firm (s : List Char) : Prop where
  first : ∃ c rest, s = c :: rest ∧ isBlank c = false
  last : ∃ front c, s = front ++ [c] ∧ isBlank c = false

theorem Firm.trimmed {s : List Char} (h : Firm s) : trimChars s = s := by
  obtain ⟨⟨c, rest, first, unblank⟩, front, b, last, unblank'⟩ := h
  exact trimChars_eq_self (by simp [first, unblank]) (by simp [last, unblank'])

theorem firm_lowerChars {s front lowered : List Char} {b c : Char} (first : lowerChars s = c :: lowered)
    (unblank : isBlank c = false) (last : s = front ++ [b]) (inside : Inside b) : Firm (lowerChars s) := by
  have nonempty : lowerChars s ≠ [] := by simp [first]
  refine ⟨⟨c, lowered, first, unblank⟩, _, _, (List.dropLast_append_getLast nonempty).symm, ?_⟩
  exact (inside_lowerChars (by simp [last, inside]) _ (List.getLast?_eq_some_getLast nonempty)).unblank

theorem Firm.suffixed {s : List Char} (h : Firm s) : Firm (s ++ "[]".toList) where
  first :=
    have ⟨c, rest, first, unblank⟩ := h.first
    ⟨c, rest ++ "[]".toList, by rw [first, List.cons_append], unblank⟩
  last := ⟨s ++ ['['], ']', by simp, by decide⟩

theorem firm_angled {c : Char} (unblank : isBlank c = false) (head s : List Char) :
    Firm (c :: head ++ '<' :: (s ++ ['>'])) where
  first := ⟨c, _, rfl, unblank⟩
  last := ⟨c :: head ++ '<' :: s, '>', by simp, by decide⟩

/-- The name `s`, read back, has the name `s` again if and only if `kept` holds, and so have arrays of it. -/
structure Respelled (d : Dialect) (s : String) (kept : Prop) : Prop where
  shown : Firm s.toList
  lowered : Firm (lowerChars s.toList)
  rereads (text : List Char) : d.rules.typeName (readLower text (lowerChars s.toList)) = .ok s ↔ kept

def arrayName (d : Dialect) (s : String) : String :=
  match d.rules.typeStyle with
  | .parameters => s ++ "[]"
  | .angles => "ARRAY<" ++ s ++ ">"

theorem typeName_array (d : Dialect) (e : DataType) :
    d.rules.typeName (array e) = (d.rules.typeName e).map (arrayName d) := by
  cases d <;> rfl

theorem arrayName_injective (d : Dialect) : Function.Injective (arrayName d) := by
  intro s t same
  cases d <;> simpa [arrayName, Dialect.rules, ← String.toList_inj] using same

section

variable {d : Dialect} {s : String} {kept : Prop}

theorem Respelled.iff (h : Respelled d s kept) : d.rules.typeName (DataType.parse s) = .ok s ↔ kept := by
  rw [DataType.parse, h.shown.trimmed]
  exact h.rereads s.toList

theorem toList_arrayName (d : Dialect) (s : String) :
    (arrayName d s).toList = match d.rules.typeStyle with
      | .parameters => s.toList ++ "[]".toList
      | .angles => "ARRAY".toList ++ '<' :: (s.toList ++ ['>']) := by
  unfold arrayName
  split <;> simp [String.toList_append]

theorem lowerChars_arrayName (d : Dialect) (s : String) :
    lowerChars (arrayName d s).toList = match d.rules.typeStyle with
      | .parameters => lowerChars s.toList ++ "[]".toList
      | .angles => "array".toList ++ '<' :: (lowerChars s.toList ++ ['>']) := by
  have square : lowerChar '[' ++ lowerChars [']'] = "[]".toList := by decide
  have word : lowerChars "ARRAY".toList ++ lowerChar '<' = "array".toList ++ ['<'] := by decide
  have last : lowerChar '>' ++ lowerChars [] = ['>'] := by decide
  rw [toList_arrayName]
  split
  · have text : s.toList ++ "[]".toList = s.toList ++ '[' :: [']'] := by simp
    rw [text, lowerChars_break ⟨by decide, by decide, by decide⟩, List.append_assoc, square]
  · rw [lowerChars_break ⟨by decide, by decide, by decide⟩, word,
      lowerChars_break ⟨by decide, by decide, by decide⟩, List.append_assoc _ _ (lowerChars []), last]
    simp

theorem element?_arrayName (d : Dialect) (s : String) :
    element? (lowerChars (arrayName d s).toList) = some (lowerChars s.toList) := by
  rw [lowerChars_arrayName]
  split
  · exact element?_suffixed _
  · exact element?_angled _

theorem Respelled.array (h : Respelled d s kept) : Respelled d (arrayName d s) kept where
  shown := by
    rw [toList_arrayName]
    split
    · exact h.shown.suffixed
    · exact firm_angled (by decide) "RRAY".toList s.toList
  lowered := by
    rw [lowerChars_arrayName]
    split
    · exact h.lowered.suffixed
    · exact firm_angled (by decide) "rray".toList (lowerChars s.toList)
  rereads text := by
    rw [readLower_array (element?_arrayName d s), h.lowered.trimmed, typeName_array,
      ← h.rereads (lowerChars s.toList)]
    cases d.rules.typeName (readLower (lowerChars s.toList) (lowerChars s.toList)) with
    | error e => simp [Except.map]
    | ok name => simp [Except.map, (arrayName_injective d).eq_iff]

/-- A name that begins with an ASCII letter other than that of an array's and ends in no bracket. -/
structure Flat (s : String) : Prop where
  first : ∃ c rest, s.toList = c :: rest ∧ isAscii c ∧ c.isAlpha ∧ c.toLower ≠ 'a'
  last : ∃ front c, s.toList = front ++ [c] ∧ Inside c

theorem letter_unblank {c : Char} (ascii : isAscii c) (letter : c.isAlpha) :
    isBlank c = false ∧ isBlank c.toLower = false := by
  have all : ∀ n < 128, (Char.ofNat n).isAlpha →
      isBlank (Char.ofNat n) = false ∧ isBlank (Char.ofNat n).toLower = false := by decide
  have same := all c.toNat (by simpa [isAscii] using ascii)
  rw [Char.ofNat_toNat] at same
  exact same letter

theorem lowerChars_cons {c : Char} (ascii : isAscii c) (s : List Char) :
    lowerChars (c :: s) = c.toLower :: lowerFrom [c] s := by
  have other : c ≠ 'Σ' := by
    rintro rfl
    exact absurd ascii (by decide)
  simp [lowerChars, lowerFrom, other, lowerChar, ascii]

theorem Flat.lowerFirst (h : Flat s) :
    ∃ c rest, lowerChars s.toList = c :: rest ∧ isBlank c = false ∧ c ≠ 'a' := by
  obtain ⟨c, rest, first, ascii, letter, other⟩ := h.first
  exact ⟨c.toLower, lowerFrom [c] rest, by rw [first, lowerChars_cons ascii], (letter_unblank ascii letter).2, other⟩

theorem Flat.firm (h : Flat s) : Firm s.toList := by
  obtain ⟨⟨c, rest, first, ascii, letter, -⟩, front, b, last, inside⟩ := h
  exact ⟨⟨c, rest, first, (letter_unblank ascii letter).1⟩, front, b, last, inside.unblank⟩

theorem Flat.unnested (h : Flat s) : element? (lowerChars s.toList) = none := by
  obtain ⟨c, rest, lowerFirst, -, other⟩ := h.lowerFirst
  obtain ⟨front, b, last, inside⟩ := h.last
  have lowerLast : ∀ d ∈ (lowerChars s.toList).getLast?, Inside d := inside_lowerChars (by simp [last, inside])
  rw [lowerFirst] at lowerLast ⊢
  exact element?_flat other fun closed => (lowerLast _ closed).unclosed rfl

theorem Flat.respelled (h : Flat s)
    (rereads : ∀ name, d.rules.typeName ((named? (lowerChars s.toList)).getD (unrecognized name)) = .ok s ↔ kept) :
    Respelled d s kept := by
  obtain ⟨c, rest, lowerFirst, unblank, -⟩ := h.lowerFirst
  obtain ⟨front, b, last, inside⟩ := h.last
  refine ⟨h.firm, firm_lowerChars lowerFirst unblank last inside, fun text => ?_⟩
  rw [readLower_flat h.unnested]
  exact rereads _

theorem Flat.parameters (h : Flat s) {name : String} {inner : List Char} (text : name.toList = withText s inner) :
    Flat name where
  first := by
    obtain ⟨c, rest, first, facts⟩ := h.first
    exact ⟨c, _, by rw [text, withText, first, List.cons_append], facts⟩
  last := ⟨s.toList ++ '(' :: inner, ')', by simp [text, withText], by decide, by decide⟩

theorem flat_of_ends (first : s.toList.head?.any fun c => isAscii c && c.isAlpha && c.toLower != 'a')
    (last : s.toList.getLast?.any fun c => !isBlank c && c != ']') : Flat s where
  first := by
    cases e : s.toList with
    | nil => simp [e] at first
    | cons c rest => exact ⟨c, rest, rfl, by simpa [e, and_assoc] using first⟩
  last := by
    rcases s.toList.eq_nil_or_concat with e | ⟨front, c, e⟩
    · simp [e] at last
    · have ends : isBlank c = false ∧ c ≠ ']' := by simpa [e] using last
      exact ⟨front, c, by simp [e], ends.1, ends.2⟩

end

/-- The types whose names, read back, have the same names. -/
def Kept (d : Dialect) : DataType → Prop
  | scalar t => ¬ (d = .snowflake ∧ t ∈ [.timestamp, .timestampTz, .json])
  | decimal p _ => d = .bigquery → ∀ n ∈ p, n ≤ 38
  | char n | varchar n => d = .sqlite → n = none
  | array e => Kept d e
  | interval _ | unrecognized _ => True

theorem mem_all (d : Dialect) : d ∈ Dialect.all := by cases d <;> decide

theorem scalar_mem_all (t : Scalar) : t ∈ Scalar.all := by cases t <;> decide

theorem flat_scalarName (d : Dialect) (t : Scalar) : Flat (d.rules.scalarName t) := by
  have ends : ∀ d ∈ Dialect.all, ∀ t ∈ Scalar.all,
      (((d.rules.scalarName t).toList.head?.any fun c => isAscii c && c.isAlpha && c.toLower != 'a') &&
        (d.rules.scalarName t).toList.getLast?.any fun c => !isBlank c && c != ']') = true := by decide +kernel
  have := Bool.and_eq_true_iff.1 (ends d (mem_all d) t (scalar_mem_all t))
  exact flat_of_ends this.1 this.2

/-- Reading knows every scalar's name but three of one dialect, and each that it knows comes back. -/
theorem named?_scalarName : ∀ d ∈ Dialect.all, ∀ t ∈ Scalar.all,
    (named? (lowerChars (d.rules.scalarName t).toList)).any
        (fun t' => decide (d.rules.typeName t' = .ok (d.rules.scalarName t))) =
      !decide (d = .snowflake ∧ t ∈ [Scalar.timestamp, .timestampTz, .json]) := by decide +kernel

theorem typeName_unrecognized (d : Dialect) (name s : String) : d.rules.typeName (unrecognized name) ≠ .ok s := by
  cases d <;> exact fun e => by cases e

theorem respelled_scalarName (d : Dialect) (t : Scalar) :
    Respelled d (d.rules.scalarName t) (Kept d (scalar t)) := by
  refine (flat_scalarName d t).respelled fun name => ?_
  have known := named?_scalarName d (mem_all d) t (scalar_mem_all t)
  rw [Bool.eq_iff_iff, Bool.not_eq_true', decide_eq_false_iff_not] at known
  rw [Kept, ← known]
  cases named? (lowerChars (d.rules.scalarName t).toList) with
  | some t' => simp
  | none => simp [typeName_unrecognized]

theorem scalarName_ascii (d : Dialect) (t : Scalar) : ∀ c ∈ (d.rules.scalarName t).toList, isAscii c := by
  have all : (Dialect.all.all fun d => Scalar.all.all fun t => (d.rules.scalarName t).toList.all isAscii) = true := by
    decide +kernel
  simp only [List.all_eq_true] at all
  exact all d (mem_all d) t (scalar_mem_all t)

theorem respelled_withText {d : Dialect} {t : Scalar} {name : String} {inner : List Char} {kept : Prop}
    (text : name.toList = withText (d.rules.scalarName t) inner) (plain : ∀ c ∈ inner, isAscii c ∧ c.toLower = c)
    (rereads : ∀ other, d.rules.typeName
      ((named? (withText (lower (d.rules.scalarName t)) inner)).getD (unrecognized other)) = .ok name ↔ kept) :
    Respelled d name kept := by
  refine ((flat_scalarName d t).parameters text).respelled fun other => ?_
  rw [text, lowerChars_withText (scalarName_ascii d t) plain]
  exact rereads other

theorem parameterHeads : ∀ name ∈ ["decimal", "numeric", "number", "varchar", "char", "text"],
    Apart ["decimal", "numeric", "number", "bignumeric"] name ∧
    Apart ["varchar", "character varying", "nvarchar"] name ∧ Apart ["char", "character", "nchar"] name ∧
    ¬ "interval ".toList.isPrefixOf name.toList := by decide

theorem named?_decimal {name : String} (h : name ∈ ["decimal", "numeric", "number"]) (p : UInt32)
    (s : Option UInt32) : named? (withText name (decimalText p s)) = some (decimal (some p) s) := by
  obtain ⟨decimals, varchars, chars, plain⟩ :=
    parameterHeads name (List.mem_append_left ["varchar", "char", "text"] h)
  have head : name ∈ ["decimal", "numeric", "number", "bignumeric"] := List.mem_append_left ["bignumeric"] h
  rw [named?_withText decimals varchars chars plain, if_pos head, readDecimal?_decimalText]

theorem named?_length {name : String} (h : name ∈ ["varchar", "char", "text"]) (n : UInt32) :
    named? (withText name (digits n)) =
      if name = "varchar" then some (varchar (some n)) else if name = "char" then some (char (some n))
      else none := by
  obtain ⟨decimals, varchars, chars, plain⟩ :=
    parameterHeads name (List.mem_append_right ["decimal", "numeric", "number"] h)
  rw [named?_withText decimals varchars chars plain, readLength?_digits]
  simp only [List.mem_cons, List.not_mem_nil, or_false] at h
  rcases h with rfl | rfl | rfl <;> rfl

theorem typeName_parameters {d : Dialect} (h : d ≠ .bigquery) (t : DataType) :
    d.rules.typeName t = d.rules.parameterTypeName t := by
  cases d with
  | bigquery => exact absurd rfl h
  | _ => rfl

theorem respelled_decimal {d : Dialect} (h : d ≠ .bigquery) (p : UInt32) (s : Option UInt32) :
    Respelled d (withPrecision (d.rules.scalarName .decimal) (some p) s) True := by
  have head : ∀ d ∈ Dialect.all, d ≠ .bigquery →
      lower (d.rules.scalarName .decimal) ∈ ["decimal", "numeric", "number"] := by decide
  refine respelled_withText (toList_withPrecision _ p s) decimalText_plain fun other => ?_
  rw [named?_decimal (head d (mem_all d) h), Option.getD_some, typeName_parameters h, iff_true]
  rfl

theorem respelled_length {d : Dialect} (h : d ≠ .bigquery) {t : Scalar} (length : t ∈ [Scalar.char, .varchar])
    (n : UInt32) : Respelled d (withLength (d.rules.scalarName t) (some n)) (d ≠ .sqlite) := by
  have heads : ∀ d ∈ Dialect.all, d ≠ .bigquery → ∀ t ∈ [Scalar.char, .varchar],
      d = .sqlite ∧ lower (d.rules.scalarName t) = "text" ∨
      d ≠ .sqlite ∧ (lower (d.rules.scalarName t) = "varchar" ∧ d.rules.scalarName .varchar = d.rules.scalarName t ∨
        lower (d.rules.scalarName t) = "char" ∧ d.rules.scalarName .char = d.rules.scalarName t) := by
    decide
  refine respelled_withText (toList_withLength _ n) digits_plain fun other => ?_
  rcases heads d (mem_all d) h t length with ⟨lite, text⟩ | ⟨kept, ⟨text, same⟩ | ⟨text, same⟩⟩
  · rw [text, named?_length (by decide)]
    exact iff_of_false (typeName_unrecognized d other _) (not_not_intro lite)
  · rw [text, named?_length (by decide), typeName_parameters h, ← same]
    exact iff_of_true rfl kept
  · rw [text, named?_length (by decide), typeName_parameters h, ← same]
    exact iff_of_true rfl kept

/-- The qualifier of an interval as reading gives it: in upper case, without blanks or a bracket at its ends. -/
structure IsQualifier (q : String) : Prop where
  first : ∃ c rest, q.toList = c :: rest ∧ Inside c
  last : ∃ front c, q.toList = front ++ [c] ∧ Inside c
  upper : upper (lower q) = q

theorem named?_interval {q : List Char} (h : Firm q) :
    named? ("interval".toList ++ ' ' :: q) = some (interval (some (String.ofList (upperChars q)))) := by
  have qualified : "interval".toList ++ ' ' :: q ≠ "interval".toList := fun e => by
    simp at e
  have head : "interval ".toList.isPrefixOf ("interval".toList ++ ' ' :: q) :=
    List.isPrefixOf_iff_prefix.2 ⟨q, rfl⟩
  have rest : ("interval".toList ++ ' ' :: q).drop 9 = q := rfl
  rw [named?, if_neg qualified, if_pos head, rest, h.trimmed]

theorem respelled_interval (d : Dialect) {q : Option String} (h : ∀ s ∈ q, IsQualifier s) :
    Respelled d (intervalName q) True := by
  have named (q : Option String) : d.rules.typeName (interval q) = .ok (intervalName q) := by cases d <;> rfl
  cases q with
  | none =>
    refine (flat_of_ends (by decide) (by decide)).respelled fun name => ?_
    have known : named? (lowerChars (intervalName none).toList) = some (interval none) := by decide
    rw [known]
    exact iff_true_intro (named none)
  | some q =>
    obtain ⟨⟨c, rest, first, inside⟩, ⟨front, b, last, inside'⟩, same⟩ := h q rfl
    have text : (intervalName (some q)).toList = "INTERVAL".toList ++ ' ' :: q.toList := by
      simp [intervalName, String.toList_append]
    have word : lowerChars "INTERVAL".toList ++ lowerChar ' ' = "interval".toList ++ [' '] := by decide
    have lowered : lowerChars (intervalName (some q)).toList = "interval".toList ++ ' ' :: lowerChars q.toList := by
      rw [text, lowerChars_break ⟨by decide, by decide, by decide⟩, word]
      simp
    have firm : Firm (lowerChars q.toList) := by
      obtain ⟨d, rest', lowerFirst, inside⟩ := inside_head_lowerChars inside rest
      exact firm_lowerChars (first ▸ lowerFirst) inside.unblank last inside'
    have flat : Flat (intervalName (some q)) :=
      ⟨⟨'I', _, text, by decide, by decide, by decide⟩, "INTERVAL".toList ++ ' ' :: front, b, by simp [text, last],
        inside'⟩
    refine flat.respelled fun name => ?_
    have back : String.ofList (upperChars (lowerChars q.toList)) = q := by simpa [upper, lower] using same
    rw [lowered, named?_interval firm, back]
    exact iff_true_intro (named (some q))

theorem Respelled.congr {d : Dialect} {s : String} {kept kept' : Prop} (h : Respelled d s kept)
    (same : kept ↔ kept') : Respelled d s kept' :=
  ⟨h.shown, h.lowered, fun text => (h.rereads text).trans same⟩

/-- The wider decimal is read as a decimal without precision, which has the narrower one's name. -/
theorem respelled_wide : Respelled .bigquery "BIGNUMERIC" False := by
  refine (flat_of_ends (by decide) (by decide)).respelled fun name => ?_
  have known : named? (lowerChars "BIGNUMERIC".toList) = some (decimal none none) := by decide
  rw [known]
  have narrow : Dialect.bigquery.rules.typeName (decimal none none) ≠ .ok "BIGNUMERIC" := by decide
  exact iff_of_false narrow not_false

theorem respelled_bigqueryDecimal (p q : Option UInt32) {s : String}
    (named : Dialect.bigquery.rules.typeName (decimal p q) = .ok s) :
    Respelled .bigquery s (Kept .bigquery (decimal p q)) := by
  have narrow := respelled_scalarName .bigquery .decimal
  cases p with
  | none =>
    obtain rfl := Except.ok.inj named
    exact narrow.congr (by simp [Kept])
  | some p =>
    obtain rfl := Except.ok.inj named
    split
    · exact respelled_wide.congr (by simpa [Kept] using ‹p > 38›)
    · exact narrow.congr (by simpa [Kept, UInt32.not_lt] using ‹¬ p > 38›)

theorem respelled_plainDecimal {d : Dialect} (h : d ≠ .bigquery) (p q : Option UInt32) {s : String}
    (named : d.rules.typeName (decimal p q) = .ok s) : Respelled d s (Kept d (decimal p q)) := by
  rw [typeName_parameters h] at named
  obtain rfl := Except.ok.inj named
  cases p with
  | none => exact (respelled_scalarName d .decimal).congr (by simp [Kept])
  | some p => exact (respelled_decimal h p q).congr (by simp [Kept, h])

theorem respelled_string {d : Dialect} {t : Scalar} (string : t ∈ [Scalar.char, .varchar]) (n : Option UInt32)
    {s : String} (named : .ok s = if d = .bigquery then .ok (d.rules.scalarName t)
      else (.ok (withLength (d.rules.scalarName t) n) : Except EmitError String)) :
    Respelled d s (d = .sqlite → n = none) := by
  have plain : Respelled d (d.rules.scalarName t) True :=
    (respelled_scalarName d t).congr (by
      simp only [List.mem_cons, List.not_mem_nil, or_false] at string
      rcases string with rfl | rfl <;> simp [Kept])
  split at named
  · obtain rfl := Except.ok.inj named
    exact plain.congr (by simp [‹d = _›])
  · obtain rfl := Except.ok.inj named
    cases n with
    | none => exact plain.congr (by simp)
    | some n => exact (respelled_length ‹_› string n).congr (by simp)

theorem respelled {d : Dialect} {t : DataType} {s : String} (named : d.rules.typeName t = .ok s)
    (qualifiers : ∀ q ∈ Emission.intervalTexts t, IsQualifier q) : Respelled d s (Kept d t) := by
  induction t generalizing s with
  | scalar t =>
    have name : d.rules.typeName (scalar t) = .ok (d.rules.scalarName t) := by cases d <;> rfl
    obtain rfl := Except.ok.inj (name.symm.trans named)
    exact respelled_scalarName d t
  | decimal p q =>
    by_cases h : d = .bigquery
    · subst h
      exact respelled_bigqueryDecimal p q named
    · exact respelled_plainDecimal h p q named
  | char n => exact respelled_string (t := .char) (by decide) n (named.symm.trans (by cases d <;> rfl))
  | varchar n => exact respelled_string (t := .varchar) (by decide) n (named.symm.trans (by cases d <;> rfl))
  | array e ih =>
    rw [typeName_array] at named
    cases element : d.rules.typeName e with
    | error e => rw [element] at named; cases named
    | ok name =>
      rw [element] at named
      obtain rfl := Except.ok.inj named
      exact (ih element qualifiers).array
  | interval q =>
    have name : d.rules.typeName (interval q) = .ok (intervalName q) := by cases d <;> rfl
    obtain rfl := Except.ok.inj (name.symm.trans named)
    refine respelled_interval d fun s mem => qualifiers s ?_
    obtain rfl := mem
    exact List.mem_cons_self
  | unrecognized name => exact absurd named (typeName_unrecognized d name s)

/-- A type's name, read back, has the same name again exactly for the types that `Kept` names, at every depth of
arrays. -/
theorem typeName_parse_iff {d : Dialect} {t : DataType} {s : String} (named : d.rules.typeName t = .ok s)
    (qualifiers : ∀ q ∈ Emission.intervalTexts t, IsQualifier q) :
    d.rules.typeName (DataType.parse s) = .ok s ↔ Kept d t := (respelled named qualifiers).iff

/-- An array of intervals comes back. -/
theorem dayArray_respelled :
    Dialect.bigquery.rules.typeName (array (interval (some "DAY"))) = .ok "ARRAY<INTERVAL DAY>" ∧
      Dialect.bigquery.rules.typeName (DataType.parse "ARRAY<INTERVAL DAY>") = .ok "ARRAY<INTERVAL DAY>" := by
  have day : IsQualifier "DAY" :=
    ⟨⟨'D', ['A', 'Y'], by simp, by decide, by decide⟩, ⟨['D', 'A'], 'Y', by simp, by decide, by decide⟩,
      by decide⟩
  have named : Dialect.bigquery.rules.typeName (array (interval (some "DAY"))) = .ok "ARRAY<INTERVAL DAY>" := by
    decide
  exact ⟨named, (typeName_parse_iff named (by simpa [Emission.intervalTexts] using day)).2 trivial⟩

/-- A decimal of 39 digits is called by the name of the wider decimal, which comes back as the narrower one's. -/
theorem wideDecimal_narrowed :
    Dialect.bigquery.rules.typeName (decimal (some 39) none) = .ok "BIGNUMERIC" ∧
      Dialect.bigquery.rules.typeName (DataType.parse "BIGNUMERIC") = .ok "NUMERIC" := by
  have flat : element? (lowerChars (trimChars "BIGNUMERIC".toList)) = none := by decide
  have read : named? (lowerChars (trimChars "BIGNUMERIC".toList)) = some (decimal none none) := by decide
  refine ⟨by decide, ?_⟩
  rw [DataType.parse, readLower_flat flat, read]
  rfl

end QueryBridge.DataType
