import QueryBridge.Emission.Tree
import QueryBridge.Proofs.Emission.Glyphs

set_option autoImplicit false

namespace QueryBridge.Emission

open Text

section

variable {s t : List Char}

theorem tame_iff : Tame s ↔
    CommentFree (asBare s) ∧ (∀ c ∈ s.head?, isMark c = false) ∧ (∀ c ∈ s.getLast?, isMark c = false) := by
  refine ⟨fun h => ⟨h.commentFree, h.head, h.last⟩, fun ⟨free, head, last⟩ => ⟨?_, ?_, head, last⟩⟩
  · rintro ⟨l, l', rfl⟩
    refine hasOpener_iff.1 (.inl ⟨asBare l, asBare l', ?_⟩) free
    simp [asBare]
  · rintro ⟨l, l', rfl⟩
    refine hasOpener_iff.1 (.inr ⟨asBare l, asBare l', ?_⟩) free
    simp [asBare]

theorem Plain.commentFree (h : Plain s) : CommentFree (asBare s) := h.tame.commentFree

theorem Tame.append (hs : Tame s) (ht : Tame t) : Tame (s ++ t) := by
  rw [tame_iff]
  refine ⟨?_, fun c hc => ?_, fun c hc => ?_⟩
  · rw [asBare, List.map_append]
    exact (commentFree_append_of_leads ht.leads).2 ⟨hs.commentFree, ht.commentFree⟩
  · rw [List.head?_append, Option.mem_def, Option.or_eq_some_iff] at hc
    exact hc.elim (hs.head c) fun h => ht.head c h.2
  · rw [List.getLast?_append, Option.mem_def, Option.or_eq_some_iff] at hc
    exact hc.elim (ht.last c) fun h => hs.last c h.2

end

theorem not_isMark_of_le {c : Char} (h : 48 ≤ c.toNat) : isMark c = false := by
  rw [isMark_eq_false]
  refine ⟨?_, ?_, ?_⟩ <;>
  · rintro rfl
    revert h
    decide

theorem not_isMark_ofNat {n : Nat} (h : 48 ≤ n) : isMark (Char.ofNat n) = false := by
  by_cases valid : n.isValidChar
  · have same : (Char.ofNat n).toNat = n := by
      rw [Char.ofNat, dif_pos valid]
      rfl
    exact not_isMark_of_le (same.symm ▸ h)
  · simp [Char.ofNat, valid]
    decide

theorem upperRanges_high : ∀ r ∈ upperRanges, 48 ≤ (r.first : Int) + r.offset := by decide +kernel

theorem upperExpansions_high : ∀ p ∈ upperExpansions, p.2 ≠ [] ∧ ∀ n ∈ p.2, 48 ≤ n := by decide +kernel

theorem mapByRanges_upper {c : Char} (h : isMark c = false) : isMark (mapByRanges upperRanges c) = false := by
  unfold mapByRanges
  cases found : upperRanges.findSome? (·.mapped? c.toNat) with
  | none => simpa using h
  | some d =>
    obtain ⟨range, mem, mapped⟩ := List.exists_of_findSome?_eq_some found
    have high := upperRanges_high range mem
    rw [CaseRange.mapped?] at mapped
    split at mapped
    · rename_i inside
      obtain rfl := Option.some.inj mapped
      exact not_isMark_ofNat (by omega)
    · cases mapped

theorem toUpper_not_isMark {c : Char} (ascii : isAscii c) (h : isMark c = false) :
    isMark c.toUpper = false := by
  have all : ∀ n < 128, isMark (Char.ofNat n) = false → isMark (Char.ofNat n).toUpper = false := by decide
  have same := all c.toNat (by simpa [isAscii] using ascii)
  rw [Char.ofNat_toNat] at same
  exact same h

theorem upperChar_cases (c : Char) :
    (isMark c ∧ upperChar c = [c]) ∨ (isMark c = false ∧ upperChar c ≠ [] ∧ Plain (upperChar c)) := by
  cases mark : isMark c with
  | true =>
    simp only [isMark, Bool.or_eq_true, beq_iff_eq] at mark
    rcases mark with (rfl | rfl) | rfl <;> exact .inl ⟨rfl, by decide⟩
  | false =>
    refine .inr ⟨rfl, ?_⟩
    unfold upperChar
    split
    · exact ⟨List.cons_ne_nil _ _, by simpa [Plain] using toUpper_not_isMark ‹_› mark⟩
    · split
      · rename_i expansion found
        obtain ⟨l, l', split, -⟩ := List.lookup_eq_some_iff.1 found
        have high := upperExpansions_high (c.toNat, expansion) (by simp [split])
        refine ⟨by simpa using high.1, ?_⟩
        simp only [Plain, List.forall_mem_map]
        exact fun n hn => not_isMark_ofNat (high.2 n hn)
      · exact ⟨List.cons_ne_nil _ _, by simpa [Plain] using mapByRanges_upper mark⟩

theorem upperChar_ne_nil (c : Char) : upperChar c ≠ [] := by
  rcases upperChar_cases c with ⟨-, same⟩ | ⟨-, nonempty, -⟩
  · simp [same]
  · exact nonempty

theorem plain_upperChar {c : Char} (h : isMark c = false) : Plain (upperChar c) := by
  rcases upperChar_cases c with ⟨mark, -⟩ | ⟨-, -, plain⟩
  · simp [h] at mark
  · exact plain

theorem commentFree_upperChar (c : Char) : CommentFree (asBare (upperChar c)) := by
  rcases upperChar_cases c with ⟨-, same⟩ | ⟨-, -, plain⟩
  · simp [same, asBare]
  · exact plain.commentFree

theorem upperChars_apart {c d x y : Char} (h : Apart (bare c) (bare d)) (hx : x ∈ upperChar c)
    (hy : y ∈ upperChar d) : Apart (bare x) (bare y) := by
  rcases upperChar_cases c with ⟨-, same⟩ | ⟨-, -, plain⟩
  · rcases upperChar_cases d with ⟨-, same'⟩ | ⟨-, -, plain⟩
    · obtain rfl : x = c := by simpa [same] using hx
      obtain rfl : y = d := by simpa [same'] using hy
      exact h
    · refine apart_of_second ?_
      simpa [bare] using ⟨(isMark_eq_false.1 (plain y hy)).1, (isMark_eq_false.1 (plain y hy)).2.2⟩
  · refine apart_of_first ?_
    simpa [bare] using ⟨(isMark_eq_false.1 (plain x hx)).1, (isMark_eq_false.1 (plain x hx)).2.1⟩

theorem tame_upperChars {s : List Char} (h : Tame s) : Tame (upperChars s) := by
  rw [tame_iff]
  refine ⟨?_, fun c hc => ?_, fun c hc => ?_⟩
  · have free := h.commentFree
    simp only [asBare, upperChars, CommentFree, List.isChain_map] at free ⊢
    rw [List.flatMap_def, List.isChain_flatten (by simp [upperChar_ne_nil])]
    refine ⟨fun l hl => ?_, ?_⟩
    · obtain ⟨c, -, rfl⟩ := List.mem_map.1 hl
      simpa [asBare, CommentFree, List.isChain_map] using commentFree_upperChar c
    · rw [List.isChain_map]
      refine free.imp fun c d apart x hx y hy => ?_
      exact upperChars_apart apart (List.mem_of_mem_getLast? hx) (List.mem_of_mem_head? hy)
  · cases s with
    | nil => simp [upperChars] at hc
    | cons d s =>
      rw [upperChars, List.flatMap_cons, List.head?_append_of_ne_nil _ (upperChar_ne_nil d)] at hc
      exact plain_upperChar (h.head d rfl) c (List.mem_of_mem_head? hc)
  · rcases List.eq_nil_or_concat s with rfl | ⟨s, d, rfl⟩
    · simp [upperChars] at hc
    · rw [upperChars, List.concat_eq_append, List.flatMap_append, List.flatMap_singleton,
        List.getLast?_append_of_ne_nil _ (upperChar_ne_nil d)] at hc
      exact plain_upperChar (h.last d (by simp)) c (List.mem_of_mem_getLast? hc)

theorem tame_upper {s : String} (h : Tame s.toList) : Tame (upper s).toList := by
  simpa [upper] using tame_upperChars h

theorem not_isMark_of_letter {c : Char} (h : c.isAlphanum ∨ c = '_') : isMark c = false := by
  rw [isMark_eq_false]
  refine ⟨?_, ?_, ?_⟩ <;>
  · rintro rfl
    revert h
    decide

theorem tame_bareWord {word : String} (h : isBareWord word) : Tame (upper word).toList := by
  simp only [isBareWord, Bool.and_eq_true, List.all_eq_true, isAsciiWord, Bool.or_eq_true, beq_iff_eq] at h
  exact tame_upper (Plain.tame fun c hc => not_isMark_of_letter (h.2 c hc))

theorem tame_datePart {unit : String} (h : isDatePart unit) : Tame (upper unit).toList := by
  simp only [isDatePart, Bool.and_eq_true, List.all_eq_true, Bool.or_eq_true, beq_iff_eq] at h
  refine tame_upper (Plain.tame fun c hc => not_isMark_of_letter ?_)
  exact (h.2 c hc).imp_left fun letter => by simp [Char.isAlphanum, letter]

/-- A dash exactly in front of what is negative, and no other mark that matters. -/
structure Signed (negative : Bool) (s : List Char) : Prop where
  commentFree : CommentFree (asBare s)
  dash : s.head? = some '-' ↔ negative

theorem signed_of_body {s body : List Char} {negative : Bool} (h : s = (if negative then ['-'] else []) ++ body)
    (free : CommentFree (asBare body)) (head : ∀ c ∈ body.head?, isMark c = false) : Signed negative s := by
  have second : ∀ g ∈ (asBare body).head?, g ≠ bare '-' ∧ g ≠ bare '*' := by
    intro g hg
    rw [asBare, List.head?_map, Option.mem_def, Option.map_eq_some_iff] at hg
    obtain ⟨c, hc, rfl⟩ := hg
    have plain := isMark_eq_false.1 (head c hc)
    simp [bare, plain]
  subst h
  cases negative with
  | true =>
    refine ⟨?_, by simp⟩
    simp only [if_true, asBare, List.singleton_append, List.map_cons, CommentFree, List.isChain_cons]
    exact ⟨fun g hg => apart_of_second (second g hg), free⟩
  | false =>
    refine ⟨by simpa using free, ?_⟩
    simp only [Bool.false_eq_true, if_false, List.nil_append, iff_false]
    intro first
    have mark := head _ first
    revert mark
    decide

theorem plain_nat (n : Nat) : Plain (toString n).toList := by
  intro c hc
  rw [Nat.toString_eq_repr, Nat.toList_repr] at hc
  have digit : c.isDigit := Nat.isDigit_of_mem_toDigits (by decide) (by decide) hc
  simp only [Char.isDigit, Bool.and_eq_true, decide_eq_true_eq] at digit
  exact not_isMark_of_le digit.1

theorem signed_int (k : Int) : Signed (k < 0) (toString k).toList := by
  have absolute : (toString k).toList = (if k < 0 then ['-'] else []) ++ (toString k.natAbs).toList := by
    cases k with
    | ofNat n => rfl
    | negSucc n =>
      have negative : Int.negSucc n < 0 := Int.negSucc_lt_zero n
      rw [if_pos negative]
      exact String.toList_append
  have plain := plain_nat k.natAbs
  refine signed_of_body (by simpa using absolute) plain.commentFree plain.tame.head

theorem signed_int64 (n : Int64) : Signed (n < 0) (toString n).toList := by
  have negative : decide (n < 0) = decide (n.toInt < 0) := decide_eq_decide.2 Int64.lt_iff_toInt_lt
  rw [negative]
  exact signed_int n.toInt

theorem Plain.of_subset {s t : List Char} (h : Plain t) (sub : s ⊆ t) : Plain s := fun c hc => h c (sub hc)

/-- A text without marks that an exponent may follow. -/
def Exponential (s : List Char) : Prop :=
  Plain s ∨ ∃ lead k, Plain lead ∧ s = lead ++ 'e' :: (toString (k : Int)).toList

theorem exponential_renderWith (d : Decimal.Digits) : Exponential (d.renderWith "").toList := by
  have digits := plain_nat d.digits
  have zeros (n : Nat) : Plain (Decimal.zeros n).toList := by
    simp only [Decimal.zeros, String.toList_ofList, Plain, List.mem_replicate]
    rintro c ⟨-, rfl⟩
    decide
  unfold Decimal.Digits.renderWith
  dsimp only
  -- Only the last layout has an exponent; the others are digits and a point.
  split
  · exact .inl (by decide)
  split
  · refine .inl ?_
    simp only [String.toList_append]
    exact (digits.append (zeros _)).append (by decide)
  split
  · refine .inl ?_
    simp only [List.splitAt_eq, String.toList_append, String.toList_ofList]
    exact ((digits.of_subset (List.take_subset _ _)).append (by decide)).append
      (digits.of_subset (List.drop_subset _ _))
  split
  · refine .inl ?_
    simp only [String.toList_append]
    exact (Plain.append (by decide) (zeros _)).append digits
  · simp only [ite_self, String.append_empty, String.toList_append, List.append_assoc]
    refine .inr ⟨_, _, ?_, rfl⟩
    split
    · rename_i first single
      rw [single] at digits
      rw [String.toList_ofList]
      exact digits
    · rename_i first rest _ several
      rw [several] at digits
      rw [String.toList_ofList]
      refine List.forall_mem_cons.2 ⟨digits first (by simp), List.forall_mem_cons.2 ⟨rfl, ?_⟩⟩
      exact digits.of_subset (List.subset_cons_self _ _)
    · exact nofun

theorem Exponential.commentFree {s : List Char} (h : Exponential s) : CommentFree (asBare s) := by
  rcases h with plain | ⟨lead, k, plain, rfl⟩
  · exact plain.commentFree
  · have front : Plain (lead ++ ['e']) := plain.append (by decide)
    have whole : asBare (lead ++ 'e' :: (toString k).toList)
        = asBare (lead ++ ['e']) ++ asBare (toString k).toList := by simp [asBare]
    rw [whole, commentFree_append_of_trails front.tame.trails]
    exact ⟨front.commentFree, (signed_int k).commentFree⟩

theorem Exponential.head {s : List Char} (h : Exponential s) : ∀ c ∈ s.head?, isMark c = false := by
  rcases h with plain | ⟨lead, k, plain, rfl⟩
  · exact plain.tame.head
  · have front : Plain (lead ++ ['e']) := plain.append (by decide)
    intro c hc
    refine front c (List.mem_of_mem_head? (?_ : c ∈ (lead ++ ['e']).head?))
    simpa [List.head?_append] using hc

theorem signed_float {x : Decimal.Binary64} (finite : x.isFinite) : Signed x.negative x.render.toList := by
  have digits := exponential_renderWith x.shortest
  refine signed_of_body ?_ digits.commentFree digits.head
  simp only [Decimal.Binary64.render, Decimal.Binary64.renderWith, Decimal.Binary64.isNaN, finite]
  cases x.negative <;> simp

theorem plain_scalarName (d : Dialect) (t : Scalar) : Plain (d.rules.scalarName t).toList := by
  cases d <;> cases t <;> decide +kernel

theorem plain_formatBool (d : Dialect) (b : Bool) : Plain (d.rules.formatBool b).toList := by
  cases d <;> cases b <;> decide

theorem plain_functionNames (d : Dialect) : ∀ p ∈ d.rules.functionNames, Plain p.2.toList := by
  cases d <;> decide +kernel

theorem tame_functionName {d : Dialect} {name : String} (h : Tame name.toList) :
    Tame ((Token.function name).text d.rules).toList := by
  refine tame_upper ?_
  cases found : d.rules.remapFunction name with
  | none => exact h
  | some other =>
    obtain ⟨l, l', split, -⟩ := List.lookup_eq_some_iff.1 found
    exact (plain_functionNames d (Text.upper name, other) (by simp [split])).tame

def intervalTexts : DataType → List String
  | .array element => intervalTexts element
  | .interval (some qualifier) => [qualifier]
  | _ => []

theorem plain_withLength {name : String} (h : Plain name.toList) (n : Option UInt32) :
    Plain (DataType.withLength name n).toList := by
  cases n with
  | none => exact h
  | some n =>
    simp only [DataType.withLength, String.toList_append]
    exact ((h.append (by decide)).append (plain_nat n.toNat)).append (by decide)

theorem plain_withPrecision {name : String} (h : Plain name.toList) (p s : Option UInt32) :
    Plain (DataType.withPrecision name p s).toList := by
  cases p with
  | none => exact h
  | some p => cases s with
    | none => exact plain_withLength h (some p)
    | some s =>
      simp only [DataType.withPrecision, String.toList_append]
      exact ((((h.append (by decide)).append (plain_nat p.toNat)).append (by decide)).append
        (plain_nat s.toNat)).append (by decide)

theorem tame_intervalName {q : Option String} (h : ∀ s ∈ intervalTexts (.interval q), Tame s.toList) :
    Tame (DataType.intervalName q).toList := by
  cases q with
  | none => exact Plain.tame (by decide)
  | some q =>
    rw [DataType.intervalName, String.toList_append]
    exact (Plain.tame (by decide)).append (h q List.mem_cons_self)

theorem tame_parameterTypeName {d : Dialect} {t : DataType} {name : String}
    (named : d.rules.parameterTypeName t = .ok name) (tame : ∀ s ∈ intervalTexts t, Tame s.toList) :
    Tame name.toList := by
  induction t generalizing name with
  | array e ih =>
    rw [Rules.parameterTypeName] at named
    cases element : d.rules.parameterTypeName e with
    | error => simp [element, Except.map] at named
    | ok inner =>
      simp only [element, Except.map, Except.ok.injEq] at named
      rw [← named, String.toList_append]
      exact (ih element tame).append (Plain.tame (by decide))
  | scalar t =>
    cases named
    exact (plain_scalarName d t).tame
  | decimal p s =>
    cases named
    exact (plain_withPrecision (plain_scalarName d _) p s).tame
  | char n =>
    cases named
    exact (plain_withLength (plain_scalarName d _) n).tame
  | varchar n =>
    cases named
    exact (plain_withLength (plain_scalarName d _) n).tame
  | interval q =>
    cases named
    exact tame_intervalName tame
  | unrecognized name => cases named

theorem tame_angleTypeName {d : Dialect} {t : DataType} {name : String}
    (named : d.rules.angleTypeName t = .ok name) (tame : ∀ s ∈ intervalTexts t, Tame s.toList) :
    Tame name.toList := by
  induction t generalizing name with
  | array e ih =>
    rw [Rules.angleTypeName] at named
    cases element : d.rules.angleTypeName e with
    | error => simp [element, Except.map] at named
    | ok inner =>
      simp only [element, Except.map, Except.ok.injEq] at named
      rw [← named, String.toList_append, String.toList_append]
      exact ((Plain.tame (by decide)).append (ih element tame)).append (Plain.tame (by decide))
  | scalar t =>
    cases named
    exact (plain_scalarName d t).tame
  | decimal p s =>
    cases p with
    | none =>
      cases named
      exact Plain.tame (by decide)
    | some p =>
      cases named
      split
      · exact Plain.tame (by decide)
      · exact Plain.tame (by decide)
  | char n | varchar n =>
    cases named
    exact Plain.tame (by decide)
  | interval q =>
    cases named
    exact tame_intervalName tame
  | unrecognized name => cases named

theorem tame_typeName {d : Dialect} {t : DataType} {name : String} (named : d.rules.typeName t = .ok name)
    (tame : ∀ s ∈ intervalTexts t, Tame s.toList) : Tame name.toList := by
  unfold Rules.typeName at named
  split at named
  · exact tame_parameterTypeName named tame
  · exact tame_angleTypeName named tame

end QueryBridge.Emission
