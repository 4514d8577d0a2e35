import QueryBridge.Source.Lowering
import QueryBridge.Proofs.Emission.Failure
import QueryBridge.Proofs.Text.LetterCase

set_option autoImplicit false

/-! BigQuery writes the unit of a truncation as a bare word behind the operand. A call is written with
any word of letters and underscores as its unit, but only a date part is moved back to the front
when it is read: behind the operand every other word is the name of a column. -/

namespace QueryBridge

open Text
open Token (space parens)

section

variable {unit : String}

theorem isAscii_of_letter {c : Char} (h : c.isAlpha ∨ c = '_') : isAscii c := by
  have code : c.toNat < 128 := by
    rcases h with letter | rfl
    · -- the last capital and the last small letter are ASCII
      rcases Bool.or_eq_true_iff.1 letter with capital | small
      · have last := (of_decide_eq_true capital).2
        exact Nat.lt_of_le_of_lt (UInt32.le_iff_toNat_le.1 last) (by decide)
      · have last := of_decide_eq_true (Bool.and_eq_true_iff.1 small).2
        exact Nat.lt_of_le_of_lt (UInt32.le_iff_toNat_le.1 last) (by decide)
    · decide
  simpa [isAscii] using code

theorem isDatePart_ascii (h : isDatePart unit) : ∀ c ∈ unit.toList, isAscii c :=
  fun c mem => isAscii_of_letter ((Emission.isDatePart_iff.1 h).2 c mem)

theorem upper_upper (ascii : ∀ c ∈ unit.toList, isAscii c) : upper (upper unit) = upper unit := by
  rw [upper, upper, String.toList_ofList, upperChars_upperChars ascii]

theorem lower_upper (ascii : ∀ c ∈ unit.toList, isAscii c) : lower (upper unit) = lower unit := by
  rw [lower, upper, String.toList_ofList, lowerChars_upperChars ascii, lower]

theorem isDatePart_upper (ascii : ∀ c ∈ unit.toList, isAscii c) : isDatePart (upper unit) = isDatePart unit := by
  have letter : ∀ c : Char, (c.toUpper.isAlpha || c.toUpper == '_') = (c.isAlpha || c == '_') :=
    toUpper_same (fun c => c.isAlpha || c == '_') (by decide)
  have more : (upper unit).isEmpty = unit.isEmpty := by
    rw [Bool.eq_iff_iff, String.isEmpty_iff, String.isEmpty_iff, upper, upperChars_ascii ascii]
    simp
  rw [isDatePart, isDatePart, more, upper, String.toList_ofList, upperChars_ascii ascii, List.all_map]
  exact congrArg _ (List.all_congr rfl letter)

end

namespace Source

/-- The call that cuts `x` down to a unit. -/
def truncation (unit : String) (x : QueryBridge.Expr) : QueryBridge.Expr :=
  .call "DATE_TRUNC" [.literal (.string unit), x] false

def readTruncation (x : QueryBridge.Expr) (word : String) : QueryBridge.Expr :=
  .call "DATE_TRUNC" (unitFirst .bigquery "DATE_TRUNC" [x, .column [] word]) false

section

variable {unit word : String} {x : QueryBridge.Expr} {ts : List Token}

theorem lower_truncation {operand : Expr} (h : operand.lower .bigquery = .ok x) :
    (Args.list none [.expr operand, .expr (.ident { text := word })] []).lower .bigquery "DATE_TRUNC" =
      .ok (readTruncation x word) := by
  simp only [Args.lower, lowerArgs, Arg.lower, h]
  rfl

theorem tokens_truncation_ok : (truncation unit x).tokens Dialect.bigquery.rules = .ok ts ↔
    isDatePart unit ∧ ∃ t, x.tokens Dialect.bigquery.rules = .ok t ∧
      ts = .function "DATE_TRUNC" :: parens (t ++ [.symbol .comma, space, .word (upper unit)]) := by
  have form : callForm Dialect.bigquery.rules "DATE_TRUNC" = .truncUnitLast := by decide
  rw [truncation, Expr.tokens_call_ok]
  constructor
  · intro layout
    cases layout with
    | plain plain => simp [form] at plain
    | singleValue single => simp [form] at single
    | truncUnitLast _ two part h =>
      cases two
      exact ⟨part, _, h, rfl⟩
  · rintro ⟨part, t, h, rfl⟩
    exact .truncUnitLast form rfl part h

theorem tokens_truncation_refused (h : ¬ isDatePart unit) :
    (truncation unit x).tokens Dialect.bigquery.rules = .error (invalidTrunc s!"'{unit}' is not a date part") := by
  have form : callForm Dialect.bigquery.rules "DATE_TRUNC" = .truncUnitLast := by decide
  rw [truncation, Expr.tokens.eq_def]
  simp only [form, truncUnit, if_neg h]
  rfl

theorem readTruncation_eq : readTruncation x word =
    if upper word ∈ dateParts then truncation (lower (upper word)) x
    else .call "DATE_TRUNC" [x, .column [] word] false := by
  have named : eqIgnoringAsciiCase "DATE_TRUNC" "DATE_TRUNC" = true := by decide
  simp only [readTruncation, unitFirst, named, decide_true, Bool.true_and, List.contains_iff_mem]
  split <;> rfl

theorem dateParts_spelled : ∀ part ∈ dateParts,
    isDatePart part ∧ isDatePart (lower part) ∧ upper (lower part) = part := by decide +kernel

end

/-- A truncation is written if its unit is a word of letters and underscores. What is written is read back as the
truncation if the word is a date part in some letter case, and with a column in its place otherwise. Every word that
is read as a date part can be written. -/
theorem truncation_read_back (unit : String) (x : QueryBridge.Expr) :
    (∀ ts, (truncation unit x).tokens Dialect.bigquery.rules = .ok ts ↔
      isDatePart unit ∧ ∃ t, x.tokens Dialect.bigquery.rules = .ok t ∧
        ts = .function "DATE_TRUNC" :: parens (t ++ [.symbol .comma, space, .word (upper unit)])) ∧
    (¬ isDatePart unit → (truncation unit x).tokens Dialect.bigquery.rules =
      .error (invalidTrunc s!"'{unit}' is not a date part")) ∧
    (∀ (operand : Expr) word, operand.lower .bigquery = .ok x →
      (Args.list none [.expr operand, .expr (.ident { text := word })] []).lower .bigquery "DATE_TRUNC" =
        .ok (readTruncation x word)) ∧
    (isDatePart unit → readTruncation x (upper unit) =
      if upper unit ∈ dateParts then truncation (lower unit) x
      else .call "DATE_TRUNC" [x, .column [] (upper unit)] false) ∧
    ((∀ c ∈ unit.toList, isAscii c) → upper unit ∈ dateParts → isDatePart unit) ∧
    ∀ word, upper word ∈ dateParts → isDatePart (lower (upper word)) ∧
      upper (lower (upper word)) = upper word ∧ readTruncation x word = truncation (lower (upper word)) x := by
  refine ⟨fun _ => tokens_truncation_ok, tokens_truncation_refused, fun _ _ => lower_truncation, fun part => ?_,
    fun ascii known => ?_, fun word known => ?_⟩
  · have ascii := isDatePart_ascii part
    rw [readTruncation_eq, upper_upper ascii, lower_upper ascii]
  · rw [← isDatePart_upper ascii]
    exact (dateParts_spelled _ known).1
  · obtain ⟨-, part, back⟩ := dateParts_spelled _ known
    exact ⟨part, back, by rw [readTruncation_eq, if_pos known]⟩

theorem month_read_back :
    (truncation "Month" (.column [] "created_at")).tokens Dialect.bigquery.rules =
      .ok (.function "DATE_TRUNC" :: parens [.ident "created_at", .symbol .comma, space, .word "MONTH"]) ∧
    readTruncation (.column [] "created_at") "MONTH" = truncation "month" (.column [] "created_at") := by
  obtain ⟨written, -, -, read, -, -⟩ := truncation_read_back "Month" (.column [] "created_at")
  have part : isDatePart "Month" = true := by decide +kernel
  have capitals : upper "Month" = "MONTH" := by decide +kernel
  have small : lower "Month" = "month" := by decide +kernel
  rw [capitals] at written read
  refine ⟨(written _).2 ⟨part, _, rfl, rfl⟩, ?_⟩
  rw [read part, small, if_pos (by decide)]

/-- The word behind the operand comes back as a column. -/
theorem decade_not_read_back :
    (truncation "decade" (.column [] "x")).tokens Dialect.bigquery.rules =
      .ok (.function "DATE_TRUNC" :: parens [.ident "x", .symbol .comma, space, .word "DECADE"]) ∧
    readTruncation (.column [] "x") "DECADE" = .call "DATE_TRUNC" [.column [] "x", .column [] "DECADE"] false ∧
    readTruncation (.column [] "x") "DECADE" ≠ truncation "decade" (.column [] "x") := by
  have part : isDatePart "decade" = true := by decide +kernel
  have capitals : upper "decade" = "DECADE" := by decide +kernel
  have unknown : upper "DECADE" ∉ dateParts := by decide +kernel
  have read : readTruncation (.column [] "x") "DECADE" = _ := readTruncation_eq.trans (if_neg unknown)
  refine ⟨tokens_truncation_ok.2 ⟨part, _, rfl, by rw [capitals]; rfl⟩, read, ?_⟩
  rw [read, truncation]
  simp

end Source

end QueryBridge
