import QueryBridge.Emission.Tree
import QueryBridge.Source.Lexer
import QueryBridge.Source.Lowering

set_option autoImplicit false

/-! Every dialect writes a text between single quotes, with the quotes in it doubled. What its lexer
makes of that depends on two of its features: a backslash can start an escape, and three quotes can
open a text. -/

namespace QueryBridge.Emission

open Source Text

theorem pushed_eq_some {c : Char} {o : Option (List Char × List Char)} {v rest : List Char} :
    (o.map fun r => (c :: r.1, r.2)) = some (v, rest) ↔ ∃ v', v = c :: v' ∧ o = some (v', rest) := by
  rw [Option.map_eq_some_iff]
  constructor
  · rintro ⟨⟨v', rest'⟩, read, same⟩
    obtain ⟨rfl, rfl⟩ := Prod.mk.inj same
    exact ⟨v', rfl, read⟩
  · rintro ⟨v', rfl, read⟩
    exact ⟨_, read, rfl⟩

section

variable {mark : Char} {escapes : Bool}

theorem readQuoted_cons {c : Char} {input : List Char} (other : c ≠ mark)
    (plain : escapes = true → c ≠ '\\') (more : input ≠ []) :
    readQuoted mark escapes (c :: input) =
      (readQuoted mark escapes input).map fun r => (c :: r.1, r.2) := by
  obtain ⟨next, rest, rfl⟩ := List.exists_cons_of_ne_nil more
  rw [readQuoted, if_neg other, if_neg]
  simpa using plain

theorem readQuoted_mark (input : List Char) :
    readQuoted mark escapes (mark :: mark :: input) =
      (readQuoted mark escapes input).map fun r => (mark :: r.1, r.2) := by
  rw [readQuoted, if_pos rfl, if_pos rfl]

theorem readQuoted_close {t : List Char} (ht : t.head? ≠ some mark) :
    readQuoted mark escapes (mark :: t) = some ([], t) := by
  cases t with
  | nil => rw [readQuoted, if_pos rfl]
  | cons next rest =>
    have other : next ≠ mark := by simpa using ht
    rw [readQuoted, if_pos rfl, if_neg other]

theorem readQuoted_doubled {s t : List Char} (ht : t.head? ≠ some mark)
    (plain : escapes = true → '\\' ∉ s) :
    readQuoted mark escapes (doubled mark s ++ mark :: t) = some (s, t) := by
  induction s with
  | nil => exact readQuoted_close ht
  | cons c s ih =>
    have tail := ih fun on => List.not_mem_of_not_mem_cons (plain on)
    rw [doubled]
    by_cases same : c = mark
    · subst same
      rw [if_pos rfl, List.cons_append, List.cons_append, readQuoted_mark, tail]
      rfl
    · have here : escapes = true → c ≠ '\\' := fun on => (List.ne_of_not_mem_cons (plain on)).symm
      rw [if_neg same, List.cons_append, readQuoted_cons same here (by simp), tail]
      rfl

/-- A mark takes two characters of the input, every other character at least one, and the end takes one. -/
theorem length_readQuoted {input v rest : List Char}
    (h : readQuoted mark escapes input = some (v, rest)) :
    v.length + v.count mark + 1 + rest.length ≤ input.length := by
  have step (c : Char) (v : List Char) : (c :: v).count mark ≤ v.count mark + 1 := by
    rw [List.count_cons]
    split <;> omega
  induction input using readQuoted.induct mark escapes generalizing v with
  | case1 => cases h
  | case2 =>
    rw [readQuoted, if_pos rfl] at h
    cases h
    simp
  | case3 c other => simp [readQuoted, other] at h
  | case4 input ih =>
    rw [readQuoted_mark] at h
    obtain ⟨v', rfl, read⟩ := pushed_eq_some.1 h
    have before := ih read
    have here := step mark v'
    simp only [List.length_cons]
    omega
  | case5 next input other =>
    rw [readQuoted, if_pos rfl, if_neg other] at h
    cases h
    simp
    omega
  | case6 c next input other escaped ih =>
    rw [readQuoted, if_neg other, if_pos escaped] at h
    obtain ⟨v', rfl, read⟩ := pushed_eq_some.1 h
    have before := ih read
    have here := step (escapeValue next) v'
    simp only [List.length_cons]
    omega
  | case7 c next input other escaped ih =>
    rw [readQuoted, if_neg other, if_neg escaped] at h
    obtain ⟨v', rfl, read⟩ := pushed_eq_some.1 h
    have before := ih read
    have here : (c :: v').count mark = v'.count mark := List.count_cons_of_ne other
    simp only [List.length_cons] at before ⊢
    omega

theorem length_doubled (s : List Char) : (doubled mark s).length = s.length + s.count mark := by
  induction s with
  | nil => rfl
  | cons c s ih =>
    rw [doubled]
    by_cases same : c = mark
    · subst same
      rw [if_pos rfl, List.length_cons, List.length_cons, ih, List.length_cons, List.count_cons_self]
      omega
    · rw [if_neg same, List.length_cons, ih, List.length_cons, List.count_cons_of_ne same]
      omega

/-- The first backslash takes the character behind it along, so that what is left is too short for the
rest of the text. -/
theorem readQuoted_escape {s t : List Char} (backslash : '\\' ∈ s) (other : mark ≠ '\\') :
    readQuoted mark true (doubled mark s ++ mark :: t) ≠ some (s, t) := by
  induction s with
  | nil => cases backslash
  | cons c s ih =>
    intro read
    rw [doubled] at read
    by_cases same : c = mark
    · subst same
      rw [if_pos rfl, List.cons_append, List.cons_append, readQuoted_mark] at read
      obtain ⟨_, cut, tail⟩ := pushed_eq_some.1 read
      obtain rfl := (List.cons.inj cut).2
      exact ih (List.mem_of_ne_of_mem other.symm backslash) tail
    · rw [if_neg same, List.cons_append] at read
      by_cases start : c = '\\'
      · subst start
        obtain ⟨next, rest, more⟩ := List.exists_cons_of_ne_nil
          (show doubled mark s ++ mark :: t ≠ [] by simp)
        rw [more, readQuoted, if_neg same, if_pos (by simp)] at read
        obtain ⟨_, cut, tail⟩ := pushed_eq_some.1 read
        obtain rfl := (List.cons.inj cut).2
        have bound := length_readQuoted tail
        have whole := congrArg List.length more
        rw [List.length_append, length_doubled, List.length_cons, List.length_cons] at whole
        omega
      · rw [readQuoted_cons same (fun _ => start) (by simp)] at read
        obtain ⟨_, cut, tail⟩ := pushed_eq_some.1 read
        obtain rfl := (List.cons.inj cut).2
        exact ih (List.mem_of_ne_of_mem (Ne.symm start) backslash) tail

end

theorem quoted_read_iff {escapes : Bool} {s t : List Char} (ht : t.head? ≠ some '\'') :
    readQuoted '\'' escapes (doubled '\'' s ++ '\'' :: t) = some (s, t) ↔
      (escapes = true → '\\' ∉ s) := by
  constructor
  · rintro read rfl backslash
    exact readQuoted_escape backslash (by decide) read
  · exact readQuoted_doubled ht

theorem found_eq_some {form form' : StringForm} {o : Option (List Char × List Char)} {s : String}
    {rest : List Char} : readString.found form o = some (.string form' s, rest) ↔
      form = form' ∧ o = some (s.toList, rest) := by
  rw [readString.found, Option.map_eq_some_iff]
  constructor
  · rintro ⟨⟨v, rest'⟩, rfl, same⟩
    obtain ⟨lexeme, rfl⟩ := Prod.mk.inj same
    obtain ⟨rfl, rfl⟩ := Lexeme.string.inj lexeme
    rw [String.toList_ofList]
    exact ⟨rfl, rfl⟩
  · rintro ⟨rfl, rfl⟩
    exact ⟨_, rfl, by rw [String.ofList_toList]⟩

/-- Where three quotes open a text, a doubled quote behind the opening one looks like that. -/
theorem readString_iff {triples escapes : Bool} {s : String} {t : List Char} (ht : t.head? ≠ some '\'') :
    readString '\'' triples escapes (.plain '\'') (.triple '\'') (quoteChars '\'' s.toList ++ t) =
        some (.string (.plain '\'') s, t) ↔
      (escapes = true → '\\' ∉ s.toList) ∧ (triples = true → s.toList.head? ≠ some '\'') := by
  rw [← quoted_read_iff ht, quoteChars, List.cons_append, List.cons_append, List.append_assoc,
    List.singleton_append]
  cases triples with
  | false => simp [readString, found_eq_some]
  | true =>
    generalize same : s.toList = cs
    obtain rfl : String.ofList cs = s := by rw [← same, String.ofList_toList]
    cases cs with
    | nil =>
      rw [doubled, List.nil_append, readQuoted_close ht]
      cases t with
      | nil => simp [readString]
      | cons b more =>
        have other : b ≠ '\'' := by simpa using ht
        simp [readString, other]
    | cons c cs =>
      rw [doubled]
      by_cases quote : c = '\''
      · subst quote
        simp [readString, found_eq_some]
      · obtain ⟨b, more, behind⟩ := List.exists_cons_of_ne_nil
          (show doubled '\'' cs ++ '\'' :: t ≠ [] by simp)
        rw [if_neg quote, List.cons_append, behind]
        simp [readString, found_eq_some, quote]

theorem readString_form {triples escapes : Bool} {single triple form : StringForm} {input : List Char}
    {mark : Char} {s : String} {rest : List Char}
    (h : readString mark triples escapes single triple input = some (.string form s, rest)) :
    form = single ∨ form = triple := by
  unfold readString at h
  split at h
  · cases h
  · split at h
    · exact .inl (found_eq_some.1 h).1.symm
    · split at h
      · split at h
        · split at h
          · exact .inr (found_eq_some.1 h).1.symm
          · cases h
            exact .inl rfl
        · exact .inl (found_eq_some.1 h).1.symm
      · split at h
        · cases h
          exact .inl rfl
        · cases h
      · cases h

theorem readLexeme_quote (d : Dialect) (s : List Char) :
    readLexeme d ('\'' :: s) =
      readString '\'' d.tripleQuotes d.backslashEscapes (.plain '\'') (.triple '\'') ('\'' :: s) := by
  have unprefixed : (s.head?.bind fun mark => readPrefixedString d '\'' mark s.tail) = none := by
    cases s <;> rfl
  rw [readLexeme, unprefixed]
  rfl

/-- The lexeme at the front of the input is a literal of the text, and `rest` follows it. -/
def ReadsText (d : Dialect) (s : String) (input rest : List Char) : Prop :=
  ∃ form, readLexeme d input = some (.string form s, rest) ∧
    (Value.string form s).lower = .ok (.string s)

/-- The dialect's lexer gives no character of the literal another meaning. -/
def IsVerbatim (d : Dialect) (s : String) : Prop :=
  (d.backslashEscapes = true → '\\' ∉ s.toList) ∧ (d.tripleQuotes = true → s.toList.head? ≠ some '\'')

theorem readsText_quoted {d : Dialect} {s : String} {t : List Char} (ht : t.head? ≠ some '\'') :
    ReadsText d s (quoteChars '\'' s.toList ++ t) t ↔ IsVerbatim d s := by
  rw [IsVerbatim, ← readString_iff ht]
  have lexeme := readLexeme_quote d (doubled '\'' s.toList ++ ['\''] ++ t)
  change readLexeme d (quoteChars '\'' s.toList ++ t) = readString _ _ _ _ _ (quoteChars '\'' s.toList ++ t) at lexeme
  constructor
  · rintro ⟨form, read, value⟩
    rw [lexeme] at read
    rcases readString_form read with rfl | rfl
    · exact read
    · cases value
  · intro read
    exact ⟨_, lexeme.trans read, rfl⟩

theorem lexFrom_string {d : Dialect} {form : StringForm} {s : String} {input rest : List Char}
    (read : readLexeme d ('\'' :: input) = some (.string form s, rest))
    (shorter : rest.length < ('\'' :: input).length) (p : Position) (spaced : Bool) :
    lexFrom d p spaced ('\'' :: input) =
      (lexFrom d (p.moved ('\'' :: input) rest) false rest).map (⟨.string form s, spaced⟩ :: ·) := by
  have solid : skipBlank d ('\'' :: input) = none := by
    have blank : isBlank '\'' = false := by decide +kernel
    simp [skipBlank, blank]
  rw [lexFrom, solid]
  simp only [read, Option.bind_eq_bind, Option.bind_some, shorter, ↓reduceDIte, Lexeme.locate]
  rw [Option.map_eq_bind]
  rfl

theorem sql_string (d : Dialect) (s : String) :
    (Expr.literal (.string s)).sql d = .ok (quote '\'' s) := by
  have tokens : (Expr.literal (.string s)).tokens d.rules = .ok [.string s] := rfl
  rw [Expr.sql, tokens]
  simp [Except.map, Token.render, Token.text, Rules.quoteString]

/-- A literal is read back, by itself and in front of what follows it, exactly if it is verbatim. -/
theorem literal_read_iff (d : Dialect) (s : String) {t : List Char} (ht : t.head? ≠ some '\'') :
    ∃ text, (Expr.literal (.string s)).sql d = .ok text ∧
      (ReadsText d s (text.toList ++ t) t ↔ IsVerbatim d s) ∧
      (IsVerbatim d s → ∀ p spaced, lexFrom d p spaced (text.toList ++ t) =
        (lexFrom d (p.moved (text.toList ++ t) t) false t).map (⟨.string (.plain '\'') s, spaced⟩ :: ·)) := by
  refine ⟨quote '\'' s, sql_string d s, ?_⟩
  have chars : (quote '\'' s).toList = quoteChars '\'' s.toList := by rw [quote, String.toList_ofList]
  rw [chars]
  refine ⟨readsText_quoted ht, fun verbatim p spaced => ?_⟩
  have read := (readString_iff ht).2 verbatim
  have shorter : t.length < (quoteChars '\'' s.toList ++ t).length := by
    have opened : 0 < (quoteChars '\'' s.toList).length := by simp [quoteChars]
    rw [List.length_append]
    omega
  exact lexFrom_string ((readLexeme_quote d _).trans read) shorter p spaced

theorem apostrophe_read : (" AS x".toList).head? ≠ some '\'' ∧ IsVerbatim .bigquery "it's" ∧
    ReadsText .bigquery "it's" ("'it''s'".toList ++ " AS x".toList) " AS x".toList := by
  have verbatim : IsVerbatim .bigquery "it's" := by
    constructor <;> decide
  obtain ⟨text, sql, read, -⟩ := literal_read_iff .bigquery "it's" (t := " AS x".toList) (by decide)
  obtain rfl : "'it''s'" = text := by
    rw [sql_string] at sql
    exact Except.ok.inj sql
  exact ⟨by decide, verbatim, read.2 verbatim⟩

/-- The backslash and the letter behind it are read as a line feed. -/
theorem backslash_misread : (Expr.literal (.string "C:\\new")).sql .bigquery = .ok "'C:\\new'" ∧
    readLexeme .bigquery ("'C:\\new'".toList ++ []) = some (.string (.plain '\'') "C:\new", []) ∧
    ¬ ReadsText .bigquery "C:\\new" ("'C:\\new'".toList ++ []) [] := by
  have read : readLexeme .bigquery ("'C:\\new'".toList ++ []) = some (.string (.plain '\'') "C:\new", []) := by
    decide +kernel
  refine ⟨by rw [sql_string]; rfl, read, ?_⟩
  rintro ⟨form, other, -⟩
  have same := read.symm.trans other
  simp at same

end QueryBridge.Emission
