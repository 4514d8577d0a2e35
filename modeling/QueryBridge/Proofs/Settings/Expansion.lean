import Mathlib.Data.List.Basic
import QueryBridge.Settings.Expansion

set_option autoImplicit false

namespace QueryBridge.Segment

/-- An alphanumeric character of any script, or an underscore. -/
def InName (c : Char) : Prop := Text.isAlphanumeric c ∨ c = '_'

instance (c : Char) : Decidable (InName c) := inferInstanceAs (Decidable (_ ∨ _))

theorem isNameChar_iff {c : Char} : isNameChar c = true ↔ InName c := by
  simp [isNameChar, InName]

/-- The segments of a text from left to right. A name goes on as long as it can, braces go on to the first closing
one or to the end of the text, and a dollar sign with neither behind it is plain. -/
inductive Divides : List Char → List Segment → Prop
  | nil : Divides [] []
  | char {c : Char} {s : List Char} {segments : List Segment} (plain : c ≠ '$') (rest : Divides s segments) :
      Divides (c :: s) (.char c :: segments)
  | dollar {s : List Char} {segments : List Segment} (alone : ∀ c ∈ s.head?, c ≠ '{' ∧ ¬ InName c)
      (rest : Divides s segments) : Divides ('$' :: s) (.char '$' :: segments)
  | reference {name s : List Char} {segments : List Segment} (named : name ≠ []) (word : ∀ c ∈ name, InName c)
      (longest : ∀ c ∈ s.head?, ¬ InName c) (rest : Divides s segments) :
      Divides ('$' :: (name ++ s)) (.reference name :: segments)
  | closed {name s : List Char} {segments : List Segment} (inside : '}' ∉ name) (rest : Divides s segments) :
      Divides ('$' :: '{' :: (name ++ '}' :: s)) (.braced name :: segments)
  | cutOff {name : List Char} (inside : '}' ∉ name) : Divides ('$' :: '{' :: name) [.braced name]

def Mode.pending : Mode → List Char
  | plain => []
  | dollar => ['$']
  | named name => '$' :: name.reverse
  | inBraces name => '$' :: '{' :: name.reverse

/-- The scan reads a name from its first character on, and braces up to the closing one. -/
def Mode.Sound : Mode → Prop
  | plain | dollar => True
  | named name => name ≠ [] ∧ ∀ c ∈ name, InName c
  | inBraces name => '}' ∉ name

attribute [local simp] scan scanChar scanPlain isNameChar_iff

theorem scan_plain_dollar (s : List Char) : scan .plain ('$' :: s) = scan .dollar s := rfl

theorem scan_plain {c : Char} (plain : c ≠ '$') (s : List Char) : scan .plain (c :: s) = .char c :: scan .plain s := by
  simp [plain]

theorem scan_dollar {s : List Char} (alone : ∀ c ∈ s.head?, c ≠ '{' ∧ ¬ InName c) :
    scan .dollar s = .char '$' :: scan .plain s := by
  cases s with
  | nil => rfl
  | cons c s =>
    obtain ⟨unbraced, unnamed⟩ := alone c rfl
    simp [unbraced, unnamed]

theorem scan_named_end {name s : List Char} (longest : ∀ c ∈ s.head?, ¬ InName c) :
    scan (.named name) s = .reference name.reverse :: scan .plain s := by
  cases s with
  | nil => rfl
  | cons c s => simp [longest c rfl]

theorem scan_named_char {c : Char} (word : InName c) (name s : List Char) :
    scan (.named name) (c :: s) = scan (.named (c :: name)) s := by
  simp [word]

theorem scan_inBraces_char {c : Char} (inside : c ≠ '}') (name s : List Char) :
    scan (.inBraces name) (c :: s) = scan (.inBraces (c :: name)) s := by
  simp [inside]

theorem scan_inBraces_close (name s : List Char) :
    scan (.inBraces name) ('}' :: s) = .braced name.reverse :: scan .plain s := rfl

theorem divides_scan (mode : Mode) (sound : mode.Sound) (s : List Char) :
    Divides (mode.pending ++ s) (scan mode s) := by
  induction s generalizing mode with
  | nil =>
    cases mode with
    | plain => exact .nil
    | dollar => exact .dollar (by simp) .nil
    | named name =>
      have word : Divides ('$' :: (name.reverse ++ [])) [.reference name.reverse] :=
        .reference (by simpa using sound.1) (fun c mem => sound.2 c (List.mem_reverse.1 mem)) (by simp) .nil
      exact word
    | inBraces name =>
      rw [List.append_nil]
      exact .cutOff (mt List.mem_reverse.1 sound)
  | cons c s ih =>
    -- what stands before a character that ends a name or that no name follows is a segment of its own
    have plainly : Divides (c :: s) (scan .plain (c :: s)) := by
      by_cases dollar : c = '$'
      · subst c
        exact ih .dollar trivial
      · rw [scan_plain dollar]
        exact .char dollar (ih .plain trivial)
    cases mode with
    | plain => exact plainly
    | dollar =>
      by_cases brace : c = '{'
      · subst c
        exact ih (.inBraces []) List.not_mem_nil
      by_cases word : InName c
      · have started : scan .dollar (c :: s) = scan (.named [c]) s := by simp [brace, word]
        rw [started]
        exact ih (.named [c]) ⟨by simp, by simpa using word⟩
      · have alone : ∀ d ∈ (c :: s).head?, d ≠ '{' ∧ ¬ InName d := by simpa using ⟨brace, word⟩
        rw [scan_dollar alone]
        exact .dollar alone plainly
    | named name =>
      by_cases word : InName c
      · have more := ih (.named (c :: name)) ⟨by simp, by simpa [word] using sound.2⟩
        rw [scan_named_char word]
        simpa [Mode.pending] using more
      · have longest : ∀ d ∈ (c :: s).head?, ¬ InName d := by simpa using word
        rw [scan_named_end longest]
        exact .reference (by simpa using sound.1) (fun d mem => sound.2 d (List.mem_reverse.1 mem)) longest plainly
    | inBraces name =>
      by_cases brace : c = '}'
      · subst c
        rw [scan_inBraces_close]
        exact .closed (mt List.mem_reverse.1 sound) (ih .plain trivial)
      · have more := ih (.inBraces (c :: name)) (List.not_mem_cons_of_ne_of_not_mem (Ne.symm brace) sound)
        rw [scan_inBraces_char brace]
        simpa [Mode.pending] using more

theorem scan_named {name s : List Char} (word : ∀ c ∈ name, InName c) (longest : ∀ c ∈ s.head?, ¬ InName c)
    (read : List Char) : scan (.named read) (name ++ s) = .reference (read.reverse ++ name) :: scan .plain s := by
  induction name generalizing read with
  | nil => simpa using scan_named_end longest
  | cons c name ih =>
    obtain ⟨first, others⟩ := List.forall_mem_cons.1 word
    rw [List.cons_append, scan_named_char first, ih others]
    simp

theorem scan_inBraces {name s : List Char} (inside : '}' ∉ name) (read : List Char) :
    scan (.inBraces read) (name ++ s) = scan (.inBraces (name.reverse ++ read)) s := by
  induction name generalizing read with
  | nil => rfl
  | cons c name ih =>
    obtain ⟨first, others⟩ := not_or.1 (mt List.mem_cons.2 inside)
    rw [List.cons_append, scan_inBraces_char (Ne.symm first), ih others]
    simp

theorem Divides.eq_scan {s : List Char} {segments : List Segment} (h : Divides s segments) :
    segments = scan .plain s := by
  induction h with
  | nil => rfl
  | char plain _ ih => rw [scan_plain plain, ih]
  | dollar alone _ ih => rw [scan_plain_dollar, scan_dollar alone, ih]
  | @reference name s _ named word longest _ ih =>
    obtain ⟨c, name, rfl⟩ := List.exists_cons_of_ne_nil named
    obtain ⟨first, others⟩ := List.forall_mem_cons.1 word
    have unbraced : c ≠ '{' := by
      rintro rfl
      exact absurd first (by decide)
    have started : scan .dollar (c :: (name ++ s)) = scan (.named [c]) (name ++ s) := by
      simp [unbraced, first]
    rw [scan_plain_dollar, List.cons_append, started, scan_named others longest, ih]
    rfl
  | closed inside _ ih =>
    rw [scan_plain_dollar]
    change _ = scan (.inBraces []) _
    rw [scan_inBraces inside, scan_inBraces_close, ih]
    simp
  | cutOff inside =>
    rw [scan_plain_dollar]
    change _ = scan (.inBraces []) _
    have whole := scan_inBraces (s := []) inside []
    rw [List.append_nil] at whole
    rw [whole]
    simp [Mode.finish]

theorem divides_iff {s : String} {segments : List Segment} :
    Divides s.toList segments ↔ segments = Segment.ofText s :=
  ⟨Divides.eq_scan, fun same => same ▸ divides_scan .plain trivial s.toList⟩

def variableName? : Segment → Option String
  | char _ | braced [] => none
  | reference name | braced name => some (String.ofList name)

/-- Why a segment of a text cannot be replaced. -/
def offence? (env : Environment) (text : String) : Segment → Option SettingsError
  | char _ => none
  | braced [] => some (.invalid ("empty variable reference in " ++ Text.escaped text))
  | reference name | braced name =>
    if (env (String.ofList name)).isSome then none else some (.missingVariable (String.ofList name))

def replaced (env : Environment) : Segment → String
  | char c => String.singleton c
  | braced [] => ""
  | reference name | braced name => (env (String.ofList name)).getD ""

variable {env : Environment} {text : String}

theorem value_eq (p : Segment) : value env text p = (p.offence? env text).elim (.ok (p.replaced env)) .error := by
  match p with
  | char _ | braced [] => rfl
  | reference name | braced (_ :: _) =>
    simp only [value, offence?, replaced]
    cases env (String.ofList _) <;> rfl

theorem offence?_eq_none_iff (env : Environment) (text : String) {p : Segment} :
    p.offence? env text = none ↔ p ≠ .braced [] ∧ ∀ name ∈ p.variableName?, (env name).isSome := by
  match p with
  | char _ | braced [] | reference name | braced (_ :: _) => simp [offence?, variableName?, Option.isSome_iff_ne_none]

/-- The first segment that cannot be replaced ends the replacement. -/
theorem mapM_value (segments : List Segment) :
    segments.mapM (value env text) =
      (segments.findSome? (offence? env text)).elim (.ok (segments.map (replaced env))) .error := by
  induction segments with
  | nil => rfl
  | cons p segments ih =>
    rw [List.mapM_cons, value_eq, ih, List.findSome?_cons]
    cases p.offence? env text with
    | some e => rfl
    | none => cases segments.findSome? (offence? env text) <;> rfl

theorem expand_eq (env : Environment) (text : String) :
    expand env text = ((ofText text).findSome? (offence? env text)).elim
      (.ok (String.join ((ofText text).map (replaced env)))) .error := by
  rw [expand, mapM_value]
  cases (ofText text).findSome? (offence? env text) <;> rfl

/-- Only the variables that a segment refers to decide what becomes of it. -/
theorem offence?_congr (text : String) {other : Environment} {p : Segment}
    (same : ∀ name ∈ p.variableName?, env name = other name) :
    p.offence? env text = p.offence? other text ∧ p.replaced env = p.replaced other := by
  match p with
  | char _ | braced [] => exact ⟨rfl, rfl⟩
  | reference name | braced (_ :: _) =>
    have same := same _ rfl
    simp only [offence?, replaced, same, and_self]

end Segment

open Segment

/-- A text divides into segments in one way. It expands exactly if no braces in it are empty and all variables that
it refers to have values, and then to the segments with the values in place of the references; otherwise the first
segment that cannot be replaced is the error. Variables to which nothing refers do not matter. -/
theorem expand_iff (text : String) :
    ∃ segments, (∀ others, Divides text.toList others ↔ others = segments) ∧
      ∀ env : Environment,
        ((∃ r, expand env text = .ok r) ↔
          ∀ p ∈ segments, p ≠ .braced [] ∧ ∀ name ∈ p.variableName?, (env name).isSome) ∧
        (∀ r, expand env text = .ok r → r = String.join (segments.map (replaced env))) ∧
        (∀ e, expand env text = .error e ↔ ∃ before p after, segments = before ++ p :: after ∧
          p.offence? env text = some e ∧ ∀ q ∈ before, q.offence? env text = none) ∧
        ∀ other : Environment, (∀ p ∈ segments, ∀ name ∈ p.variableName?, env name = other name) →
          expand env text = expand other text := by
  refine ⟨ofText text, fun others => divides_iff, fun env => ⟨?_, fun r done => ?_, fun e => ?_, fun other same => ?_⟩⟩
  · simp only [← offence?_eq_none_iff env text, ← List.findSome?_eq_none_iff]
    rw [expand_eq]
    cases (ofText text).findSome? (offence? env text) <;> simp
  · rw [expand_eq] at done
    cases found : (ofText text).findSome? (offence? env text) with
    | some e =>
      rw [found] at done
      cases done
    | none =>
      rw [found] at done
      exact (Except.ok.inj done).symm
  · rw [← List.findSome?_eq_some_iff, expand_eq]
    cases (ofText text).findSome? (offence? env text) <;> simp
  · have offences : (ofText text).findSome? (offence? env text) = (ofText text).findSome? (offence? other text) := by
      rw [← List.head?_filterMap, ← List.head?_filterMap,
        List.filterMap_congr fun p mem => (offence?_congr text (same p mem)).1]
    have texts : (ofText text).map (replaced env) = (ofText text).map (replaced other) :=
      List.map_congr_left fun p mem => (offence?_congr text (same p mem)).2
    rw [expand_eq, expand_eq, offences, texts]

def directory : Environment := fun name =>
  if name = "DIR_1" then some "$FILE" else if name = "FILE" then some "a" else none

/-- The name goes on up to the slash, its value is not looked through for references, and the last dollar sign is
plain. -/
theorem directory_expanded :
    Divides "$DIR_1/${FILE}$".toList
        [.reference ['D', 'I', 'R', '_', '1'], .char '/', .braced ['F', 'I', 'L', 'E'], .char '$'] ∧
      expand directory "$DIR_1/${FILE}$" = .ok "$FILE/a$" := by
  have division : Divides "$DIR_1/${FILE}$".toList
      [.reference ['D', 'I', 'R', '_', '1'], .char '/', .braced ['F', 'I', 'L', 'E'], .char '$'] := by
    have word : ∀ c ∈ ['D', 'I', 'R', '_', '1'], InName c := fun c mem =>
      isNameChar_iff.1 (List.all_eq_true.1 (by decide : ['D', 'I', 'R', '_', '1'].all isNameChar) c mem)
    refine .reference (List.cons_ne_nil _ _) word (fun c slash => ?_) ?_
    · cases slash
      decide
    · exact .char (by decide) (@Divides.closed ['F', 'I', 'L', 'E'] _ _ (by decide) (.dollar nofun .nil))
  obtain ⟨segments, one, expands⟩ := expand_iff "$DIR_1/${FILE}$"
  obtain rfl := (one _).1 division
  obtain ⟨succeeds, text, -⟩ := expands directory
  obtain ⟨r, done⟩ := succeeds.2 (by decide)
  obtain rfl := text r done
  exact ⟨division, done⟩

end QueryBridge
