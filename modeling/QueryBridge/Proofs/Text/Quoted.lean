import QueryBridge.Text.Quoted

set_option autoImplicit false

namespace QueryBridge.Text

section

variable {q : Char} {s part rest : List Char}

theorem unquoteBody_doubled (apart : rest.head? ≠ some q) :
    unquoteBody q (doubled q s ++ q :: rest) = some (s, rest) := by
  induction s with
  | nil =>
    cases rest with
    | nil => simp [doubled, unquoteBody]
    | cons d rest =>
      have other : d ≠ q := by simpa using apart
      simp [doubled, unquoteBody, other]
  | cons c s ih =>
    by_cases same : c = q
    · subst same
      simp [doubled, unquoteBody, ih]
    · -- the reader looks one character ahead, and there always is one
      obtain ⟨d, ahead, next⟩ := List.exists_cons_of_ne_nil (l := doubled q s ++ q :: rest) (by simp)
      rw [doubled, if_neg same, List.cons_append, next, unquoteBody, if_neg same, ← next, ih]
      rfl

theorem doubled_of_unquoteBody (read : unquoteBody q s = some (part, rest)) :
    s = doubled q part ++ q :: rest ∧ rest.head? ≠ some q := by
  fun_induction unquoteBody q s generalizing part with
  | case1 => cases read
  | case2 => cases read; simp [doubled]
  | case3 => cases read
  | case4 ahead ih =>
    obtain ⟨r, inner, e⟩ := Option.map_eq_some_iff.1 read
    cases e
    obtain ⟨split, apart⟩ := ih inner
    exact ⟨by simpa [doubled] using split, apart⟩
  | case5 d ahead other => cases read; simp [doubled, other]
  | case6 c d ahead other ih =>
    obtain ⟨r, inner, e⟩ := Option.map_eq_some_iff.1 read
    cases e
    obtain ⟨split, apart⟩ := ih inner
    exact ⟨by simpa [doubled, other] using split, apart⟩

theorem unquote_eq_some_iff :
    unquote q s = some (part, rest) ↔ s = quoteChars q part ++ rest ∧ rest.head? ≠ some q := by
  constructor
  · intro read
    unfold unquote at read
    split at read
    · split at read
      · rename_i c body opened
        obtain ⟨split, apart⟩ := doubled_of_unquoteBody read
        exact ⟨by simp [quoteChars, opened, split], apart⟩
      · cases read
    · cases read
  · rintro ⟨rfl, apart⟩
    rw [quoteChars, List.cons_append, List.cons_append, unquote, if_pos rfl, List.append_assoc]
    exact unquoteBody_doubled apart

theorem unquote_quoteChars (apart : rest.head? ≠ some q) : unquote q (quoteChars q s ++ rest) = some (s, rest) :=
  unquote_eq_some_iff.2 ⟨rfl, apart⟩

theorem unquote_length_lt (read : unquote q s = some (part, rest)) : rest.length < s.length := by
  rw [(unquote_eq_some_iff.1 read).1, quoteChars, List.length_append, List.length_append, List.length_cons]
  omega

theorem length_doubled : (doubled q s).length = s.length + s.count q := by
  induction s with
  | nil => rfl
  | cons c s ih =>
    rw [doubled, List.count_cons]
    split
    · subst c
      simp only [List.length_cons, ih, beq_self_eq_true, if_true]
      omega
    · rename_i other
      simp only [List.length_cons, ih, beq_eq_false_iff_ne.2 other, Bool.false_eq_true, if_false]
      omega

theorem doubled_eq_self_iff : doubled q s = s ↔ q ∉ s := by
  constructor
  · intro same
    have length := congrArg List.length same
    rw [length_doubled] at length
    exact List.count_eq_zero.1 (by omega)
  · intro free
    induction s with
    | nil => rfl
    | cons c s ih =>
      obtain ⟨other, free⟩ := not_or.1 (mt List.mem_cons.2 free)
      rw [doubled, if_neg (Ne.symm other), ih free]

end

/-- The quoted parts at the front of an input, a dot between each two, and what follows them. -/
def unquotePath (q : Char) (s : List Char) : Option (List String × List Char) :=
  match _h : unquote q s with
  | some (part, '.' :: rest) => (unquotePath q rest).map fun r => (String.ofList part :: r.1, r.2)
  | some (part, rest) => some ([String.ofList part], rest)
  | none => none
  termination_by s.length
  decreasing_by exact Nat.lt_of_succ_lt (unquote_length_lt _h)

section

variable {q : Char} {s part rest : List Char}

theorem unquotePath_dot (read : unquote q s = some (part, '.' :: rest)) :
    unquotePath q s = (unquotePath q rest).map fun r => (String.ofList part :: r.1, r.2) := by
  rw [unquotePath.eq_def]
  split
  · rename_i dotted
    cases read.symm.trans dotted
    rfl
  · rename_i undotted last
    cases read.symm.trans last
    exact (undotted rest rfl).elim
  · rename_i unread
    cases read.symm.trans unread

theorem unquotePath_last (read : unquote q s = some (part, rest)) (last : rest.head? ≠ some '.') :
    unquotePath q s = some ([String.ofList part], rest) := by
  rw [unquotePath.eq_def]
  split
  · rename_i dotted
    cases read.symm.trans dotted
    exact absurd rfl last
  · rename_i single
    cases read.symm.trans single
    rfl
  · rename_i unread
    cases read.symm.trans unread

theorem unquotePath_quoted (undotted : q ≠ '.') {names : List String} (named : names ≠ [])
    (unquoted : rest.head? ≠ some q) (last : rest.head? ≠ some '.') :
    unquotePath q ((".".intercalate (names.map (quote q))).toList ++ rest) = some (names, rest) := by
  induction names with
  | nil => exact absurd rfl named
  | cons name names ih =>
    cases names with
    | nil =>
      have read : unquote q (quoteChars q name.toList ++ rest) = some (name.toList, rest) := unquote_quoteChars unquoted
      simpa [quote] using unquotePath_last read last
    | cons next names =>
      have read (t : List Char) : unquote q (quoteChars q name.toList ++ '.' :: t) = some (name.toList, '.' :: t) :=
        unquote_quoteChars (by simpa using undotted.symm)
      have layout : (".".intercalate ((name :: next :: names).map (quote q))).toList ++ rest =
          quoteChars q name.toList ++ '.' :: ((".".intercalate ((next :: names).map (quote q))).toList ++ rest) := by
        simp [String.intercalate_cons_cons, String.toList_append, quote]
      rw [layout, unquotePath_dot (read _), ih (by simp)]
      simp

end

end QueryBridge.Text
