import QueryBridge.Json.Decode

set_option autoImplicit false

namespace QueryBridge.Json

theorem hexValue?_hexDigit : ∀ n < 16, hexValue? (hexDigit n) = some n := by decide

theorem escapeChar_cases (c : Char) :
    (∃ d, escapeChar c = ['\\', d] ∧ d ≠ 'u' ∧ shortEscapes.lookup d = some c) ∨
    (c.toNat < 32 ∧ escapeChar c = ['\\', 'u', '0', '0', hexDigit (c.toNat / 16), hexDigit (c.toNat % 16)]) ∨
    (32 ≤ c.toNat ∧ c ≠ '"' ∧ c ≠ '\\' ∧ escapeChar c = [c]) := by
  unfold escapeChar
  split
  case h_8 =>
    split
    · exact .inr (.inl ⟨‹_›, rfl⟩)
    · exact .inr (.inr ⟨by omega, ‹_›, ‹_›, rfl⟩)
  all_goals exact .inl ⟨_, rfl, by decide, rfl⟩

theorem readPieces_plain {c : Char} (high : 32 ≤ c.toNat) (quote : c ≠ '"') (backslash : c ≠ '\\') (fuel : Nat)
    (s : List Char) : readPieces (fuel + 1) (c :: s) = (readPieces fuel s).map fun r => (.char c :: r.1, r.2) := by
  have low : ¬ c.toNat < 32 := by omega
  cases next : readPieces fuel s <;>
    simp [readPieces, quote, backslash, low, next, Except.map, bind, Except.bind, pure, Except.pure]

theorem readPieces_escape {s s' : List Char} {p : Piece} (read : readEscape s = .ok (p, s')) (fuel : Nat) :
    readPieces (fuel + 1) ('\\' :: s) = (readPieces fuel s').map fun r => (p :: r.1, r.2) := by
  cases next : readPieces fuel s' <;>
    simp [readPieces, read, next, Except.map, bind, Except.bind, pure, Except.pure]

theorem readEscape_number {c : Char} (low : c.toNat < 32) (s : List Char) :
    readEscape ('u' :: '0' :: '0' :: hexDigit (c.toNat / 16) :: hexDigit (c.toNat % 16) :: s) = .ok (.char c, s) := by
  have first := hexValue?_hexDigit (c.toNat / 16) (by omega)
  have second := hexValue?_hexDigit (c.toNat % 16) (by omega)
  have zero : hexValue? '0' = some 0 := rfl
  have number : ((0 * 16 + 0) * 16 + c.toNat / 16) * 16 + c.toNat % 16 = c.toNat := by omega
  have whole : pieceOfUnit c.toNat = .char c := by
    have plain : (isHigh c.toNat || isLow c.toNat) = false := by
      simp only [isHigh, isLow, Bool.or_eq_false_iff, Bool.and_eq_false_iff, decide_eq_false_iff_not]
      omega
    rw [pieceOfUnit, plain, if_neg Bool.false_ne_true, Char.ofNat_toNat]
  rw [readEscape, if_pos rfl, readUnit]
  simp only [zero, first, second, number, Except.map, whole]

theorem readPieces_escapeChar (c : Char) (fuel : Nat) (s : List Char) :
    readPieces (fuel + 1) (escapeChar c ++ s) = (readPieces fuel s).map fun r => (.char c :: r.1, r.2) := by
  rcases escapeChar_cases c with ⟨d, written, other, known⟩ | ⟨low, written⟩ | ⟨high, quote, backslash, written⟩
  · have read : readEscape (d :: s) = .ok (.char c, s) := by rw [readEscape, if_neg other, known]
    rw [written]
    exact readPieces_escape read fuel
  · rw [written]
    exact readPieces_escape (readEscape_number low s) fuel
  · rw [written]
    exact readPieces_plain high quote backslash fuel s

theorem readPieces_escaped (cs rest : List Char) {fuel : Nat} (enough : cs.length < fuel) :
    readPieces fuel (cs.flatMap escapeChar ++ '"' :: rest) = .ok (cs.map .char, rest) := by
  induction cs generalizing fuel with
  | nil =>
    obtain ⟨fuel, rfl⟩ := Nat.exists_eq_add_of_lt enough
    rw [List.flatMap_nil, List.nil_append, List.length_nil, Nat.zero_add, readPieces, if_pos rfl, List.map_nil]
  | cons c cs ih =>
    obtain ⟨fuel, rfl⟩ : ∃ n, fuel = n + 1 := ⟨fuel - 1, by omega⟩
    rw [List.flatMap_cons, List.append_assoc, readPieces_escapeChar, ih (by simpa using enough)]
    rfl

theorem assemble?_chars (cs : List Char) : assemble? (cs.map .char) = some cs := by
  induction cs with
  | nil => rfl
  | cons c cs ih => rw [List.map_cons, assemble?, ih, Option.map_some]

theorem length_le_escaped (cs : List Char) : cs.length ≤ (cs.flatMap escapeChar).length := by
  induction cs with
  | nil => exact Nat.le_refl 0
  | cons c cs ih =>
    have nonempty : 1 ≤ (escapeChar c).length := by
      rcases escapeChar_cases c with ⟨d, written, -⟩ | ⟨-, written⟩ | ⟨-, -, -, written⟩ <;> simp [written]
    simp only [List.flatMap_cons, List.length_append, List.length_cons]
    omega

theorem readString_written (s : String) (rest : List Char) :
    readString (s.toList.flatMap escapeChar ++ '"' :: rest) = (.string s, some rest) := by
  have enough : s.toList.length < (s.toList.flatMap escapeChar ++ '"' :: rest).length := by
    have long := length_le_escaped s.toList
    simp only [List.length_append, List.length_cons]
    omega
  rw [readString, readPieces_escaped s.toList rest enough]
  simp only [assemble?_chars, Option.map_some, Option.getD_some, String.ofList_toList]

/-- A document of strings, truth values, lists and records without fault. -/
inductive Worded : Json → Prop
  | bool (b : Bool) : Worded (.bool b)
  | string (s : String) : Worded (.string s)
  | list {items : List Json} (parts : ∀ j ∈ items, Worded j) : Worded (list items)
  | record {members : List (String × Json)} (parts : ∀ m ∈ members, Worded m.2) : Worded (record members)

def line (j : Json) : List Char := (render j).toList

def memberLine (m : String × Json) : List Char := line (.string m.1) ++ ':' :: line m.2

def behind (parts : List (List Char)) : List Char := parts.flatMap (',' :: ·)

def parted : List (List Char) → List Char
  | [] => []
  | first :: rest => first ++ behind rest

theorem toList_intercalate (ts : List String) : (",".intercalate ts).toList = parted (ts.map String.toList) := by
  induction ts with
  | nil => rfl
  | cons t ts ih =>
    cases ts with
    | nil => simp [parted, behind]
    | cons u ts =>
      rw [String.intercalate_cons_cons, String.toList_append, String.toList_append, ih]
      simp [parted, behind]

theorem renderItems_eq (items : List Json) : renderItems items = items.map render := by
  induction items with
  | nil => rfl
  | cons j items ih => rw [renderItems, ih, List.map_cons]

theorem renderMembers_eq (members : List (Json × Json)) :
    renderMembers members = members.map fun m => render m.1 ++ ":" ++ render m.2 := by
  induction members with
  | nil => rfl
  | cons m members ih => rw [renderMembers, ih, List.map_cons]

theorem line_string (s : String) : line (.string s) = '"' :: (s.toList.flatMap escapeChar ++ ['"']) := by
  rw [line, render, stringText, String.toList_ofList, List.cons_append]

theorem line_list (items : List Json) : line (list items) = '[' :: (parted (items.map line) ++ [']']) := by
  rw [line, list, render, String.toList_append, String.toList_append, toList_intercalate, renderItems_eq,
    List.map_map]
  rfl

theorem line_record (members : List (String × Json)) :
    line (record members) = '\x7b' :: (parted (members.map memberLine) ++ ['\x7d']) := by
  have same : ((members.map fun m => (Json.string m.1, m.2)).map fun m => render m.1 ++ ":" ++ render m.2).map
      String.toList = members.map memberLine := by
    simp [memberLine, line]
  rw [line, record, render, String.toList_append, String.toList_append, toList_intercalate, renderMembers_eq, same]
  rfl

/-- Given enough fuel the document is read from its text, and the rest is left. -/
def ReadBack (j : Json) : Prop :=
  ∀ fuel rest, 3 * (line j).length ≤ fuel → readValue fuel (line j ++ rest) = (j, some rest)

def Begins (s : List Char) : Prop := ∃ c cs, s = c :: cs ∧ isSpace c = false ∧ c ≠ ']' ∧ c ≠ '\x7d'

theorem skipSpace_cons {c : Char} (h : isSpace c = false) (s : List Char) : skipSpace (c :: s) = c :: s := by
  simp [skipSpace, h]

theorem begins_line {j : Json} (h : Worded j) : Begins (line j) := by
  cases h with
  | bool b => cases b <;> exact ⟨_, _, rfl, by decide, by decide, by decide⟩
  | string s => exact ⟨_, _, line_string s, by decide, by decide, by decide⟩
  | list parts => exact ⟨_, _, line_list _, by decide, by decide, by decide⟩
  | record parts => exact ⟨_, _, line_record _, by decide, by decide, by decide⟩

section

variable {fuel : Nat} {s rest : List Char} {items : List Json} {j : Json}

theorem readItems_end (isFirst : Bool) : readItems (fuel + 1) isFirst (']' :: rest) = ([], none, some rest) := by
  rw [readItems, skipSpace_cons (by decide)]
  exact if_pos rfl

theorem readItems_first (h : Begins s) : readItems (fuel + 1) true (s ++ rest) = nextItem fuel (s ++ rest) := by
  obtain ⟨c, cs, rfl, space, bracket, -⟩ := h
  rw [List.cons_append, readItems, skipSpace_cons space]
  simp only [if_neg bracket, if_true]

theorem readItems_comma (h : Begins s) :
    readItems (fuel + 1) false (',' :: (s ++ rest)) = nextItem fuel (s ++ rest) := by
  obtain ⟨c, cs, rfl, space, bracket, -⟩ := h
  rw [readItems, skipSpace_cons (by decide), List.cons_append]
  simp [skipSpace_cons space, bracket]

theorem nextItem_read (h : ReadBack j) (enough : 3 * (line j).length ≤ fuel) :
    nextItem (fuel + 1) (line j ++ rest)
      = (j :: (readItems fuel false rest).1, (readItems fuel false rest).2) := by
  rw [nextItem, h fuel rest enough]

theorem readItems_behind (h : ∀ j ∈ items, Begins (line j) ∧ ReadBack j) (rest : List Char) (fuel : Nat)
    (enough : 3 * (behind (items.map line)).length < fuel) :
    readItems fuel false (behind (items.map line) ++ ']' :: rest) = (items, none, some rest) := by
  induction items generalizing fuel with
  | nil =>
    obtain ⟨fuel, rfl⟩ : ∃ n, fuel = n + 1 := ⟨fuel - 1, by omega⟩
    exact readItems_end false
  | cons j items ih =>
    obtain ⟨⟨begins, read⟩, others⟩ := List.forall_mem_cons.1 h
    have parts : behind ((j :: items).map line) = ',' :: (line j ++ behind (items.map line)) := rfl
    rw [parts, List.length_cons, List.length_append] at enough
    obtain ⟨fuel, rfl⟩ : ∃ n, fuel = n + 2 := ⟨fuel - 2, by omega⟩
    rw [parts, List.cons_append, List.append_assoc, readItems_comma begins, nextItem_read read (by omega),
      ih others fuel (by omega)]

theorem readItems_parted (h : ∀ j ∈ items, Begins (line j) ∧ ReadBack j) (rest : List Char) (fuel : Nat)
    (enough : 3 * (parted (items.map line)).length + 2 < fuel) :
    readItems fuel true (parted (items.map line) ++ ']' :: rest) = (items, none, some rest) := by
  cases items with
  | nil =>
    obtain ⟨fuel, rfl⟩ : ∃ n, fuel = n + 1 := ⟨fuel - 1, by omega⟩
    exact readItems_end true
  | cons j items =>
    obtain ⟨⟨begins, read⟩, others⟩ := List.forall_mem_cons.1 h
    have parts : parted ((j :: items).map line) = line j ++ behind (items.map line) := rfl
    rw [parts, List.length_append] at enough
    obtain ⟨fuel, rfl⟩ : ∃ n, fuel = n + 2 := ⟨fuel - 2, by omega⟩
    rw [parts, List.append_assoc, readItems_first begins, nextItem_read read (by omega),
      readItems_behind others rest fuel (by omega)]

end

section

variable {fuel : Nat} {s rest : List Char} {members : List (String × Json)} {m : String × Json}

theorem readMembers_end (isFirst : Bool) :
    readMembers (fuel + 1) isFirst ('\x7d' :: rest) = ([], none, some rest) := by
  rw [readMembers, skipSpace_cons (by decide)]
  exact if_pos rfl

theorem readMembers_first (h : Begins s) :
    readMembers (fuel + 1) true (s ++ rest) = nextMember fuel (s ++ rest) := by
  obtain ⟨c, cs, rfl, space, -, brace⟩ := h
  rw [List.cons_append, readMembers, skipSpace_cons space]
  simp only [if_neg brace, if_true]

theorem readMembers_comma (h : Begins s) :
    readMembers (fuel + 1) false (',' :: (s ++ rest)) = nextMember fuel (s ++ rest) := by
  obtain ⟨c, cs, rfl, space, -, brace⟩ := h
  rw [readMembers, skipSpace_cons (by decide), List.cons_append]
  simp [skipSpace_cons space, brace]

theorem nextMember_read (key : ReadBack (.string m.1)) (value : ReadBack m.2)
    (enough : 3 * (memberLine m).length ≤ fuel) :
    nextMember (fuel + 1) (memberLine m ++ rest)
      = ((.string m.1, m.2) :: (readMembers fuel false rest).1, (readMembers fuel false rest).2) := by
  rw [memberLine, List.length_append, List.length_cons] at enough
  have quoted : (memberLine m ++ rest).head? = some '"' := by rw [memberLine, line_string]; rfl
  have shape : memberLine m ++ rest = line (.string m.1) ++ ':' :: (line m.2 ++ rest) := by simp [memberLine]
  rw [nextMember, quoted, shape, key fuel _ (by omega)]
  simp only [keyOf, skipSpace_cons (show isSpace ':' = false by decide), if_true, value fuel rest (by omega)]

theorem readMembers_behind (h : ∀ m ∈ members, Begins (memberLine m) ∧ ReadBack (.string m.1) ∧ ReadBack m.2)
    (rest : List Char) (fuel : Nat) (enough : 3 * (behind (members.map memberLine)).length < fuel) :
    readMembers fuel false (behind (members.map memberLine) ++ '\x7d' :: rest)
      = (members.map fun m => (.string m.1, m.2), none, some rest) := by
  induction members generalizing fuel with
  | nil =>
    obtain ⟨fuel, rfl⟩ : ∃ n, fuel = n + 1 := ⟨fuel - 1, by omega⟩
    exact readMembers_end false
  | cons m members ih =>
    obtain ⟨⟨begins, key, value⟩, others⟩ := List.forall_mem_cons.1 h
    have parts : behind ((m :: members).map memberLine)
      = ',' :: (memberLine m ++ behind (members.map memberLine)) := rfl
    rw [parts, List.length_cons, List.length_append] at enough
    obtain ⟨fuel, rfl⟩ : ∃ n, fuel = n + 2 := ⟨fuel - 2, by omega⟩
    rw [parts, List.cons_append, List.append_assoc, readMembers_comma begins,
      nextMember_read key value (by omega), ih others fuel (by omega), List.map_cons]

theorem readMembers_parted (h : ∀ m ∈ members, Begins (memberLine m) ∧ ReadBack (.string m.1) ∧ ReadBack m.2)
    (rest : List Char) (fuel : Nat) (enough : 3 * (parted (members.map memberLine)).length + 2 < fuel) :
    readMembers fuel true (parted (members.map memberLine) ++ '\x7d' :: rest)
      = (members.map fun m => (.string m.1, m.2), none, some rest) := by
  cases members with
  | nil =>
    obtain ⟨fuel, rfl⟩ : ∃ n, fuel = n + 1 := ⟨fuel - 1, by omega⟩
    exact readMembers_end true
  | cons m members =>
    obtain ⟨⟨begins, key, value⟩, others⟩ := List.forall_mem_cons.1 h
    have parts : parted ((m :: members).map memberLine) = memberLine m ++ behind (members.map memberLine) := rfl
    rw [parts, List.length_append] at enough
    obtain ⟨fuel, rfl⟩ : ∃ n, fuel = n + 2 := ⟨fuel - 2, by omega⟩
    rw [parts, List.append_assoc, readMembers_first begins, nextMember_read key value (by omega),
      readMembers_behind others rest fuel (by omega), List.map_cons]

end

theorem bool_readBack (b : Bool) : ReadBack (.bool b) := by
  intro fuel rest enough
  have long : 1 ≤ (line (.bool b)).length := by cases b <;> decide
  obtain ⟨fuel, rfl⟩ : ∃ n, fuel = n + 1 := ⟨fuel - 1, by omega⟩
  cases b <;> rfl

theorem string_readBack (s : String) : ReadBack (.string s) := by
  intro fuel rest enough
  rw [line_string] at enough ⊢
  obtain ⟨fuel, rfl⟩ : ∃ n, fuel = n + 1 := ⟨fuel - 1, by simp at enough; omega⟩
  rw [List.cons_append, List.append_assoc, readValue, skipSpace_cons (by decide)]
  exact readString_written s rest

theorem list_readBack {items : List Json} (h : ∀ j ∈ items, Begins (line j) ∧ ReadBack j) :
    ReadBack (list items) := by
  intro fuel rest enough
  rw [line_list] at enough ⊢
  obtain ⟨fuel, rfl⟩ : ∃ n, fuel = n + 1 := ⟨fuel - 1, by simp at enough; omega⟩
  have more : 3 * (parted (items.map line)).length + 2 < fuel := by simp at enough; omega
  rw [List.cons_append, List.append_assoc, readValue, skipSpace_cons (by decide)]
  simp only [if_true, List.singleton_append, readItems_parted h rest fuel more, list]

theorem record_readBack {members : List (String × Json)} (h : ∀ m ∈ members, ReadBack m.2) :
    ReadBack (record members) := by
  intro fuel rest enough
  rw [line_record] at enough ⊢
  obtain ⟨fuel, rfl⟩ : ∃ n, fuel = n + 1 := ⟨fuel - 1, by simp at enough; omega⟩
  have more : 3 * (parted (members.map memberLine)).length + 2 < fuel := by simp at enough; omega
  have parts : ∀ m ∈ members, Begins (memberLine m) ∧ ReadBack (.string m.1) ∧ ReadBack m.2 := fun m mem =>
    ⟨⟨_, _, by rw [memberLine, line_string]; rfl, by decide, by decide, by decide⟩, string_readBack m.1, h m mem⟩
  rw [List.cons_append, List.append_assoc, readValue, skipSpace_cons (by decide)]
  simp only [List.singleton_append, readMembers_parted parts rest fuel more, record]
  rfl

theorem Worded.readBack {j : Json} (h : Worded j) : ReadBack j := by
  induction h with
  | bool b => exact bool_readBack b
  | string s => exact string_readBack s
  | list parts ih => exact list_readBack fun j mem => ⟨begins_line (parts j mem), ih j mem⟩
  | record parts ih => exact record_readBack ih

theorem parse_render {j : Json} (h : Worded j) : parse (render j) = (j, false) := by
  have read := h.readBack (3 * (line j).length + 3) [] (Nat.le_add_right _ _)
  rw [List.append_nil] at read
  rw [parse, ← line, read]
  rfl

theorem decodeText_render {α : Type} {j : Json} (h : Worded j) (decode : Json → Decoded α) :
    decodeText decode (render j) = decode j := by
  rw [decodeText, parse_render h]
  change (decode j >>= fun x => if false = true then malformed else pure x) = decode j
  cases decode j <;> rfl

end QueryBridge.Json
