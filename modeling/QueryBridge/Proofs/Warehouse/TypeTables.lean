import Mathlib.Data.List.Infix
import QueryBridge.Proofs.Text.LetterCase
import QueryBridge.Warehouse.TypeTable

set_option autoImplicit false

namespace QueryBridge

open Text

namespace TypeTable

theorem lookup_map {α β γ : Type} [BEq β] [LawfulBEq β] (f : α → β) (g : α → γ) (l : List α) (k : β) :
    (l.map fun a => (f a, g a)).lookup k = (l.find? fun a => f a == k).map g := by
  induction l with
  | nil => rfl
  | cons a l ih =>
    rw [List.map_cons, List.lookup_cons, List.find?_cons, ih, BEq.comm]
    cases f a == k <;> rfl

theorem types_foldl (entries : List (String × Scalar)) (i : Index) :
    (entries.foldl Index.add i).types = (entries.map fun e => (upper e.1, e.2)).reverse ++ i.types := by
  induction entries generalizing i with
  | nil => rfl
  | cons e entries ih =>
    rw [List.foldl_cons, ih, Index.add]
    simp

theorem lookup_types (entries : List (String × Scalar)) (key : String) :
    (index entries).types.lookup key = (entries.reverse.find? fun e => upper e.1 == key).map (·.2) := by
  rw [index, types_foldl, List.append_nil, ← List.map_reverse, lookup_map]

theorem lookup_names_add (i : Index) (e : String × Scalar) (c : Scalar) :
    (i.add e).names.lookup c = (i.names.lookup c).or (if e.2 = c then some e.1 else none) := by
  rw [Index.add]
  by_cases same : e.2 = c
  · subst same
    cases known : i.names.lookup e.2 with
    | none => simp
    | some name => simp [known]
  · have other : (c == e.2) = false := by simpa using Ne.symm same
    split <;> simp [List.lookup_cons, other]

theorem lookup_names_foldl (entries : List (String × Scalar)) (i : Index) (c : Scalar) :
    (entries.foldl Index.add i).names.lookup c =
      (i.names.lookup c).or ((entries.find? fun e => e.2 = c).map (·.1)) := by
  induction entries generalizing i with
  | nil => simp
  | cons e entries ih =>
    rw [List.foldl_cons, ih, lookup_names_add, Option.or_assoc, List.find?_cons]
    by_cases same : e.2 = c <;> simp [same]

theorem native?_eq (t : TypeTable) (c : Scalar) : t.native? c = (t.entries.find? fun e => e.2 = c).map (·.1) := by
  rw [native?, index, lookup_names_foldl]
  rfl

theorem scalar?_eq (t : TypeTable) (name : String) :
    t.scalar? name =
      ((t.entries.reverse.find? fun e => upper e.1 == key name).map (·.2)).or (t.fallback (key name)) := by
  rw [scalar?, lookup_types]

theorem key_eq (name : String) : key name = String.ofList (upperChars (trimChars name.toList)) := by
  rw [key, trim, upper, String.toList_ofList]

theorem key_surround {before after : String} (front : ∀ c ∈ before.toList, isBlank c)
    (behind : ∀ c ∈ after.toList, isBlank c) (name : String) : key (before ++ name ++ after) = key name := by
  rw [key_eq, key_eq, String.toList_append, String.toList_append, trimChars_surround front behind]

theorem key_of_eqIgnoringAsciiCase {v name : String} (same : eqIgnoringAsciiCase v name) : key v = key name := by
  have lowered : v.toList.map Char.toLower = name.toList.map Char.toLower := by
    simpa [eqIgnoringAsciiCase] using same
  rw [key_eq, key_eq, ← upperChars_map_toLower (trimChars v.toList), ← trimChars_map_toLower, lowered,
    trimChars_map_toLower, upperChars_map_toLower]

theorem key_of_trimmed {name : String} (trimmed : Trimmed name.toList) : key name = upper name := by
  rw [key_eq, trimmed.eq, upper]

/-- Entries that differ in the letter case of their names only have one type. -/
def Consistent (entries : List (String × Scalar)) : Prop :=
  ∀ e ∈ entries, ∀ e' ∈ entries, upper e.1 = upper e'.1 → e.2 = e'.2

instance (entries : List (String × Scalar)) : Decidable (Consistent entries) :=
  inferInstanceAs (Decidable (∀ _ ∈ _, _))

theorem scalar?_of_mem {t : TypeTable} (consistent : Consistent t.entries) {name : String} {c : Scalar}
    (mem : (name, c) ∈ t.entries) (trimmed : Trimmed name.toList) : t.scalar? name = some c := by
  rw [scalar?_eq, key_of_trimmed trimmed]
  cases found : t.entries.reverse.find? fun e => upper e.1 == upper name with
  | none =>
    have none := List.find?_eq_none.1 found _ (List.mem_reverse.2 mem)
    simp at none
  | some e =>
    have same : upper e.1 = upper name := by simpa using List.find?_some found
    have within : e ∈ t.entries := List.mem_reverse.1 (List.mem_of_find?_eq_some found)
    rw [Option.map_some, consistent e within _ mem same, Option.some_or]

theorem mem_of_native? {t : TypeTable} {c : Scalar} {name : String} (found : t.native? c = some name) :
    (name, c) ∈ t.entries := by
  rw [native?_eq, Option.map_eq_some_iff] at found
  obtain ⟨e, found, rfl⟩ := found
  have type : e.2 = c := by simpa using List.find?_some found
  exact type ▸ List.mem_of_find?_eq_some found

theorem scalar?_of_native? {t : TypeTable} (consistent : Consistent t.entries)
    (trimmed : ∀ e ∈ t.entries, Trimmed e.1.toList) {c : Scalar} {name v before after : String}
    (found : t.native? c = some name) (same : eqIgnoringAsciiCase v name) (front : ∀ c ∈ before.toList, isBlank c)
    (behind : ∀ c ∈ after.toList, isBlank c) : t.scalar? (before ++ v ++ after) = some c := by
  have mem := mem_of_native? found
  have read : t.scalar? name = some c := scalar?_of_mem consistent mem (trimmed _ mem)
  have key : key (before ++ v ++ after) = key name := by
    rw [key_surround front behind, key_of_eqIgnoringAsciiCase same]
  rw [scalar?, key]
  exact read

/-- The table answers as its entries do. A type is written with the first name listed for it. A name stands for the
type of the last entry with that name, in upper case and without the blanks around it, and without entry for what the
fallback says of it. If the entries are consistent and their names trimmed, the name that is written for a type
stands for it, in whichever letters and with whichever blanks around it. -/
theorem lookups_refine_entries (t : TypeTable) :
    (∀ c, t.native? c = (t.entries.find? fun e => e.2 = c).map (·.1)) ∧
    (∀ name, t.scalar? name =
      ((t.entries.reverse.find? fun e => upper e.1 == upper (trim name)).map (·.2)).or
        (t.fallback (upper (trim name)))) ∧
    (Consistent t.entries → (∀ e ∈ t.entries, Trimmed e.1.toList) → ∀ c name, t.native? c = some name →
      ∀ before v after, (∀ c ∈ before.toList, isBlank c) → eqIgnoringAsciiCase v name →
        (∀ c ∈ after.toList, isBlank c) → t.scalar? (before ++ v ++ after) = some c) := by
  refine ⟨t.native?_eq, t.scalar?_eq, fun consistent trimmed c name found before v after front same behind => ?_⟩
  exact scalar?_of_native? consistent trimmed found same front behind

/-- Every backend reads the names that it writes. -/
theorem backend_names_read_back (b : Backend) {c : Scalar} {name : String} (found : b.types.native? c = some name) :
    b.types.scalar? name = some c := by
  have consistent : Consistent b.types.entries := by cases b <;> decide +kernel
  have trimmed : ∀ e ∈ b.types.entries, Trimmed e.1.toList := by cases b <;> decide +kernel
  have mem := mem_of_native? found
  exact scalar?_of_mem consistent mem (trimmed _ mem)

theorem dropBlanks_append_cons {b : Char} (solid : isBlank b = false) (s t : List Char) :
    (s ++ b :: t).dropWhile isBlank = s.dropWhile isBlank ++ b :: t := by
  rw [List.dropWhile_append]
  split
  · rename_i empty
    rw [List.isEmpty_iff.1 empty, List.dropWhile_cons_of_neg (by simp [solid]), List.nil_append]
  · rfl

theorem trimChars_append_cons {b : Char} (solid : isBlank b = false) (s t : List Char) :
    trimChars (s ++ b :: t) = trimStart s ++ b :: trimEnd t := by
  rw [trimChars, trimStart, dropBlanks_append_cons solid, trimEnd, List.reverse_append, List.reverse_cons,
    List.append_assoc, List.singleton_append, dropBlanks_append_cons solid]
  simp [trimEnd, trimStart]

/-- Up to a first parenthesis, trimming takes off blanks at the front, and at the end only if there is none. -/
theorem takeWhile_trimChars (s : List Char) :
    (trimChars s).takeWhile (· != '(') = trimStart (s.takeWhile (· != '(')) ∨
      (trimChars s).takeWhile (· != '(') = trimChars (s.takeWhile (· != '(')) := by
  have whole {l : List Char} (free : '(' ∉ l) : ∀ c ∈ l, (c != '(') = true := fun c mem => by
    have other : c ≠ '(' := fun same => free (same ▸ mem)
    simpa using other
  by_cases mem : '(' ∈ s
  · left
    obtain ⟨p, r, rfl, free⟩ := List.eq_append_cons_of_mem mem
    have freeStart : '(' ∉ trimStart p := fun mem => free ((List.dropWhile_sublist _).subset mem)
    rw [trimChars_append_cons (by decide), List.takeWhile_append_of_pos (whole freeStart),
      List.takeWhile_append_of_pos (whole free)]
    simp
  · right
    have freeTrimmed : '(' ∉ trimChars s := fun mem' => mem (trimChars_subset s mem')
    rw [List.takeWhile_eq_self_iff.2 (whole freeTrimmed), List.takeWhile_eq_self_iff.2 (whole mem)]

theorem takeWhile_upperChars {s : List Char} (ascii : ∀ c ∈ s.takeWhile (· != '('), isAscii c) :
    (upperChars s).takeWhile (· != '(') = upperChars (s.takeWhile (· != '(')) := by
  have kept : ∀ n < 128, ((Char.ofNat n).toUpper != '(') = (Char.ofNat n != '(') := by decide
  induction s with
  | nil => rfl
  | cons c s ih =>
    by_cases opens : c = '('
    · subst opens
      rfl
    · have other : (c != '(') = true := by simpa using opens
      rw [List.takeWhile_cons_of_pos (p := (· != '(')) other] at ascii ⊢
      obtain ⟨first, rest⟩ := List.forall_mem_cons.1 ascii
      have same := kept c.toNat (by simpa [isAscii] using first)
      rw [Char.ofNat_toNat, other] at same
      have split (t : List Char) : upperChars (c :: t) = c.toUpper :: upperChars t := by
        rw [upperChars, List.flatMap_cons, upperChar, if_pos first]
        rfl
      rw [split, split, List.takeWhile_cons_of_pos (p := (· != '(')) same, ih rest]

theorem takeWhile_append_paren (s t : List Char) :
    (s ++ ("(".toList ++ t)).takeWhile (· != '(') = s.takeWhile (· != '(') := by
  induction s with
  | nil => rfl
  | cons c s ih => rw [List.cons_append, List.takeWhile_cons, List.takeWhile_cons, ih]

theorem toList_baseName (declared : String) :
    (baseName declared).toList = trimChars (declared.toList.takeWhile (· != '(')) := by
  rw [baseName, trim, String.toList_ofList, String.toList_ofList]

theorem baseName_key {declared : String} (ascii : ∀ c ∈ declared.toList.takeWhile (· != '('), isAscii c) :
    baseName (key declared) = upper (baseName declared) := by
  set front := declared.toList.takeWhile (· != '(') with front_eq
  obtain ⟨trimmed, within⟩ : trimChars ((trimChars declared.toList).takeWhile (· != '(')) = trimChars front ∧
      (trimChars declared.toList).takeWhile (· != '(') ⊆ front := by
    rcases takeWhile_trimChars declared.toList with same | same <;> rw [same, ← front_eq]
    · refine ⟨?_, (List.dropWhile_sublist _).subset⟩
      have idle : trimStart (trimStart front) = trimStart front := dropBlanks_eq_self (dropBlanks_first front)
      rw [trimChars, idle, trimChars]
    · exact ⟨(trimmed_trimChars front).eq, trimChars_subset front⟩
  have text : (baseName (key declared)).toList = upperChars (trimChars front) := by
    rw [toList_baseName, key_eq, String.toList_ofList, takeWhile_upperChars fun c mem => ascii c (within mem),
      upperChars_ascii fun c mem => ascii c (within mem), trimChars_map _ isBlank_toUpper, trimmed,
      upperChars_ascii fun c mem => ascii c (trimChars_subset front mem)]
  rw [upper, toList_baseName, ← front_eq, ← text, String.ofList_toList]

end TypeTable

namespace Text

theorem occursIn_iff {sought s : List Char} : occursIn sought s ↔ sought <:+: s := by
  induction s with
  | nil => simp [occursIn]
  | cons c s ih => rw [occursIn, Bool.or_eq_true, ih, List.isPrefixOf_iff_prefix, List.infix_cons_iff]

end Text

def Has (name part : String) : Prop := part.toList <:+: name.toList

instance (name part : String) : Decidable (Has name part) := decidable_of_iff _ occursIn_iff

/-- The rules of the engine, in their order, each with the affinity of such a name and the type of its values. -/
def Affinity.ofRules (name : String) : Affinity × Scalar :=
  if Has name "INT" then (.integer, .int64)
  else if Has name "CHAR" ∨ Has name "CLOB" ∨ Has name "TEXT" then (.text, .varchar)
  else if name = "" ∨ Has name "BLOB" then (.blob, .varbinary)
  else if Has name "REAL" ∨ Has name "FLOA" ∨ Has name "DOUB" then (.real, .float64)
  else (.numeric, .decimal)

theorem Affinity.ofRules_eq (name : String) :
    Affinity.ofRules name = (Affinity.ofBase name, (Affinity.ofBase name).scalar) := by
  have has (part : String) : Text.contains name part ↔ Has name part := occursIn_iff
  simp only [ofBase, ofRules, Bool.or_eq_true, has, String.isEmpty_iff, or_assoc]
  split_ifs <;> rfl

namespace TypeTable

def ofDeclared (base : String) : Scalar := ((index sqlite).types.lookup base).getD (Affinity.ofBase base).scalar

theorem ofDeclared_unlisted {base : String} (unlisted : base ∉ sqlite.map Prod.fst) :
    ofDeclared base = (Affinity.ofRules base).2 := by
  have capital : ∀ e ∈ sqlite, upper e.1 = e.1 := by decide +kernel
  have none : (index sqlite).types.lookup base = none := by
    rw [lookup_types, Option.map_eq_none_iff, List.find?_eq_none]
    intro e mem same
    have mem := List.mem_reverse.1 mem
    have own : e.1 = base := (capital e mem).symm.trans (by simpa using same)
    exact unlisted (own ▸ List.mem_map_of_mem mem)
  rw [ofDeclared, none, Affinity.ofRules_eq]
  rfl

theorem scalar?_mk (backend : String) (entries : List (String × Scalar)) (fallback : String → Option Scalar)
    (name : String) : (TypeTable.mk backend entries fallback).scalar? name =
      ((index entries).types.lookup (key name)).or (fallback (key name)) := rfl

/-- Where the whole text is listed, it has no parameters to take off. -/
theorem sqlite_scalar?_eq (declared : String) :
    Backend.sqlite.types.scalar? declared = some (ofDeclared (baseName (key declared))) := by
  have bare : ∀ e ∈ sqlite, baseName (upper e.1) = upper e.1 := by decide +kernel
  have table : Backend.sqlite.types = ⟨Backend.sqlite.name, sqlite, sqliteFallback⟩ := rfl
  rw [table, scalar?_mk, sqliteFallback, ofDeclared]
  cases listed : (index sqlite).types.lookup (key declared) with
  | none =>
    rw [Option.none_or]
    cases (index sqlite).types.lookup (baseName (key declared)) with
    | none => rw [Option.none_or, Option.getD_none]
    | some c => rw [Option.some_or, Option.getD_some]
  | some c =>
    have same : baseName (key declared) = key declared := by
      rw [lookup_types, Option.map_eq_some_iff] at listed
      obtain ⟨e, found, -⟩ := listed
      have own : upper e.1 = key declared := by simpa using List.find?_some found
      exact own ▸ bare e (List.mem_reverse.1 (List.mem_of_find?_eq_some found))
    rw [same, listed, Option.some_or, Option.getD_some]

/-- What stands in front of the parameters, in upper case and without the blanks around it. -/
def leadingName (declared : String) : String :=
  upper (trim (String.ofList (declared.toList.takeWhile (· != '('))))

theorem upper_baseName (declared : String) : upper (baseName declared) = leadingName declared := rfl

/-- SQLite's table has an answer for every declared type. It does not depend on letter case, on blanks around the
type or on what stands behind a parenthesis, and where the name in front of the parameters is not listed, it is that
of the engine's rules for the name. -/
theorem sqlite_takes_every_type {s : String} (ascii : ∀ c ∈ s.toList, isAscii c) :
    (∃ c, Backend.sqlite.types.scalar? s = some c) ∧
    (∀ v, eqIgnoringAsciiCase v s → Backend.sqlite.types.scalar? v = Backend.sqlite.types.scalar? s) ∧
    (∀ before after, (∀ c ∈ before.toList, isBlank c) → (∀ c ∈ after.toList, isBlank c) →
      Backend.sqlite.types.scalar? (before ++ s ++ after) = Backend.sqlite.types.scalar? s) ∧
    (∀ t, Backend.sqlite.types.scalar? (s ++ "(" ++ t) = Backend.sqlite.types.scalar? s) ∧
    (leadingName s ∉ sqlite.map Prod.fst →
      Backend.sqlite.types.scalar? s = some (Affinity.ofRules (leadingName s)).2) := by
  have front : ∀ c ∈ s.toList.takeWhile (· != '('), isAscii c :=
    fun c mem => ascii c (List.takeWhile_subset _ mem)
  refine ⟨⟨_, sqlite_scalar?_eq s⟩, fun v same => ?_, fun before after blanks blanks' => ?_, fun t => ?_,
    fun unlisted => ?_⟩
  · rw [scalar?, key_of_eqIgnoringAsciiCase same, ← scalar?]
  · rw [scalar?, key_surround blanks blanks', ← scalar?]
  · have same : (s ++ "(" ++ t).toList.takeWhile (· != '(') = s.toList.takeWhile (· != '(') := by
      rw [String.toList_append, String.toList_append, List.append_assoc]
      exact takeWhile_append_paren s.toList t.toList
    have base : baseName (s ++ "(" ++ t) = baseName s := by
      rw [baseName, same, baseName]
    rw [sqlite_scalar?_eq, sqlite_scalar?_eq, baseName_key front, baseName_key (same ▸ front), base]
  · rw [sqlite_scalar?_eq, baseName_key front, upper_baseName, ofDeclared_unlisted unlisted]

/-- A type of two words with parameters, which is not listed. -/
theorem unsignedInt_taken :
    (∀ c ∈ "Unsigned big int(20)".toList, isAscii c) ∧
      leadingName "Unsigned big int(20)" ∉ sqlite.map Prod.fst ∧
      Backend.sqlite.types.scalar? "Unsigned big int(20)" = some .int64 := by
  have ascii : ∀ c ∈ "Unsigned big int(20)".toList, isAscii c := List.all_eq_true.1 (by decide)
  have unlisted : leadingName "Unsigned big int(20)" ∉ sqlite.map Prod.fst := by decide
  obtain ⟨-, -, -, -, rules⟩ := sqlite_takes_every_type ascii
  have affinity : Affinity.ofRules (leadingName "Unsigned big int(20)") = (.integer, .int64) := by decide
  exact ⟨ascii, unlisted, (rules unlisted).trans (by rw [affinity])⟩

end TypeTable

end QueryBridge
