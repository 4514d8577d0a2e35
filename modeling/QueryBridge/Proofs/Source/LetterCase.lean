import Mathlib
import QueryBridge.Proofs.Emission.Wording
import QueryBridge.Proofs.Source.Restyling
import QueryBridge.Proofs.Types.Reading

set_option autoImplicit false

namespace QueryBridge.Source

open Text Emission

/-- Unquoted names and texts in lower case, and names without their places. -/
def Restyle.lowercase : Restyle where
  ident name := { text := if name.quote.isSome then name.text else asciiLower name.text, quote := name.quote }
  text := asciiLower
  options := List.map asciiLower
  nulls := id
  clauses := List.map asciiLower

theorem foldUnquoted_asciiLower {d : Dialect} (h : d ≠ .bigquery) (s : String) :
    d.rules.foldUnquoted (asciiLower s) = d.rules.foldUnquoted s := by
  cases d with
  | bigquery => exact absurd rfl h
  | snowflake => exact upper_asciiLower s
  | duckdb => exact lower_asciiLower s
  | postgres => exact lower_asciiLower s
  | sqlite => exact lower_asciiLower s

theorem Ident.resolve_lowercase {d : Dialect} (h : d ≠ .bigquery) (name : Ident) :
    (Restyle.lowercase.ident name).resolve d = name.resolve d := by
  unfold Ident.resolve Restyle.lowercase
  dsimp only
  split
  · rfl
  · exact foldUnquoted_asciiLower h name.text

theorem Ident.render_lowercase (name : Ident) :
    asciiLower (Restyle.lowercase.ident name).render = asciiLower name.render := by
  obtain ⟨text, quote, span⟩ := name
  cases quote with
  | none => exact asciiLower_asciiLower text
  | some mark => rfl

theorem asciiLower_dotted (path : List Ident) :
    asciiLower (dotted (path.map Restyle.lowercase.ident)) = asciiLower (dotted path) := by
  rw [dotted, dotted, asciiLower_intercalate, asciiLower_intercalate, List.map_map, List.map_map, List.map_map]
  exact congrArg _ (List.map_congr_left fun name _ => name.render_lowercase)

theorem unitFirst_eq {d : Dialect} (h : d ≠ .bigquery) (function : String) (args : List QueryBridge.Expr) :
    unitFirst d function args = args := by
  unfold unitFirst
  split
  · rw [if_neg (by simp [h])]
  · rfl

theorem reword_readLower (shown lower : List Char) :
    (DataType.readLower (shown.map Char.toLower) lower).reword asciiLower =
      (DataType.readLower shown lower).reword asciiLower := by
  cases flat : DataType.element? lower with
  | some inner => rw [DataType.readLower_array flat, DataType.readLower_array flat]
  | none =>
    rw [DataType.readLower_flat flat, DataType.readLower_flat flat]
    cases DataType.named? lower with
    | some t => rfl
    | none =>
      have text : String.ofList (shown.map Char.toLower) = asciiLower (String.ofList shown) := by simp [asciiLower]
      rw [Option.getD_none, Option.getD_none, DataType.reword, DataType.reword, text, asciiLower_asciiLower]

theorem parse_asciiLower (s : String) :
    (DataType.parse (asciiLower s)).reword asciiLower = (DataType.parse s).reword asciiLower := by
  have shown : trimChars (asciiLower s).toList = (trimChars s.toList).map Char.toLower := by
    rw [asciiLower, String.toList_ofList, trimChars_map_toLower]
  rw [DataType.parse, DataType.parse, shown, lowerChars_map_toLower, reword_readLower]

theorem Restyle.lowercase_faithful {d : Dialect} (h : d ≠ .bigquery) : Restyle.lowercase.Faithful d asciiLower where
  resolve := Ident.resolve_lowercase h
  dotted lead path := by rw [asciiLower_append, asciiLower_append, asciiLower_dotted]
  text lead s tail := by
    simp only [asciiLower_append]
    exact congrArg (asciiLower lead ++ · ++ asciiLower tail) (asciiLower_asciiLower s)
  type := parse_asciiLower
  unit f f' args args' _ hargs := by rw [unitFirst_eq h, unitFirst_eq h, hargs]

theorem asciiLower_unshown : Unshown asciiLower where
  upper := upper_asciiLower
  bare s := by
    have empty : (asciiLower s).isEmpty = s.isEmpty := by
      rw [Bool.eq_iff_iff, String.isEmpty_iff, String.isEmpty_iff, ← String.toList_inj, ← String.toList_inj]
      simp [asciiLower]
    have word : isAsciiWord ∘ Char.toLower = isAsciiWord := funext isAsciiWord_toLower
    rw [isBareWord, isBareWord, empty, asciiLower, String.toList_ofList, List.all_map, word]

/-- Statements that differ in the case of A to Z in unquoted names are the same query up to the case of words that
are not quoted, or none is a query; so every dialect has the same text for both. -/
theorem lettercase_insensitive {d : Dialect} (folds : d ≠ .bigquery) {s s' : Option (List Statement)}
    (same : restyleStatements .lowercase s = restyleStatements .lowercase s') :
    (lowerStatements d s).toOption.map (QueryBridge.Query.reword asciiLower) =
        (lowerStatements d s').toOption.map (QueryBridge.Query.reword asciiLower) ∧
      ∀ target : Dialect, ((lowerStatements d s).toOption.bind fun q => (q.sql target).toOption) =
        (lowerStatements d s').toOption.bind fun q => (q.sql target).toOption := by
  have agree := lowerStatements_agree (Restyle.lowercase_faithful folds) same
  refine ⟨agree, fun target => ?_⟩
  rcases agree.cases with ⟨_, _, e, e'⟩ | ⟨q, q', e, e', words⟩
  · rw [e, e']
    rfl
  · rw [e, e']
    exact sql_reworded asciiLower_unshown words target

/-- The syntax of `SELECT f(t.c) FROM name t`. -/
def callOverTable (f t c name : String) : Statement :=
  let column := Expr.path [⟨t, none, {}⟩, ⟨c, none, {}⟩]
  let call := Expr.call ⟨[⟨f, none, {}⟩], .list none [.expr column] [], none, none, none, none, false⟩
  let table := Relation.table [⟨name, none, {}⟩] none false (some ⟨⟨t, none, {}⟩, []⟩) []
  .query ⟨[], false, .select ⟨none, .all, none, [.expr call none], none, [⟨table, []⟩], [], none, .by [], [], none,
    none, none, false, none⟩, [], none, none, none, none, [], none⟩

/-- `SELECT Max(U.Id) FROM Users U` and `SELECT max(u.id) FROM users u` have one text for another dialect. -/
theorem capitals_insensitive :
    let written := some [callOverTable "Max" "U" "Id" "Users"]
    let small := some [callOverTable "max" "u" "id" "users"]
    restyleStatements .lowercase written = restyleStatements .lowercase small ∧
      ((lowerStatements .postgres written).toOption.bind fun q => (q.sql .snowflake).toOption) =
        (lowerStatements .postgres small).toOption.bind fun q => (q.sql .snowflake).toOption := by
  have same : restyleStatements .lowercase (some [callOverTable "Max" "U" "Id" "Users"]) =
      restyleStatements .lowercase (some [callOverTable "max" "u" "id" "users"]) := by cbv
  exact ⟨same, (lettercase_insensitive (by decide) same).2 .snowflake⟩

end QueryBridge.Source
