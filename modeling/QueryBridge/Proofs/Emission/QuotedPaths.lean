import QueryBridge.Emission.Tree
import QueryBridge.Materialized.Location
import QueryBridge.Proofs.Text.Quoted

set_option autoImplicit false

namespace QueryBridge.Dialect

open Text

def quoteMark : Dialect → Char
  | bigquery => graveAccent
  | _ => '"'

/-- The name that is quoted for a name: where a dollar sign may not begin one, an underscore goes in front of it. -/
def quotedName : Dialect → String → String
  | bigquery, name => if name.toList.head? = some '$' then "_" ++ name else name
  | _, name => name

def quotedPath (d : Dialect) (parts : List String) : String := ".".intercalate (parts.map d.rules.quoteIdentifier)

theorem quoteIdentifier_eq (d : Dialect) (name : String) :
    d.rules.quoteIdentifier name = quote d.quoteMark (d.quotedName name) := by cases d <;> rfl

theorem quoteMark_ne_dot (d : Dialect) : d.quoteMark ≠ '.' := by cases d <;> decide

theorem quotedPath_eq (d : Dialect) (parts : List String) :
    d.quotedPath parts = ".".intercalate ((parts.map d.quotedName).map (quote d.quoteMark)) := by
  rw [quotedPath, List.map_map]
  exact congrArg _ (List.map_congr_left fun name _ => d.quoteIdentifier_eq name)

theorem quotedName_eq {d : Dialect} (h : d ≠ .bigquery) : d.quotedName = id := by
  cases d with
  | bigquery => exact absurd rfl h
  | _ => rfl

section

variable (d : Dialect)

theorem unquotePath_quotedPath {parts : List String} (named : parts ≠ []) {rest : List Char}
    (unquoted : rest.head? ≠ some d.quoteMark) (last : rest.head? ≠ some '.') :
    unquotePath d.quoteMark ((d.quotedPath parts).toList ++ rest) = some (parts.map d.quotedName, rest) := by
  rw [quotedPath_eq]
  exact unquotePath_quoted d.quoteMark_ne_dot (by simpa using named) unquoted last

theorem quotedPath_eq_iff {parts others : List String} (named : parts ≠ []) :
    d.quotedPath others = d.quotedPath parts ↔ others.map d.quotedName = parts.map d.quotedName := by
  refine ⟨fun same => ?_, fun same => by rw [quotedPath_eq, quotedPath_eq, same]⟩
  have read : unquotePath d.quoteMark ((d.quotedPath parts).toList ++ []) = some (parts.map d.quotedName, []) :=
    d.unquotePath_quotedPath named (by simp) (by simp)
  rw [← same] at read
  by_cases empty : others = []
  · subst empty
    have none : unquotePath d.quoteMark ((d.quotedPath []).toList ++ []) = none := by
      rw [unquotePath.eq_def]
      rfl
    cases none.symm.trans read
  · rw [d.unquotePath_quotedPath empty (by simp) (by simp)] at read
    exact (Prod.mk.inj (Option.some.inj read)).1

theorem render_append (xs ys : List Token) :
    Token.render d.rules (xs ++ ys) = Token.render d.rules xs ++ Token.render d.rules ys := by
  simp [Token.render]

theorem path_cons_cons (part next : String) (parts : List String) :
    Token.path (part :: next :: parts) = [Token.ident part, .symbol .dot] ++ Token.path (next :: parts) := by
  simp [Token.path, List.intercalate_cons_cons]

theorem render_path (parts : List String) : Token.render d.rules (Token.path parts) = d.quotedPath parts := by
  induction parts with
  | nil => rfl
  | cons part parts ih =>
    cases parts with
    | nil => simp [Token.path, Token.render, quotedPath, Token.text]
    | cons next parts =>
      have joined : d.quotedPath (part :: next :: parts) =
          d.rules.quoteIdentifier part ++ "." ++ d.quotedPath (next :: parts) := String.intercalate_cons_cons
      rw [path_cons_cons, render_append, ih, joined]
      simp [Token.render, Token.text, Symbol.text]

theorem path_snoc (qualifier : List String) (name : String) :
    Token.path (qualifier ++ [name]) = qualifierTokens qualifier ++ [Token.ident name] := by
  induction qualifier with
  | nil => rfl
  | cons part qualifier ih =>
    obtain ⟨next, rest, split⟩ := List.exists_cons_of_ne_nil (l := qualifier ++ [name]) (by simp)
    rw [List.cons_append, split, path_cons_cons, ← split, ih]
    simp [qualifierTokens]

theorem table_written (parts : List String) (label : Option TableAlias) :
    ((Relation.table parts label).tokens d.rules).map (Token.render d.rules) =
      .ok (d.quotedPath parts ++ Token.render d.rules (aliasTokens label)) := by
  rw [Relation.tokens, Except.map, render_append, render_path]

theorem column_written (qualifier : List String) (name : String) :
    ((Expr.column qualifier name).tokens d.rules).map (Token.render d.rules) =
      .ok (d.quotedPath (qualifier ++ [name])) := by
  rw [Expr.tokens, Except.map, ← path_snoc, render_path]

/-- Tables, qualified columns and locations are written as the quoted path of their parts. Whatever stands behind it
but a quote or a dot, reading gives the parts again, with an underscore in front of a dollar sign where a dialect
needs one, and another path has the same text only if its parts are the same, or the same but for the underscore. -/
theorem quotedPath_read_back {parts : List String} (named : parts ≠ []) :
    (∀ label, ((Relation.table parts label).tokens d.rules).map (Token.render d.rules) =
        .ok (d.quotedPath parts ++ Token.render d.rules (aliasTokens label))) ∧
      ((Expr.column parts.dropLast (parts.getLast named)).tokens d.rules).map (Token.render d.rules) =
        .ok (d.quotedPath parts) ∧
      (∀ b : Backend, b.dialect = d → Location.quoted ⟨b, parts⟩ = d.quotedPath parts) ∧
      (∀ rest : List Char, rest.head? ≠ some d.quoteMark → rest.head? ≠ some '.' →
        unquotePath d.quoteMark ((d.quotedPath parts).toList ++ rest) = some
          (parts.map fun name => if d = .bigquery ∧ name.toList.head? = some '$' then "_" ++ name else name, rest)) ∧
      ∀ others, d.quotedPath others = d.quotedPath parts ↔
        if d = .bigquery then others.map d.quotedName = parts.map d.quotedName else others = parts := by
  have escaped : d.quotedName =
      fun name => if d = .bigquery ∧ name.toList.head? = some '$' then "_" ++ name else name := by
    funext name
    cases d <;> simp [quotedName]
  refine ⟨d.table_written parts, ?_, ?_, fun rest unquoted last => ?_, fun others => ?_⟩
  · rw [column_written, List.dropLast_concat_getLast]
  · rintro b rfl
    rfl
  · rw [← escaped]
    exact d.unquotePath_quotedPath named unquoted last
  · rw [d.quotedPath_eq_iff named]
    split
    · rfl
    · rw [quotedName_eq ‹_›, List.map_id, List.map_id]

/-- A name with a quote and a dot in it, and an empty one, in front of an alias. -/
theorem oddNames_read :
    ["a\".\"b", "", "$x"] ≠ [] ∧
      unquotePath '"' ((duckdb.quotedPath ["a\".\"b", "", "$x"]).toList ++ " AS t".toList) =
        some (["a\".\"b", "", "$x"], " AS t".toList) ∧
      unquotePath graveAccent ((bigquery.quotedPath ["a\".\"b", "", "$x"]).toList ++ " AS t".toList) =
        some (["a\".\"b", "", "_$x"], " AS t".toList) := by
  have named : ["a\".\"b", "", "$x"] ≠ [] := by simp
  refine ⟨named, ?_, ?_⟩
  · exact (duckdb.quotedPath_read_back named).2.2.2.1 _ (by decide) (by decide)
  · exact (bigquery.quotedPath_read_back named).2.2.2.1 _ (by decide) (by decide)

end

end QueryBridge.Dialect
