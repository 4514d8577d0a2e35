import QueryBridge.Dialect.Catalogue
import QueryBridge.Proofs.Text.Quoted
import QueryBridge.Proofs.Warehouse.CatalogWalks

set_option autoImplicit false

namespace QueryBridge

open Text

/-- The text is one quoted identifier with that name, and nothing else. -/
def ReadsAs (text name : String) : Prop := unquote '"' text.toList = some (name.toList, [])

instance (text name : String) : Decidable (ReadsAs text name) := inferInstanceAs (Decidable (_ = _))

theorem toList_enquote (name : String) : (enquote name).toList = '"' :: name.toList ++ ['"'] := by
  simp [enquote, String.toList_append]

theorem enquote_eq_quote_iff {name : String} : enquote name = quote '"' name ↔ '"' ∉ name.toList := by
  rw [← String.toList_inj, toList_enquote, quote, String.toList_ofList, quoteChars, List.append_cancel_right_eq,
    List.cons.injEq, eq_comm (a := name.toList), doubled_eq_self_iff]
  exact and_iff_right rfl

theorem readsAs_enquote_iff {name : String} : ReadsAs (enquote name) name ↔ '"' ∉ name.toList := by
  rw [ReadsAs, unquote_eq_some_iff, List.append_nil, ← enquote_eq_quote_iff, ← String.toList_inj, quote,
    String.toList_ofList]
  exact and_iff_left (by simp)

theorem enquote_eq_quoteIdentifier_iff {d : Dialect} (double : d ≠ .bigquery) {name : String} :
    enquote name = d.rules.quoteIdentifier name ↔ '"' ∉ name.toList := by
  have quoting : d.rules.quoteIdentifier = quote '"' := by
    cases d with
    | bigquery => exact absurd rfl double
    | _ => rfl
  rw [quoting, enquote_eq_quote_iff]

namespace CatalogSession

/-- Every row of a listing names a table that the session reported. Each of the three texts in it is one quoted
identifier with the name in question, and what the dialects with double quotes write for that name, exactly if the
name has no double quote in it. -/
theorem listing_read_iff {σ ε : Type} {session : CatalogSession (ExceptT ε (StateM σ))} {s s' : σ}
    {rows : List ColumnListing} (ran : session.listColumns.run.run s = (.ok rows, s')) :
    ∃ s₁ names s₂ answers, session.forget.run.run s = (.ok (), s₁) ∧
      session.tables.run.run s₁ = (.ok names, s₂) ∧ Reports session s₂ names answers s' ∧
      rows = listings names answers ∧
      ∀ row ∈ rows, ∃ t ∈ names,
        ∀ p ∈ [(t.catalog, row.catalog), (t.schema, row.schema), (t.name, row.table)],
          (ReadsAs p.2 p.1 ↔ '"' ∉ p.1.toList) ∧
            ∀ d : Dialect, d ≠ .bigquery → (p.2 = d.rules.quoteIdentifier p.1 ↔ '"' ∉ p.1.toList) := by
  obtain ⟨s₁, names, s₂, answers, forgot, listed, reports, rfl⟩ := reports_of_run_ok ran
  refine ⟨s₁, names, s₂, answers, forgot, listed, reports, rfl, fun row mem => ?_⟩
  obtain ⟨t, within, own⟩ := mem_listings mem
  have enquoted : ∀ p ∈ [(t.catalog, row.catalog), (t.schema, row.schema), (t.name, row.table)],
      p.2 = enquote p.1 := by
    rw [own]
    simp [TableName.listing]
  refine ⟨t, within, fun p part => ?_⟩
  rw [enquoted p part]
  exact ⟨readsAs_enquote_iff, fun d double => enquote_eq_quoteIdentifier_iff double⟩

/-- A session that never fails and reports the same columns for each of its tables. -/
def uniform (tables : List TableName) (columns : List SourceColumn) : CatalogSession (ExceptT String (StateM Unit)) where
  forget := pure ()
  tables := pure tables
  columns _ := pure columns

/-- The listing of a table whose name has no double quote. -/
theorem plainListing_read :
    (uniform [⟨"w", "main", "orders"⟩] [⟨"id", 1, false, "INTEGER"⟩]).listColumns.run.run () =
        (.ok [⟨"\"w\"", "\"main\"", "\"orders\"", ⟨"id", 1, false, "INTEGER"⟩⟩], ()) ∧
      ReadsAs "\"orders\"" "orders" := by
  have ran : (uniform [⟨"w", "main", "orders"⟩] [⟨"id", 1, false, "INTEGER"⟩]).listColumns.run.run () =
      (.ok [⟨"\"w\"", "\"main\"", "\"orders\"", ⟨"id", 1, false, "INTEGER"⟩⟩], ()) := rfl
  obtain ⟨s₁, names, s₂, answers, -, listed, -, -, rows⟩ := listing_read_iff ran
  obtain rfl : [⟨"w", "main", "orders"⟩] = names := by
    cases listed
    rfl
  obtain ⟨t, within, parts⟩ := rows _ List.mem_cons_self
  obtain rfl := List.mem_singleton.1 within
  exact ⟨ran, (parts ("orders", "\"orders\"") (by simp)).1.2 (by decide)⟩

/-- The listing of a table whose name has a double quote in it: its text is read as another name, with text left
over, and no dialect with double quotes writes it for the name. -/
theorem quotedListing_misread :
    (uniform [⟨"w", "main", "a\"b"⟩] [⟨"id", 1, false, "INTEGER"⟩]).listColumns.run.run () =
        (.ok [⟨"\"w\"", "\"main\"", "\"a\"b\"", ⟨"id", 1, false, "INTEGER"⟩⟩], ()) ∧
      unquote '"' "\"a\"b\"".toList = some (['a'], ['b', '"']) ∧ ¬ ReadsAs "\"a\"b\"" "a\"b" ∧
      Dialect.duckdb.rules.quoteIdentifier "a\"b" = "\"a\"\"b\"" ∧
      ∀ d : Dialect, d ≠ .bigquery → "\"a\"b\"" ≠ d.rules.quoteIdentifier "a\"b" := by
  have text : enquote "a\"b" = "\"a\"b\"" := by decide
  refine ⟨rfl, by decide, by decide, by decide, fun d double same => ?_⟩
  rw [← text, enquote_eq_quoteIdentifier_iff double] at same
  exact absurd same (by decide)

end CatalogSession

end QueryBridge
