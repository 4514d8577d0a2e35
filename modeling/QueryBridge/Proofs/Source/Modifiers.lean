import Mathlib
import QueryBridge.Proofs.Source.Restyling

set_option autoImplicit false

namespace QueryBridge.Source

/-- Nothing behind stars, calls and tables, and names without their places. -/
def Restyle.bare : Restyle where
  ident name := { name with span := {} }
  text := id
  options _ := []
  nulls _ := none
  clauses _ := []

theorem rewordExprs_id (es : List QueryBridge.Expr) : rewordExprs id es = es := wordsKept_ascends.exprs_hold es

theorem Restyle.bare_faithful (d : Dialect) : Restyle.bare.Faithful d id where
  resolve name := rfl
  dotted lead path := by
    simp only [Source.dotted, List.map_map]
    rfl
  text lead s tail := rfl
  type s := rfl
  unit f f' args args' hf hargs := by
    rw [rewordExprs_id, rewordExprs_id] at hargs
    obtain rfl : f = f' := hf
    rw [hargs]

section

variable {d : Dialect} {s s' : Option (List Statement)}

theorem lowerStatements_bare (same : restyleStatements .bare s = restyleStatements .bare s') :
    (lowerStatements d s).toOption = (lowerStatements d s').toOption := by
  have words : QueryBridge.Query.reword id = id := funext QueryBridge.Query.reword_id
  have agree := lowerStatements_agree (Restyle.bare_faithful d) same
  rwa [Agree, words, Option.map_id_fun, id, id] at agree

end

/-- Texts whose syntax differs in modifiers only are read as the same tree, or both are refused. -/
theorem read_modified {d : Dialect} {text text' : String}
    (same : restyleStatements .bare (parse? d text) = restyleStatements .bare (parse? d text')) :
    (QueryBridge.Query.read d text).toOption = (QueryBridge.Query.read d text').toOption := by
  rw [read_eq, read_eq]
  exact lowerStatements_bare same

/-- The syntax of `SELECT * FROM t`. -/
def allOfT : Query :=
  ⟨[], false, .select ⟨none, .all, none, [.star []], none, [⟨.table [⟨"t", none, {}⟩] none false none [], []⟩], [],
    none, .by [], [], none, none, none, false, none⟩, [], none, none, none, none, [], none⟩

def allOfTTree : QueryBridge.Query :=
  ⟨[], false, .select ⟨false, [⟨.star [], none⟩], [⟨.table ["t"] none, []⟩], none, [], none⟩, [], none, none⟩

theorem parse?_star : restyleStatements .bare (parse? .bigquery "SELECT * FROM t") = some [.query allOfT] := by
  cbv

theorem parse?_exceptStar :
    restyleStatements .bare (parse? .bigquery "SELECT * EXCEPT (a) FROM t") = some [.query allOfT] := by
  cbv

theorem exceptStar_read : (QueryBridge.Query.read .bigquery "SELECT * EXCEPT (a) FROM t").toOption =
    (QueryBridge.Query.read .bigquery "SELECT * FROM t").toOption :=
  read_modified (parse?_exceptStar.trans parse?_star.symm)

/-- The option is not refused either: both texts have a tree. -/
theorem exceptStar_dropped : QueryBridge.Query.read .bigquery "SELECT * EXCEPT (a) FROM t" = .ok allOfTTree ∧
    QueryBridge.Query.read .bigquery "SELECT * FROM t" = .ok allOfTTree := by
  have tree : lowerStatements .bigquery (some [.query allOfT]) = .ok allOfTTree := rfl
  have read {text : String}
      (parsed : restyleStatements .bare (parse? .bigquery text) = some [.query allOfT]) :
      QueryBridge.Query.read .bigquery text = .ok allOfTTree := by
    have bare : restyleStatements .bare (parse? .bigquery text) = restyleStatements .bare (some [.query allOfT]) :=
      parsed
    have agree : (QueryBridge.Query.read .bigquery text).toOption = some allOfTTree := by
      rw [read_eq, lowerStatements_bare bare, tree]
      rfl
    cases h : QueryBridge.Query.read .bigquery text with
    | error e => rw [h] at agree; cases agree
    | ok t => rw [h] at agree; exact congrArg Except.ok (Option.some.inj agree)
  exact ⟨read parse?_exceptStar, read parse?_star⟩

end QueryBridge.Source
