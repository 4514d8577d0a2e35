import QueryBridge.Proofs.Passes.Frames
import QueryBridge.Proofs.Passes.UnboundQualifiers

set_option autoImplicit false

namespace QueryBridge.Passes

/-- The qualifier has several parts, which end the path of a table of a SELECT around the position. -/
def SpellsTableAt (q : Query) (path : List Nat) (qualifier : List String) : Prop :=
  1 < qualifier.length ∧ ∃ s ∈ (Subtree.query q).enclosing path, ∃ table label,
    (Relation.table table label).StandsIn s.sources ∧ qualifier <:+ table

theorem pathsInScope_eq : pathsInScope = .collecting tablePaths := rfl

theorem mem_tablePaths {s : Select} {table : List String} :
    table ∈ tablePaths s.sources ↔ ∃ label, (Relation.table table label).StandsIn s.sources := by
  simp only [tablePaths, List.mem_filterMap, Relation.standsIn_iff]
  constructor
  · rintro ⟨r, hr, found⟩
    cases r with
    | table path label =>
      obtain rfl : path = table := Option.some.inj found
      exact ⟨label, hr⟩
    | derived | unnest => cases found
  · rintro ⟨label, h⟩
    exact ⟨_, h, rfl⟩

theorem spellsTable_enclosing (q : Query) (path : List Nat) (qualifier : List String) :
    spellsTable (((Subtree.query q).enclosing path).flatMap fun s => tablePaths s.sources) qualifier ↔
      SpellsTableAt q path qualifier := by
  simp only [spellsTable, SpellsTableAt, Bool.and_eq_true, decide_eq_true_iff, List.any_eq_true,
    List.mem_flatMap, mem_tablePaths, List.isSuffixOf_iff_suffix]
  refine and_congr_right fun _ => ?_
  constructor
  · rintro ⟨table, ⟨s, hs, label, source⟩, spelled⟩
    exact ⟨s, hs, table, label, source, spelled⟩
  · rintro ⟨s, hs, table, label, source, spelled⟩
    exact ⟨table, ⟨s, hs, label, source⟩, spelled⟩

instance (q : Query) (path : List Nat) (qualifier : List String) :
    Decidable (SpellsTableAt q path qualifier) :=
  decidable_of_iff _ (spellsTable_enclosing q path qualifier)

theorem shorten_of_spelled {paths : List (List String)} {qualifier : List String}
    (h : spellsTable paths qualifier) :
    ∃ last, qualifier.getLast? = some last ∧ shorten paths qualifier = [last] := by
  rcases shorten_cases paths qualifier with same | cut
  · rw [shorten_eq_self.1 same] at h
    cases h
  · exact cut

theorem shortened_at {q : Query} {path : List Nat} {e : Expr} (he : e.isLeaf)
    (h : (Subtree.query q).at? path = some (.expr e)) :
    (Subtree.query (removeCatalogPrefix q)).at? path = some (.expr (shortenLeaf
      (((Subtree.query q).enclosing path).flatMap fun s => tablePaths s.sources) e)) := by
  have leaves : ∀ paths x, x.isLeaf → (shortenLeaf paths x).isLeaf := fun paths _ => isLeaf_shortenLeaf paths
  have moved := Subtree.at_rewrite (v := pathsInScope) (f := shortenLeaf) [] leaves (.query q) path
  rw [h, Option.map_some, pathsInScope_eq, Subtree.surroundings_collecting h, List.nil_append] at moved
  refine moved.trans (congrArg (some <| Subtree.expr ·) ?_)
  exact congrArg Id.run (Expr.rewrite_leaf he)

def requalified (qualifier : List String) : Expr → Expr
  | .column _ name => .column qualifier name
  | .star _ => .star qualifier
  | e => e

theorem shortenLeaf_requalified {paths : List (List String)} {e : Expr} {qualifier : List String}
    (h : qualifier? e = some qualifier) : shortenLeaf paths e = requalified (shorten paths qualifier) e := by
  cases e with
  | column | star => cases h; rfl
  | _ => cases h

theorem requalified_self {e : Expr} {qualifier : List String} (h : qualifier? e = some qualifier) :
    requalified qualifier e = e := by
  cases e with
  | column | star => cases h; rfl
  | _ => cases h

/-- A reference keeps its position, and its qualifier too, except that one of several parts which spells a
table around it is cut down to the last part. -/
theorem references_shortened_exactly {q : Query} {path : List Nat} {e : Expr} {qualifier : List String}
    (at_path : (Subtree.query q).at? path = some (.expr e)) (refers : qualifier? e = some qualifier) :
    (SpellsTableAt q path qualifier → ∃ last, qualifier.getLast? = some last ∧
      (Subtree.query (removeCatalogPrefix q)).at? path = some (.expr (requalified [last] e))) ∧
    (¬ SpellsTableAt q path qualifier →
      (Subtree.query (removeCatalogPrefix q)).at? path = some (.expr e)) := by
  rw [← spellsTable_enclosing, shortened_at (isLeaf_of_qualifier refers) at_path,
    shortenLeaf_requalified refers]
  constructor
  · intro spelled
    obtain ⟨last, hl, cut⟩ := shorten_of_spelled spelled
    exact ⟨last, hl, by rw [cut]⟩
  · intro other
    rw [shorten_eq_self.2 (by simpa using other), requalified_self refers]

/-- `SELECT c.s.t.a, s.u.b FROM c.s.t WHERE EXISTS (SELECT * FROM s.u)` -/
def nestedTables : Query :=
  let inner : Select := { Select.empty with
    projection := [⟨.star [], none⟩], sources := [⟨.table ["s", "u"] none, []⟩] }
  .ofSelect { Select.empty with
    projection := [⟨.column ["c", "s", "t"] "a", none⟩, ⟨.column ["s", "u"] "b", none⟩]
    sources := [⟨.table ["c", "s", "t"] none, []⟩]
    selection := some (.exists (.ofSelect inner) false) }

theorem nestedTables_shortened :
    (Subtree.query (removeCatalogPrefix nestedTables)).at? [0, 0, 0] = some (.expr (.column ["t"] "a")) ∧
    (Subtree.query (removeCatalogPrefix nestedTables)).at? [0, 0, 1] =
      some (.expr (.column ["s", "u"] "b")) := by
  have spelled : (Subtree.query nestedTables).at? [0, 0, 0] = some (.expr (.column ["c", "s", "t"] "a")) := rfl
  have nested : (Subtree.query nestedTables).at? [0, 0, 1] = some (.expr (.column ["s", "u"] "b")) := rfl
  constructor
  · obtain ⟨last, hl, cut⟩ := (references_shortened_exactly spelled rfl).1 (by decide)
    obtain rfl : "t" = last := Option.some.inj hl
    exact cut
  · exact (references_shortened_exactly nested rfl).2 (by decide)

end QueryBridge.Passes
