import Mathlib.Data.List.Forall2
import Mathlib.Data.List.Nodup
import Mathlib.Data.List.Perm.Basic
import QueryBridge.Proofs.Warehouse.Listings
import QueryBridge.Store.Connector

set_option autoImplicit false

/-! Which tables of a database a listing shows, and what it says of their columns. The pattern that
hides the engine's own tables has an underscore in it, which matches any character, so that it hides
more than the names that the engine reserves. -/

namespace QueryBridge

open Store

namespace Text

theorem someSuffix_isEmpty (s : List Char) : someSuffix (fun t => t.isEmpty) s = true := by
  induction s with
  | nil => rfl
  | cons c s ih => rw [someSuffix, ih, Bool.or_true]

theorem matchesChars_literal {l p s : List Char} (noPercent : '%' ∉ l) (noUnderscore : '_' ∉ l) :
    matchesChars (l ++ p) s ↔ ∃ t u, s = t ++ u ∧ t.map Char.toLower = l.map Char.toLower ∧ matchesChars p u := by
  induction l generalizing s with
  | nil =>
    refine ⟨fun more => ⟨[], s, rfl, rfl, more⟩, fun ⟨t, u, split, empty, more⟩ => ?_⟩
    obtain rfl := List.map_eq_nil_iff.1 empty
    rwa [split]
  | cons c l ih =>
    have notAny : c ≠ '%' := fun same => noPercent (same ▸ List.mem_cons_self)
    have notOne : c ≠ '_' := fun same => noUnderscore (same ▸ List.mem_cons_self)
    have ih {s : List Char} := ih (s := s) (mt (List.mem_cons_of_mem c) noPercent)
      (mt (List.mem_cons_of_mem c) noUnderscore)
    cases s with
    | nil => simp [matchesChars]
    | cons d s =>
      rw [List.cons_append, matchesChars.eq_4 _ _ _ _ notAny notOne, Bool.and_eq_true, ih, beq_iff_eq]
      constructor
      · rintro ⟨same, t, u, rfl, lower, more⟩
        exact ⟨d :: t, u, rfl, by simp [same, lower], more⟩
      · rintro ⟨t, u, split, lower, more⟩
        cases t with
        | nil => simp at lower
        | cons e t =>
          obtain ⟨rfl, rfl⟩ := List.cons.inj split
          obtain ⟨same, lower⟩ := List.cons.inj lower
          exact ⟨same.symm, t, u, rfl, lower, more⟩

end Text

namespace Store

open Text

/-- The engine reserves the names that begin so, in either case. -/
def isEngineName (name : String) : Bool := "sqlite_".toList.isPrefixOf (name.toList.map Char.toLower)

def isHidden (name : String) : Bool := matchesPattern Catalogue.hiddenPattern name

/-- Any character may stand where the pattern has an underscore. -/
theorem isHidden_iff {name : String} :
    isHidden name ↔ ∃ c rest, name.toList.map Char.toLower = "sqlite".toList ++ c :: rest := by
  have pattern : Catalogue.hiddenPattern.toList = "sqlite".toList ++ ['_', '%'] := rfl
  have last (u : List Char) : matchesChars ['_', '%'] u ↔ u ≠ [] := by
    cases u with
    | nil => simp [matchesChars]
    | cons c u =>
      simp [matchesChars, someSuffix_isEmpty]
  rw [isHidden, matchesPattern, pattern, matchesChars_literal (by decide) (by decide)]
  constructor
  · rintro ⟨t, u, split, lower, more⟩
    obtain ⟨c, rest, rfl⟩ := List.exists_cons_of_ne_nil ((last u).1 more)
    refine ⟨c.toLower, rest.map Char.toLower, ?_⟩
    rw [split, List.map_append, lower]
    rfl
  · rintro ⟨c, rest, lower⟩
    obtain ⟨t, u, split, front, behind⟩ := List.map_eq_append_iff.1 lower
    refine ⟨t, u, split, front.trans (by decide), (last u).2 ?_⟩
    rintro rfl
    cases behind

theorem isHidden_of_isEngineName {name : String} (h : isEngineName name) : isHidden name := by
  obtain ⟨rest, split⟩ := List.isPrefixOf_iff_prefix.1 h
  exact isHidden_iff.2 ⟨'_', rest, split.symm⟩

/-- A column of a table that the engine holds. -/
structure HeldColumn where
  column : ColumnDefinition
  /-- Lists of columns leave out those that are generated, and the hidden ones of virtual tables. -/
  unlisted : Bool

structure HeldTable where
  name : String
  columns : List HeldColumn

def HeldTable.declared (t : HeldTable) : List ColumnDefinition := t.columns.map (·.column)

def HeldTable.listed (t : HeldTable) : List ColumnDefinition := (t.columns.filter (!·.unlisted)).map (·.column)

/-- What the engine documents of its master table and of its lists of columns: the master table has an entry for
each table, in any order, and the list of a table's columns has those that are not left out, in their places. -/
structure Catalogue.Shows (k : Catalogue) (tables : List HeldTable) : Prop where
  entries : ((k.entries.filter fun e => e.kind = .table).map (·.name)).Perm (tables.map (·.name))
  columns : ∀ t ∈ tables, (k.columns t.name).Perm (t.listed.zipIdx.map fun c => ⟨c.2, c.1⟩)
  distinct : (tables.map (·.name)).Nodup
  /-- A table needs a column that is not left out, and has no more than this number. -/
  nonempty : ∀ t ∈ tables, t.listed ≠ []
  few : ∀ t ∈ tables, t.columns.length ≤ 32767

/-- A row tells of a column of a table and of the place that it has there, counted from 0. -/
structure Describes (catalog : String) (p : String × ColumnDefinition × Nat) (row : ColumnListing) : Prop where
  catalog : row.catalog = "\"" ++ catalog ++ "\""
  schema : row.schema = "\"main\""
  table : row.table = "\"" ++ p.1 ++ "\""
  name : row.column.name = p.2.1.name
  ordinal : row.column.ordinal.toNat = p.2.2 + 1
  nullable : row.column.nullable = !p.2.1.notNull
  type : row.column.dataType = p.2.1.type

def places (tables : List (String × List ColumnDefinition)) : List (String × ColumnDefinition × Nat) :=
  tables.flatMap fun t => t.2.zipIdx.map fun c => (t.1, c)

/-- The tables in the order of their names, one row for each of their columns in the order of their places, and no
other rows. -/
def Lists (catalog : String) (tables : List (String × List ColumnDefinition)) (rows : List ColumnListing) : Prop :=
  ∃ ts : List (String × List ColumnDefinition), ts.Perm tables ∧ (ts.map Prod.fst).Pairwise (· < ·) ∧
    List.Forall₂ (Describes catalog) (places ts) rows

theorem mem_places {tables : List (String × List ColumnDefinition)} {name : String} {c : ColumnDefinition}
    {place : Nat} :
    (name, c, place) ∈ places tables ↔ ∃ columns, (name, columns) ∈ tables ∧ columns[place]? = some c := by
  simp only [places, List.mem_flatMap, List.mem_map, Prod.exists, List.mem_zipIdx_iff_getElem?]
  constructor
  · rintro ⟨_, columns, mem, _, _, column, e⟩
    cases e
    exact ⟨columns, mem, column⟩
  · rintro ⟨columns, mem, column⟩
    exact ⟨name, columns, mem, c, place, column, rfl⟩

theorem enquote_injective : Function.Injective enquote := by
  intro s t same
  have chars := congrArg String.toList same
  rw [toList_enquote, toList_enquote, List.append_cancel_right_eq] at chars
  exact String.toList_inj.1 (List.cons.inj chars).2

section

variable {catalog : String} {row : ColumnListing}

theorem Describes.unique {p q : String × ColumnDefinition × Nat} (hp : Describes catalog p row)
    (hq : Describes catalog q row) : p = q := by
  obtain ⟨name, ⟨column, type, notNull⟩, place⟩ := p
  obtain ⟨name', ⟨column', type', notNull'⟩, place'⟩ := q
  have names : name = name' := enquote_injective (hp.table.symm.trans hq.table)
  have columns : column = column' := hp.name.symm.trans hq.name
  have types : type = type' := hp.type.symm.trans hq.type
  have nulls : notNull = notNull' := Bool.not_inj (hp.nullable.symm.trans hq.nullable)
  have ordinals : place + 1 = place' + 1 := hp.ordinal.symm.trans hq.ordinal
  rw [names, columns, types, nulls, Nat.succ.inj ordinals]

theorem mem_of_describes {ps : List (String × ColumnDefinition × Nat)} {rows : List ColumnListing}
    (listed : List.Forall₂ (Describes catalog) ps rows) (p : String × ColumnDefinition × Nat) :
    p ∈ ps ↔ ∃ row ∈ rows, Describes catalog p row := by
  induction listed with
  | nil => simp
  | @cons q row ps rows told _ ih =>
    have head : p = q ↔ Describes catalog p row := ⟨fun e => e ▸ told, fun h => h.unique told⟩
    rw [List.mem_cons, ih, head]
    simp

theorem Lists.same {tables others : List (String × List ColumnDefinition)} {rows : List ColumnListing}
    (h : Lists catalog tables rows) (h' : Lists catalog others rows) {name : String} {c : ColumnDefinition}
    {place : Nat} :
    (∃ columns, (name, columns) ∈ tables ∧ columns[place]? = some c) ↔
      ∃ columns, (name, columns) ∈ others ∧ columns[place]? = some c := by
  obtain ⟨ts, perm, -, listed⟩ := h
  obtain ⟨us, perm', -, listed'⟩ := h'
  have same := (mem_of_describes listed (name, c, place)).trans (mem_of_describes listed' (name, c, place)).symm
  simpa only [mem_places, perm.mem_iff, perm'.mem_iff] using same

end

theorem pairwise_mergeSort {α : Type} (r : α → α → Prop) [DecidableRel r] (trans : ∀ a b c, r a b → r b c → r a c)
    (total : ∀ a b, r a b ∨ r b a) (l : List α) : (l.mergeSort fun a b => decide (r a b)).Pairwise r := by
  have sorted : (l.mergeSort fun a b => decide (r a b)).Pairwise fun a b => decide (r a b) :=
    List.pairwise_mergeSort (fun a b c ab bc => by simpa using trans a b c (by simpa using ab) (by simpa using bc))
      (fun a b => by simpa using total a b) l
  simpa using sorted

theorem map_place_placed (columns : List ColumnDefinition) :
    (placed columns).map (·.place) = List.range columns.length := by
  rw [placed, List.map_map, List.range_eq_range']
  exact List.zipIdx_map_snd 0 columns

theorem mem_placed {columns : List ColumnDefinition} {e : ColumnEntry} :
    e ∈ placed columns ↔ columns[e.place]? = some e.column := by
  simp only [placed, List.mem_map, Prod.exists, List.mem_zipIdx_iff_getElem?]
  constructor
  · rintro ⟨c, place, column, rfl⟩
    exact column
  · exact fun column => ⟨e.column, e.place, column, rfl⟩

theorem mergeSort_of_perm_placed {entries : List ColumnEntry} {columns : List ColumnDefinition}
    (perm : entries.Perm (placed columns)) :
    (entries.mergeSort fun a b => a.place ≤ b.place) = placed columns := by
  have sorted : (entries.mergeSort fun a b => a.place ≤ b.place).Pairwise fun a b => a.place ≤ b.place :=
    pairwise_mergeSort (fun a b : ColumnEntry => a.place ≤ b.place) (fun _ _ _ => Nat.le_trans) (fun _ _ => Nat.le_total _ _) _
  have inPlace : (placed columns).Pairwise (fun a b => a.place ≤ b.place) := by
    rw [← List.pairwise_map (f := ColumnEntry.place), map_place_placed]
    exact List.pairwise_le_range
  have same : (entries.mergeSort fun a b => a.place ≤ b.place).Perm (placed columns) :=
    (List.mergeSort_perm _ _).trans perm
  refine same.eq_of_pairwise (fun a b ha hb ab ba => ?_) sorted inPlace
  obtain ⟨place, column⟩ := a
  obtain ⟨place', column'⟩ := b
  obtain rfl : place = place' := Nat.le_antisymm ab ba
  have found : some column = some column' :=
    (mem_placed.1 (same.mem_iff.1 ha)).symm.trans (mem_placed.1 hb)
  rw [Option.some.inj found]

section

variable {k : Catalogue} {tables : List HeldTable} (shows : k.Shows tables)

include shows

theorem Catalogue.Shows.tableColumns {t : HeldTable} (mem : t ∈ tables) : k.tableColumns t.name = placed t.listed :=
  mergeSort_of_perm_placed (shows.columns t mem)

theorem Catalogue.Shows.tableNames :
    k.tableNames.Perm ((tables.filter fun t => !isHidden t.name).map (·.name)) ∧
      k.tableNames.Pairwise (· < ·) := by
  have visible : (k.entries.filter Catalogue.isListed).map (·.name) =
      ((k.entries.filter fun e => e.kind = .table).map (·.name)).filter fun name => !isHidden name := by
    rw [List.filter_map, List.filter_filter]
    congr 2
    funext e
    simp [Catalogue.isListed, isHidden, Bool.and_comm]
  have perm : k.tableNames.Perm ((tables.filter fun t => !isHidden t.name).map (·.name)) := by
    have kept := shows.entries.filter fun name => !isHidden name
    rw [← visible, List.filter_map] at kept
    exact (List.mergeSort_perm _ _).trans kept
  have distinct : k.tableNames.Nodup :=
    perm.nodup_iff.2 (shows.distinct.sublist (List.filter_sublist.map _))
  refine ⟨perm, ?_⟩
  have sorted : k.tableNames.Pairwise (· ≤ ·) :=
    pairwise_mergeSort (· ≤ ·) (fun _ _ _ => String.le_trans) (fun _ _ => String.le_total _ _) _
  refine sorted.imp₂ (fun a b le ne => ?_) distinct
  exact String.not_le.1 fun ge => ne (String.le_antisymm le ge)

end

end Store

namespace CatalogSession

theorem listTables_ok {ε : Type} {session : CatalogSession (Except ε)} {columns : TableName → List SourceColumn}
    (found : ∀ t, session.columns t = .ok (columns t)) (ts : List TableName) :
    session.listTables ts = .ok (ts.flatMap fun t => (columns t).map t.listing) := by
  induction ts with
  | nil => rfl
  | cons t ts ih =>
    rw [listTables, found, ih]
    rfl

end CatalogSession

namespace SqliteConnector

def rowOf (c : SqliteConnector) (p : String × ColumnDefinition × Nat) : ColumnListing :=
  (⟨c.catalog, mainName, p.1⟩ : TableName).listing (sourceColumn ⟨p.2.2, p.2.1⟩)

theorem rowOf_describes (c : SqliteConnector) {p : String × ColumnDefinition × Nat} (few : p.2.2 < 32767) :
    Describes c.catalog p (c.rowOf p) where
  catalog := rfl
  schema := rfl
  table := rfl
  name := rfl
  ordinal := by
    change (p.2.2 + 1) % 2 ^ 32 = p.2.2 + 1
    omega
  nullable := rfl
  type := rfl

theorem schemaOf_eq (c : SqliteConnector) (k : Catalogue) :
    c.schemaOf (.ok k) = .ok (k.tableNames.flatMap fun name =>
      (k.tableColumns name).map fun e => c.rowOf (name, e.column, e.place)) := by
  have found : ∀ t, (c.session k).columns t = .ok ((k.tableColumns t.name).map sourceColumn) := fun _ => rfl
  change (c.session k).listTables (k.tableNames.map fun name => ⟨c.catalog, mainName, name⟩) = _
  rw [CatalogSession.listTables_ok found, List.flatMap_map]
  simp only [List.map_map]
  rfl

section

variable {k : Catalogue} {tables : List HeldTable} (shows : k.Shows tables)

include shows

theorem schemaOf_lists_visible (c : SqliteConnector) :
    ∃ rows, c.schemaOf (.ok k) = .ok rows ∧
      Lists c.catalog ((tables.filter fun t => !isHidden t.name).map fun t => (t.name, t.listed)) rows := by
  obtain ⟨perm, ascending⟩ := shows.tableNames
  -- the tables in the order in which their names are listed
  obtain ⟨ts, reordered, named⟩ : ∃ ts, (tables.filter fun t => !isHidden t.name).Perm ts ∧
      List.Forall₂ (fun t name => t.name = name) ts k.tableNames := by
    have own : List.Forall₂ (fun (t : HeldTable) name => t.name = name) (tables.filter fun t => !isHidden t.name)
        ((tables.filter fun t => !isHidden t.name).map (·.name)) :=
      List.forall₂_map_right_iff.2 (List.forall₂_same.2 fun _ _ => rfl)
    have composed : Relation.Comp (List.Forall₂ fun (t : HeldTable) name => t.name = name) List.Perm
        (tables.filter fun t => !isHidden t.name) k.tableNames := ⟨_, own, perm.symm⟩
    rwa [List.forall₂_comp_perm_eq_perm_comp_forall₂] at composed
  have names : k.tableNames = ts.map (·.name) := by
    have mapped : List.Forall₂ (· = ·) (ts.map (·.name)) k.tableNames := List.forall₂_map_left_iff.2 named
    rw [List.forall₂_eq_eq_eq] at mapped
    exact mapped.symm
  have within : ∀ t ∈ ts, t ∈ tables := fun t mem => (List.mem_filter.1 (reordered.mem_iff.2 mem)).1
  refine ⟨_, c.schemaOf_eq k, ts.map fun t => (t.name, t.listed), reordered.symm.map _, ?_, ?_⟩
  · rw [List.map_map]
    exact names ▸ ascending
  · have rows : (k.tableNames.flatMap fun name =>
        (k.tableColumns name).map fun e => c.rowOf (name, e.column, e.place)) =
          (places (ts.map fun t => (t.name, t.listed))).map c.rowOf := by
      rw [names, List.flatMap_map, places, List.flatMap_map, List.map_flatMap]
      refine List.flatMap_congr fun t mem => ?_
      rw [shows.tableColumns (within t mem), placed, List.map_map, List.map_map]
      rfl
    rw [rows]
    refine List.forall₂_map_right_iff.2 (List.forall₂_same.2 fun p mem => c.rowOf_describes ?_)
    obtain ⟨columns, listed, column⟩ := mem_places.1 mem
    obtain ⟨t, mem, -, rfl⟩ : ∃ t ∈ ts, t.name = p.1 ∧ t.listed = columns := by simpa using listed
    have short : t.listed.length ≤ t.columns.length := by
      rw [HeldTable.listed, List.length_map]
      exact List.length_filter_le _ _
    have place := (List.getElem?_eq_some_iff.1 column).1
    exact Nat.lt_of_lt_of_le place (Nat.le_trans short (shows.few t (within t mem)))

theorem listed_iff {t : HeldTable} (mem : t ∈ tables) (kept : String → Bool)
    (columns : HeldTable → List ColumnDefinition) (c : ColumnDefinition) (place : Nat) :
    (∃ cs, (t.name, cs) ∈ ((tables.filter fun t => kept t.name).map fun t => (t.name, columns t)) ∧
      cs[place]? = some c) ↔ kept t.name ∧ (columns t)[place]? = some c := by
  constructor
  · rintro ⟨cs, listed, column⟩
    obtain ⟨t', within, e⟩ := List.mem_map.1 listed
    obtain ⟨within, keeps⟩ := List.mem_filter.1 within
    obtain rfl : t' = t := List.inj_on_of_nodup_map shows.distinct within mem (Prod.mk.inj e).1
    exact ⟨keeps, (Prod.mk.inj e).2 ▸ column⟩
  · rintro ⟨keeps, column⟩
    exact ⟨columns t, List.mem_map.2 ⟨t, List.mem_filter.2 ⟨mem, keeps⟩, rfl⟩, column⟩

variable {catalog : String} {rows : List ColumnListing}
  (listed : Lists catalog ((tables.filter fun t => !isHidden t.name).map fun t => (t.name, t.listed)) rows)

include listed

/-- If the rows list every column of every table outside the engine's own, the pattern hides no such table, and none
of its columns is left out. -/
theorem visible_of_lists_declared
    (declared : Lists catalog ((tables.filter fun t => !isEngineName t.name).map fun t => (t.name, t.declared)) rows)
    {t : HeldTable} (mem : t ∈ tables) (other : isEngineName t.name = false) :
    isHidden t.name = false ∧ ∀ c ∈ t.columns, c.unlisted = false := by
  have same (place : Nat) (c : ColumnDefinition) :
      t.declared[place]? = some c ↔ isHidden t.name = false ∧ t.listed[place]? = some c := by
    have rows : (∃ cs, (t.name, cs) ∈ _ ∧ cs[place]? = some c) ↔ ∃ cs, (t.name, cs) ∈ _ ∧ cs[place]? = some c :=
      declared.same listed
    rw [listed_iff shows mem (fun name => !isEngineName name), listed_iff shows mem (fun name => !isHidden name)]
      at rows
    simpa [other] using rows
  have visible : isHidden t.name = false := by
    -- A table without columns would not show that it is hidden.
    obtain ⟨c, rest, first⟩ : ∃ c rest, t.declared = c :: rest := by
      refine List.exists_cons_of_ne_nil fun none => shows.nonempty t mem ?_
      rw [HeldTable.listed, List.map_eq_nil_iff.1 none]
      rfl
    exact ((same 0 c).1 (by rw [first]; rfl)).1
  have all : t.declared = t.listed := List.ext_getElem? fun place => Option.ext fun c => by
    rw [same]
    exact and_iff_right visible
  refine ⟨visible, ?_⟩
  have length : (t.columns.filter (!·.unlisted)).length = t.columns.length := by
    have lengths := congrArg List.length all
    rw [HeldTable.declared, HeldTable.listed, List.length_map, List.length_map] at lengths
    exact lengths.symm
  simpa [List.length_filter_eq_length_iff] using length

omit shows in
theorem lists_declared_of_visible (kept : ∀ t ∈ tables, isEngineName t.name = false →
      isHidden t.name = false ∧ ∀ c ∈ t.columns, c.unlisted = false) :
    Lists catalog ((tables.filter fun t => !isEngineName t.name).map fun t => (t.name, t.declared)) rows := by
  have tablesSame : (tables.filter fun t => !isEngineName t.name) = tables.filter fun t => !isHidden t.name := by
    refine List.filter_congr fun t mem => ?_
    cases own : isEngineName t.name with
    | true => rw [isHidden_of_isEngineName own]
    | false => rw [(kept t mem own).1]
  have columnsSame : ∀ t ∈ tables.filter fun t => !isEngineName t.name,
      (t.name, t.declared) = (t.name, t.listed) := by
    intro t mem
    obtain ⟨within, other⟩ := List.mem_filter.1 mem
    have all : t.columns.filter (!·.unlisted) = t.columns :=
      List.filter_eq_self.2 fun c column => by simpa using (kept t within (by simpa using other)).2 c column
    rw [HeldTable.declared, HeldTable.listed, all]
  rw [List.map_congr_left columnsSame, tablesSame]
  exact listed

end

/-- The schema of a database, through the connector: it lists, in the order of their names, the tables whose names
do not match the pattern, with one row for each column that the engine tells of, in the order of their places. These
are all tables but the engine's own if and only if no other table has a name that begins with the six letters and one
more character, and all their columns if and only if the engine leaves none out. -/
theorem schema_lists_tables {k : Catalogue} {tables : List HeldTable} (shows : k.Shows tables) (c : SqliteConnector) :
    (∀ {m : Type → Type} [Monad m] [LawfulMonad m] (files : FileAccess m),
      c.schema files = (fun opened => c.schemaOf (opened.map Database.catalogue)) <$> c.openDatabase files) ∧
    (∀ name, isHidden name ↔ ∃ d rest, name.toList.map Char.toLower = "sqlite".toList ++ d :: rest) ∧
    ∃ rows, c.schemaOf (.ok k) = .ok rows ∧
      Lists c.catalog ((tables.filter fun t => !isHidden t.name).map fun t => (t.name, t.listed)) rows ∧
      (Lists c.catalog ((tables.filter fun t => !isEngineName t.name).map fun t => (t.name, t.declared)) rows ↔
        ∀ t ∈ tables, isEngineName t.name = false →
          isHidden t.name = false ∧ ∀ column ∈ t.columns, column.unlisted = false) := by
  obtain ⟨rows, listing, listed⟩ := schemaOf_lists_visible shows c
  refine ⟨fun files => ?_, fun name => isHidden_iff, rows, listing, listed, fun declared t mem other => ?_,
    lists_declared_of_visible listed⟩
  · rw [schema, map_eq_pure_bind]
  · exact visible_of_lists_declared shows listed declared mem other

end SqliteConnector

namespace Store

def Table.held (t : Table) : HeldTable := ⟨t.name, t.columns.map fun c => ⟨c, false⟩⟩

theorem Table.listed_held (t : Table) : t.held.listed = t.columns := by
  simp [held, HeldTable.listed, List.filter_eq_self.2, List.map_map, Function.comp_def]

theorem Database.table?_of_mem {d : Database}
    (apart : d.tables.Pairwise fun t u => ¬ Text.eqIgnoringAsciiCase t.name u.name) {t : Table} (mem : t ∈ d.tables) :
    d.table? t.name = some t := by
  obtain ⟨tables⟩ := d
  rw [table?]
  induction tables with
  | nil => cases mem
  | cons u tables ih =>
    obtain ⟨other, apart⟩ := List.pairwise_cons.1 apart
    rw [List.find?_cons]
    rcases List.mem_cons.1 mem with rfl | mem
    · simp [Text.eqIgnoringAsciiCase]
    · rw [eq_false_of_ne_true (other t mem)]
      exact ih apart mem

/-- What a database of this library says of itself, it says as the engine does. -/
theorem Database.catalogue_shows {d : Database}
    (apart : d.tables.Pairwise fun t u => ¬ Text.eqIgnoringAsciiCase t.name u.name)
    (nonempty : ∀ t ∈ d.tables, t.columns ≠ []) (few : ∀ t ∈ d.tables, t.columns.length ≤ 32767) :
    d.catalogue.Shows (d.tables.map Table.held) where
  entries := by
    simp [catalogue, List.filter_map, Function.comp_def, Table.held]
  columns := by
    refine List.forall_mem_map.2 fun t mem => ?_
    have described : d.catalogue.columns t.held.name = placed t.columns := by
      change ((d.table? t.name).map fun t => placed t.columns).getD [] = _
      rw [table?_of_mem apart mem]
      rfl
    rw [described, t.listed_held]
    exact .refl _
  distinct := by
    rw [List.map_map]
    exact List.pairwise_map.2 (apart.imp fun other same => other (by simp_all [Text.eqIgnoringAsciiCase, Table.held]))
  nonempty := List.forall_mem_map.2 fun t mem => t.listed_held ▸ nonempty t mem
  few := List.forall_mem_map.2 fun t mem => by
    rw [Table.held, List.length_map]
    exact few t mem

/-- Of two tables, the later one is listed first. -/
theorem twoTables_listed :
    let d : Database := ⟨[⟨"b", [⟨"y", "TEXT", true⟩], []⟩, ⟨"a", [⟨"x", "INTEGER", false⟩], []⟩]⟩
    d.catalogue.Shows (d.tables.map Table.held) ∧
      ∃ rows, SqliteConnector.schemaOf ⟨"test.db", "w"⟩ (.ok d.catalogue) = .ok rows ∧
        Lists "w" [("b", [⟨"y", "TEXT", true⟩]), ("a", [⟨"x", "INTEGER", false⟩])] rows := by
  intro d
  have shows : d.catalogue.Shows (d.tables.map Table.held) :=
    Database.catalogue_shows (by decide) (by decide) (by decide)
  obtain ⟨-, -, rows, listing, listed, -⟩ := SqliteConnector.schema_lists_tables shows ⟨"test.db", "w"⟩
  exact ⟨shows, rows, listing, listed⟩

/-- A table whose name begins with the six letters is no table of the engine's own, and it is not listed. -/
theorem factsTable_unlisted :
    let d : Database := ⟨[⟨"sqlitefacts", [⟨"id", "INTEGER", false⟩], []⟩]⟩
    d.catalogue.Shows (d.tables.map Table.held) ∧ isEngineName "sqlitefacts" = false ∧
      SqliteConnector.schemaOf ⟨"test.db", "warehouse"⟩ (.ok d.catalogue) = .ok [] ∧
      ¬ Lists "warehouse" [("sqlitefacts", [⟨"id", "INTEGER", false⟩])] [] := by
  intro d
  have shows : d.catalogue.Shows (d.tables.map Table.held) :=
    Database.catalogue_shows (by decide) (by decide) (by decide)
  refine ⟨shows, by decide, ?_, ?_⟩
  · rw [SqliteConnector.schemaOf_eq]
    have hidden : d.catalogue.entries.filter Catalogue.isListed = [] := by decide
    simp [Catalogue.tableNames, hidden]
  · rintro ⟨ts, perm, -, rows⟩
    rw [List.perm_singleton.1 perm] at rows
    cases rows

end Store

end QueryBridge
