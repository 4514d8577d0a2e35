import QueryBridge.Proofs.Materialized.Selections

set_option autoImplicit false

namespace QueryBridge

open CacheSteps CacheEvent CacheLog

variable {κ ι : Type} [DecidableEq ι]

namespace SharedSelector

variable {s : SharedSelector κ ι} {founding : Founding κ} {asked : ι → CacheCall} {i : ι}

theorem delegate_made (h : Traced founding asked s) :
    (s.active.kind ∈ Backend.withCacheTables → ∃ connector label settings,
        s.active.delegate = .tables s.active.kind connector ∧
          (label, connected s.active.kind settings (.ok (some connector))) ∈ s.log) ∧
      (s.active.kind ∉ Backend.withCacheTables → s.active.delegate = .disabled s.active.kind) := by
  obtain ⟨label, settings, made⟩ := selection_made h
  obtain ⟨kind, tables, disabled⟩ := made.of_backend
  rw [kind]
  refine ⟨fun caches => ?_, disabled⟩
  obtain ⟨connector, delegate, connects⟩ := tables caches
  exact ⟨connector, label, settings, delegate, connects⟩

theorem removal_course {selection : Selection κ} {location : Location} {events : List (CacheEvent κ)}
    (h : Leads ((CacheUse.remove location).against selection) events (.done (.removed (.ok ())))) :
    RemovalCourse location selection.delegate events (.ok ()) := by
  obtain ⟨p, course, answered⟩ := leads_map h
  cases p with
  | done r =>
    cases answered
    exact remove_leads course
  | ask request next => cases answered

/-- A removal that succeeds has run `DROP TABLE IF EXISTS` for its location on a connector that was opened
for the location's backend, if the backend active at its first step makes tables; then it is the location's
backend. If that backend makes none, the removal has run nothing. -/
theorem removal_runs (founding : Founding κ) (asked : ι → CacheCall) (i : ι) (location : Location)
    (removes : asked i = .use (.remove location)) (before after : List (ι × CacheHost Id κ))
    (world : CacheHost Id κ) (first : ∀ step ∈ before, step.1 ≠ i)
    (succeeds : ((begun founding asked).run (before ++ (i, world) :: after)).calls i =
      .done (.removed (.ok ()))) :
    let s := (begun founding asked).run before
    let events := eventsOf (some i) ((begun founding asked).run (before ++ (i, world) :: after)).log
    (s.active.kind ∈ Backend.withCacheTables →
        s.active.kind = location.backend ∧ ∃ connector label settings,
          (label, connected location.backend settings (.ok (some connector))) ∈ s.log ∧
            events = [seen s.active, executed connector ("DROP TABLE IF EXISTS " ++ location.quoted) (.ok ())]) ∧
      (s.active.kind ∉ Backend.withCacheTables → events = [seen s.active]) := by
  intro s events
  have traced : Traced founding asked s := traced_run (traced_begun founding asked) before
  obtain ⟨tables, disabled⟩ := delegate_made traced
  obtain ⟨rest, own, course⟩ := use_whole traced removes (not_begun founding asked first) world after
  rw [run_split] at succeeds
  rw [show events = _ from congrArg (eventsOf (some i) ·.log) run_split, own]
  rw [succeeds] at course
  have removal := removal_course course
  refine ⟨fun caches => ?_, fun none => ?_⟩
  · obtain ⟨connector, label, settings, delegate, connects⟩ := tables caches
    rw [delegate] at removal
    generalize s.active.kind = kind at removal connects
    cases removal with
    | dropped => exact ⟨rfl, connector, label, settings, connects, rfl⟩
  · rw [disabled none] at removal
    cases removal with
    | disabled => rfl

def settled (backend : Backend) : CacheHost Id Unit :=
  ⟨.ok { backend := backend }, fun _ _ => .ok (some ()), fun _ _ => .ok ()⟩

def cachedTable : Location := ⟨.sqlite, ["main", "t"]⟩

/-- A table is made, the backend exchanged and the table dropped, as far as the schedule has it. -/
def tableCalls : Fin 3 → CacheCall
  | 0 => .use (.materialize "w" "main" "t" "SELECT 1")
  | 1 => .reload
  | 2 => .use (.remove cachedTable)

def cachedOnSqlite : SharedSelector Unit (Fin 3) := begun (.tables { backend := .sqlite } rfl ()) tableCalls

theorem removal_runs_drop :
    let made := cachedOnSqlite.run [(0, settled .sqlite), (0, settled .sqlite)]
    made.calls 0 = .done (.materialized (.ok (some cachedTable))) ∧
      (.sqlite = cachedTable.backend ∧ ∃ connector label settings,
        (label, connected .sqlite settings (.ok (some connector))) ∈ made.log ∧
          eventsOf (some 2) (made.run [(2, settled .sqlite), (2, settled .sqlite)]).log =
            [seen made.active, executed connector ("DROP TABLE IF EXISTS " ++ cachedTable.quoted) (.ok ())]) :=
  ⟨rfl, (removal_runs (.tables { backend := .sqlite } rfl ()) tableCalls 2 cachedTable rfl
    [(0, settled .sqlite), (0, settled .sqlite)] [(2, settled .sqlite)] (settled .sqlite) (by decide) rfl).1
    (by decide)⟩

def statements (s : SharedSelector κ ι) : List String :=
  s.log.filterMap fun
    | (_, ⟨.execute _ sql, _⟩) => some sql
    | _ => none

/-- Behind a reload to a backend without tables the removal succeeds, and the table has not been dropped. -/
theorem removal_skips_table :
    let made := cachedOnSqlite.run [(0, settled .sqlite), (0, settled .sqlite)]
    let s := made.run [(1, settled .duckdb), (1, settled .duckdb), (1, settled .duckdb), (2, settled .duckdb)]
    made.calls 0 = .done (.materialized (.ok (some cachedTable))) ∧ s.calls 1 = .done (.reloaded (.ok true)) ∧
      s.calls 2 = .done (.removed (.ok ())) ∧
      s.statements = ["CREATE TABLE \"main\".\"t\" AS SELECT 1"] ∧
      "DROP TABLE IF EXISTS " ++ cachedTable.quoted ∉ s.statements := by
  intro made s
  have all : s.statements = ["CREATE TABLE \"main\".\"t\" AS SELECT 1"] := by decide +kernel
  refine ⟨rfl, rfl, rfl, all, ?_⟩
  rw [all]
  decide +kernel

end SharedSelector

end QueryBridge
