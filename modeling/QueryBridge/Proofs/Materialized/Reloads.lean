import QueryBridge.Proofs.Materialized.Selections

set_option autoImplicit false

/-! A reload compares its settings with the selection that it reads, and exchanges the selection some
time later. What stays is what was exchanged last, whoever has loaded settings last; a reload
between whose comparison and exchange nobody else exchanges behaves as if it were alone. -/

namespace QueryBridge

open CacheSteps CacheEvent CacheLog

variable {κ ι : Type} [DecidableEq ι]

theorem ReloadCourse.compared {events : List (CacheEvent κ)} {b : Bool} (h : ReloadCourse events (.ok b)) :
    ∃ settings previous rest, events = loaded (.ok settings) :: seen previous :: rest ∧
      (b ↔ settings.backend ≠ previous.kind) ∧ (b ↔ ∃ selection, CacheEvent.exchanged selection ∈ rest) ∧
      ∀ selection, CacheEvent.exchanged selection ∈ rest → selection.kind = settings.backend := by
  cases h with
  | @unchanged settings previous same =>
    exact ⟨settings, previous, [], rfl, by simp [same], by simp, by simp⟩
  | @exchanged settings previous differs making selection made =>
    refine ⟨settings, previous, _, rfl, by simp [differs], by simp, fun other mem => ?_⟩
    rcases List.mem_append.1 mem with connects | last
    · obtain ⟨_, same⟩ := made.making.connects connects
      cases same
    · cases List.mem_singleton.1 last
      exact made.of_backend.1

namespace SharedSelector

variable {s : SharedSelector κ ι} {founding : Founding κ} {asked : ι → CacheCall} {i : ι}

theorem last_exchange (h : Traced founding asked s) :
    (Quiet s.log ∧ s.active = founding.first) ∨
      ∃ i settings before after, s.log = before ++ (some i, exchanged s.active) :: after ∧ Quiet after ∧
        asked i = .reload ∧ MadeFrom before (some i) settings (.ok s.active) ∧
          s.active.kind = settings.backend := by
  rw [h.active]
  rcases activeAfter_eq founding.first s.log with quiet | ⟨before, label, after, split, quiet⟩
  · exact .inl quiet
  obtain ⟨i, settings, rfl, reloads, made⟩ := exchange_logged h split
  exact .inr ⟨i, settings, before, after, split, quiet, reloads, made, made.of_backend.1⟩

/-- However reloads interleave, the active selection is the one that was exchanged last, made for the
settings of the reload that did so. A reload answers `true` exactly if it exchanges the selection, which it
does if its settings have another backend than the selection it has read; if nobody else exchanges between
the two, the backend that was active just before is another too. If nobody else exchanges behind what a
reload has read, as when the last to load is not overtaken, the backend in its settings stays active. -/
theorem reloads_interleave (founding : Founding κ) (asked : ι → CacheCall)
    (schedule : List (ι × CacheHost Id κ)) :
    let s := (begun founding asked).run schedule
    ((Quiet s.log ∧ s.active = founding.first) ∨
      ∃ i settings before after, s.log = before ++ (some i, exchanged s.active) :: after ∧ Quiet after ∧
        asked i = .reload ∧ MadeFrom before (some i) settings (.ok s.active) ∧
          s.active.kind = settings.backend) ∧
    ∀ i b, asked i = .reload → s.calls i = .done (.reloaded (.ok b)) → ∃ settings previous before after,
      s.log = before ++ (some i, seen previous) :: after ∧ (some i, loaded (.ok settings)) ∈ before ∧
      previous = activeAfter founding.first before ∧ (b ↔ settings.backend ≠ previous.kind) ∧
      (b ↔ ∃ selection, (some i, exchanged selection) ∈ after) ∧
      (∀ between selection rest, after = between ++ (some i, exchanged selection) :: rest →
        selection.kind = settings.backend ∧
          (Quiet between → (activeAfter previous between).kind ≠ selection.kind)) ∧
      ((∀ label selection, (label, exchanged selection) ∈ after → label = some i) →
        s.active.kind = settings.backend) := by
  intro s
  have traced : Traced founding asked s := traced_run (traced_begun founding asked) schedule
  refine ⟨last_exchange traced, fun i b reloads returned => ?_⟩
  obtain ⟨settings, previous, rest, events, compared, exchanges, kinds⟩ :=
    (reload_course traced reloads returned).compared
  obtain ⟨before, after, split, ofBefore, ofAfter⟩ := eventsOf_split [loaded (.ok settings)] rest events
  -- The log up to what the reload has read tells what was active then.
  have read : previous = activeAfter founding.first before := traced.reads _ _ _ _ split
  simp only [← ofAfter, mem_eventsOf] at exchanges kinds
  refine ⟨settings, previous, before, after, split, mem_eventsOf.1 (ofBefore ▸ .head _), read, compared,
    exchanges, ?_, fun alone => ?_⟩
  · rintro between selection rest rfl
    have own : (some i, exchanged selection) ∈ between ++ (some i, exchanged selection) :: rest :=
      List.mem_append_right _ (.head _)
    have kind := kinds selection own
    refine ⟨kind, fun quiet => ?_⟩
    rw [activeAfter_quiet previous quiet, kind]
    exact (compared.1 (exchanges.2 ⟨selection, own⟩)).symm
  · have active : s.active = activeAfter previous after := by
      rw [traced.active, split, activeAfter_append, ← read]
      rfl
    rw [active]
    rcases activeAfter_eq previous after with ⟨quiet, same⟩ | ⟨front, label, back, split', -⟩
    · rw [same]
      refine Decidable.byContradiction fun differs => ?_
      obtain ⟨selection, mem⟩ := exchanges.1 (compared.2 (Ne.symm differs))
      exact quiet _ _ mem
    · generalize activeAfter previous after = last at split'
      have mem : (label, exchanged last) ∈ after := split' ▸ List.mem_append_right _ (.head _)
      obtain rfl := alone _ _ mem
      exact kinds _ mem

def untabled (backend : Backend) : Selection Unit := ⟨backend, .disabled backend⟩

abbrev loadedFor (backend : Backend) : CacheEvent Unit := loaded (.ok { backend := backend })

/-- Two reloads of a selector that starts on DuckDB; the schedule says which goes on, and the backend that
settings have at that time. -/
def twoReloads (schedule : List (Bool × Backend)) : SharedSelector Unit Bool :=
  (begun .duckdb fun _ => .reload).run <| schedule.map fun step =>
    (step.1, ⟨.ok { backend := step.2 }, fun _ _ => .ok none, fun _ _ => .ok ()⟩)

/-- One of them loads settings first and exchanges the selection last. -/
def overtaken : SharedSelector Unit Bool :=
  twoReloads [(false, .snowflake), (true, .couchbase), (true, .couchbase), (true, .couchbase),
    (false, .couchbase), (false, .couchbase)]

/-- Both of them compare before either exchanges. -/
def abreast : SharedSelector Unit Bool :=
  twoReloads [(false, .snowflake), (true, .snowflake), (false, .snowflake), (true, .snowflake),
    (false, .snowflake), (true, .snowflake)]

/-- Both reloads answer `true`. Where one is overtaken, the settings loaded last name another backend than
the active one; where they are abreast, the second exchange leaves the backend as it is. -/
theorem overtaken_keeps_older :
    (overtaken.log = [(none, loadedFor .duckdb), (some false, loadedFor .snowflake),
        (some true, loadedFor .couchbase), (some true, seen (untabled .duckdb)),
        (some true, exchanged (untabled .couchbase)), (some false, seen (untabled .couchbase)),
        (some false, exchanged (untabled .snowflake))] ∧
      (∀ i, overtaken.calls i = .done (.reloaded (.ok true))) ∧ overtaken.active.kind ≠ .couchbase) ∧
    (abreast.log = [(none, loadedFor .duckdb), (some false, loadedFor .snowflake),
        (some true, loadedFor .snowflake), (some false, seen (untabled .duckdb)),
        (some true, seen (untabled .duckdb)), (some false, exchanged (untabled .snowflake)),
        (some true, exchanged (untabled .snowflake))] ∧
      (∀ i, abreast.calls i = .done (.reloaded (.ok true))) ∧
      activeAfter (untabled .duckdb) abreast.log.dropLast = abreast.active) := by
  refine ⟨⟨rfl, fun i => ?_, by decide⟩, rfl, fun i => ?_, rfl⟩
  · cases i <;> rfl
  · cases i <;> rfl

end SharedSelector

end QueryBridge
