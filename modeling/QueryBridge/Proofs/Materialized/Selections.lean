import QueryBridge.Proofs.Materialized.SharedSelector

set_option autoImplicit false

namespace QueryBridge

open CacheSteps CacheEvent CacheLog

variable {κ ι : Type}

def Backend.withCacheTables : List Backend := [.bigquery, .postgres, .sqlite]

theorem Backend.hasCacheTables_iff (b : Backend) : b.hasCacheTables ↔ b ∈ withCacheTables := by
  cases b <;> decide

theorem Makes.of_backend {settings : Settings} {making : List (CacheEvent κ)} {selection : Selection κ}
    (h : Makes settings making (.ok selection)) :
    selection.kind = settings.backend ∧
      (settings.backend ∈ Backend.withCacheTables → ∃ connector,
        selection.delegate = .tables settings.backend connector ∧
          connected settings.backend settings (.ok (some connector)) ∈ making) ∧
      (settings.backend ∉ Backend.withCacheTables → selection.delegate = .disabled settings.backend) := by
  rw [← Backend.hasCacheTables_iff]
  cases h.making with
  | disabled none => exact ⟨rfl, fun some => (nomatch none.symm.trans some), fun _ => rfl⟩
  | tables some connector => exact ⟨rfl, fun _ => ⟨connector, rfl, .head _⟩, fun none => (none some).elim⟩

theorem CacheLog.MadeFrom.of_backend {log : CacheLog κ ι} {label : Option ι} {settings : Settings}
    {selection : Selection κ} (h : MadeFrom log label settings (.ok selection)) :
    selection.kind = settings.backend ∧
      (settings.backend ∈ Backend.withCacheTables → ∃ connector,
        selection.delegate = .tables settings.backend connector ∧
          (label, connected settings.backend settings (.ok (some connector))) ∈ log) ∧
      (settings.backend ∉ Backend.withCacheTables → selection.delegate = .disabled settings.backend) := by
  obtain ⟨-, making, logged, made⟩ := h
  obtain ⟨kind, tables, disabled⟩ := made.of_backend
  refine ⟨kind, fun caches => ?_, disabled⟩
  obtain ⟨connector, delegate, connects⟩ := tables caches
  exact ⟨connector, delegate, logged _ connects⟩

/-- Only a reload that tells so has exchanged the selection. -/
theorem ReloadCourse.exchanges {events : List (CacheEvent κ)} {r : Except CacheError Bool}
    (h : ReloadCourse events r) {selection : Selection κ} (mem : CacheEvent.exchanged selection ∈ events) :
    r = .ok true := by
  cases h with
  | unread | unchanged => simp at mem
  | @unmade settings previous differs making e failed =>
    have made : CacheEvent.exchanged selection ∈ making := by simpa using mem
    obtain ⟨_, same⟩ := failed.making.connects made
    cases same
  | exchanged => rfl

namespace SharedSelector

variable [DecidableEq ι] {s : SharedSelector κ ι} {founding : Founding κ} {asked : ι → CacheCall} {i : ι}
  {schedule before during after : List (ι × CacheHost Id κ)}

theorem reload_course (h : Traced founding asked s) (reloads : asked i = .reload) {r : Except CacheError Bool}
    (returned : s.calls i = .done (.reloaded r)) : ReloadCourse (eventsOf (some i) s.log) r := by
  have course := h.leads i
  rw [reloads, returned] at course
  exact reload_done course

/-- No step of a reload that fails, or finds the backend unchanged, changes the active selection. -/
theorem idle_reload (h : Traced founding asked s) (reloads : asked i = .reload) {world : CacheHost Id κ}
    {r : Except CacheError Bool} (returned : ((s.advance i world).run after).calls i = .done (.reloaded r))
    (idle : r ≠ .ok true) : (s.advance i world).active = s.active := by
  have course := reload_course (traced_run (traced_advance h i world) after) reloads returned
  rcases advance_cases s i world with ⟨-, same⟩ | ⟨request, next, -, active, -, -, log⟩
  · rw [same]
  rw [active]
  rcases behind_eq ⟨request, request.answered world s.active⟩ s.active with
    ⟨selection, exchanges, -⟩ | ⟨-, same⟩
  · obtain ⟨rest, later, -⟩ := run_log (s.advance i world) after
    rw [later, log, exchanges] at course
    have mem : exchanged selection ∈ eventsOf (some i) (s.log ++ [(some i, exchanged selection)] ++ rest) :=
      mem_eventsOf.2 (List.mem_append_left _ (List.mem_append_right _ (.head _)))
    exact (idle (course.exchanges mem)).elim
  · exact same

/-- Every other call works with the selection that is active at its first step. -/
theorem use_whole (h : Traced founding asked s) {u : CacheUse} (uses : asked i = .use u)
    (fresh : eventsOf (some i) s.log = []) (world : CacheHost Id κ) (after : List (ι × CacheHost Id κ)) :
    ∃ rest, eventsOf (some i) ((s.advance i world).run after).log = seen s.active :: rest ∧
      Leads (u.against s.active) rest (((s.advance i world).run after).calls i) := by
  have course := (traced_run (traced_advance h i world) after).leads i
  have asks : s.calls i = .ask .read u.against := by
    have here := h.leads i
    rw [fresh, uses, use_asks] at here
    exact leads_nil here
  have log : (s.advance i world).log = s.log ++ [(some i, seen s.active)] := by
    simp only [advance, asks]
    rfl
  obtain ⟨rest, later, -⟩ := run_log (s.advance i world) after
  have own : eventsOf (some i) ((s.advance i world).run after).log = seen s.active :: eventsOf (some i) rest := by
    rw [later, log, eventsOf_append, eventsOf_append, fresh, eventsOf_cons_self]
    rfl
  refine ⟨_, own, ?_⟩
  rw [own, uses, use_asks] at course
  cases course with
  | ask behind => exact behind

theorem quiet_part {part : CacheLog κ ι}
    (alone : ∀ label selection, (label, exchanged selection) ∈ part → label = some i)
    (idle : ∀ selection, exchanged selection ∉ eventsOf (some i) part) : Quiet part := by
  intro label selection mem
  obtain rfl := alone label selection mem
  exact idle selection (mem_eventsOf.2 mem)

theorem lone_course (h : Traced founding asked s) {log part : CacheLog κ ι} (split : s.log = log ++ part)
    (alone : ∀ label selection, (label, exchanged selection) ∈ part → label = some i)
    {r : Except CacheError Bool} (course : ReloadCourse (eventsOf (some i) part) r) :
    let active := activeAfter founding.first log
    (∀ b, r = .ok b → ∃ settings, (some i, loaded (.ok settings)) ∈ part ∧
        (b ↔ settings.backend ≠ active.kind) ∧ s.active.kind = settings.backend) ∧
      ∀ e, r = .error e → (∃ cause, (some i, loaded (.error cause)) ∈ part ∧ e = .settings cause) ∨
        ∃ settings, settings.backend ≠ active.kind ∧ MadeFrom part (some i) settings (.error e) := by
  intro active
  -- The selection that the reload reads is the one that was active before the part.
  have read : ∀ settings previous rest,
      eventsOf (some i) part = loaded (.ok settings) :: seen previous :: rest → previous = active := by
    intro settings previous rest events
    obtain ⟨front, back, rfl, ofFront, -⟩ := eventsOf_split [loaded (.ok settings)] rest events
    have quiet : Quiet front :=
      quiet_part (fun label selection mem => alone label selection (List.mem_append_left _ mem))
      fun selection mem => by simp [ofFront] at mem
    have seen := h.reads (log ++ front) (some i) previous back (by rw [split, List.append_assoc])
    rw [seen, activeAfter_append, activeAfter_quiet _ quiet]
  have idle : r ≠ .ok true → s.active = active := by
    intro other
    have quiet : Quiet part := quiet_part alone fun selection mem => other (course.exchanges mem)
    rw [h.active, split, activeAfter_append, activeAfter_quiet _ quiet]
  have stored : ∀ front selection,
      eventsOf (some i) part = front ++ [exchanged selection] → s.active = selection := by
    intro front selection events
    obtain ⟨before, after, rfl, -, ofAfter⟩ := eventsOf_split front [] events
    have quiet : Quiet after :=
      quiet_part (fun label selection mem => alone label selection (List.mem_append_right _ (.tail _ mem)))
        fun selection mem => by simp [ofAfter] at mem
    rw [h.active, split, ← List.append_assoc, activeAfter_exchanged _ quiet]
  have logged : ∀ e ∈ eventsOf (some i) part, (some i, e) ∈ part := fun e => mem_eventsOf.1
  refine ⟨?_, ?_⟩
  · rintro b rfl
    generalize eventsOf (some i) part = events at *
    cases course with
    | @unchanged settings previous same =>
      obtain rfl := read settings previous [] rfl
      refine ⟨settings, logged _ (.head _), by simp [same], ?_⟩
      rw [idle nofun, same]
    | @exchanged settings previous differs making selection made =>
      obtain rfl := read settings previous _ rfl
      refine ⟨settings, logged _ (.head _), by simp [differs], ?_⟩
      rw [stored (_ :: _ :: making) selection rfl, made.of_backend.1]
  · rintro e rfl
    generalize eventsOf (some i) part = events at *
    cases course with
    | unread cause => exact .inl ⟨cause, logged _ (.head _), rfl⟩
    | @unmade settings previous differs making _ failed =>
      obtain rfl := read settings previous making rfl
      exact .inr ⟨settings, differs, logged _ (.head _), making,
        fun e he => logged e (.tail _ (.tail _ he)), failed⟩

/-- The settings of a reload are compared with the selection that is active all along, when its steps lie in
a part of the schedule that has no steps of other reloads. -/
theorem lone_reload (h : Traced founding asked s) (reloads : asked i = .reload)
    (fresh : eventsOf (some i) s.log = []) (alone : ∀ step ∈ during, asked step.1 = .reload → step.1 = i)
    (later : ∀ step ∈ after, step.1 ≠ i) {r : Except CacheError Bool}
    (returned : ((s.run during).run after).calls i = .done (.reloaded r)) :
    let log := ((s.run during).run after).log
    (∀ b, r = .ok b → ∃ settings, (some i, loaded (.ok settings)) ∈ log ∧
        (b ↔ settings.backend ≠ s.active.kind) ∧ (s.run during).active.kind = settings.backend) ∧
      ∀ e, r = .error e → (∃ cause, (some i, loaded (.error cause)) ∈ log ∧ e = .settings cause) ∨
        ∃ settings, settings.backend ≠ s.active.kind ∧ MadeFrom log (some i) settings (.error e) := by
  intro log
  have traced := traced_run h during
  obtain ⟨part, split, labels⟩ := run_log s during
  obtain ⟨rest, whole, -⟩ := run_log (s.run during) after
  have course := reload_course traced reloads ((run_others _ later).1 ▸ returned)
  rw [split, eventsOf_append, fresh, List.nil_append] at course
  -- An exchange in the part is of a reload, and this is the only one with steps there.
  have only : ∀ label selection, (label, exchanged selection) ∈ part → label = some i := by
    intro label selection mem
    obtain ⟨front, back, rfl⟩ := List.append_of_mem mem
    obtain ⟨j, -, rfl, exchanges, -⟩ := exchange_logged traced (split.trans (List.append_assoc ..).symm)
    obtain ⟨step, scheduled, same⟩ := labels _ _ mem
    obtain rfl := Option.some.inj same
    rw [alone step scheduled exchanges]
  have sub : ∀ entry ∈ part, entry ∈ log := by
    intro entry mem
    rw [show log = _ from whole, split]
    exact List.mem_append_left _ (List.mem_append_right _ mem)
  obtain ⟨ok, error⟩ := lone_course traced split only course
  rw [← h.active] at ok error
  refine ⟨fun b returns => ?_, fun e fails => ?_⟩
  · obtain ⟨settings, loads, compared, selects⟩ := ok b returns
    exact ⟨settings, sub _ loads, compared, selects⟩
  · rcases error e fails with ⟨cause, fails, same⟩ | ⟨settings, differs, made⟩
    · exact .inl ⟨cause, sub _ fails, same⟩
    · exact .inr ⟨settings, differs, made.mono sub⟩

/-- In every run the active selection, at every point, was made for one value of the settings: it has the
backend in them, and so has its delegate, which makes tables through a connector for these settings, or none
where the backend has none. A reload that fails or answers `false` changes it in none of its steps, and every
other call keeps to the selection that is active at its first step. A reload that has no steps of other
reloads between its own answers whether the backend in its settings is another than the active one, which it
is afterwards; or it fails with its settings, or since a selection for another backend cannot be made. -/
theorem selections_stay_whole (founding : Founding κ) (asked : ι → CacheCall)
    (schedule : List (ι × CacheHost Id κ)) :
    let start := begun founding asked
    let s := start.run schedule
    (∃ label settings, MadeFrom s.log label settings (.ok s.active) ∧ s.active.kind = settings.backend ∧
      (settings.backend ∈ Backend.withCacheTables → ∃ connector,
        s.active.delegate = .tables settings.backend connector ∧
          (label, connected settings.backend settings (.ok (some connector))) ∈ s.log) ∧
      (settings.backend ∉ Backend.withCacheTables → s.active.delegate = .disabled settings.backend)) ∧
    (∀ i before world after, schedule = before ++ (i, world) :: after → asked i = .reload →
      ∀ r, s.calls i = .done (.reloaded r) → r ≠ .ok true →
        (start.run (before ++ [(i, world)])).active = (start.run before).active) ∧
    (∀ i u before world after, schedule = before ++ (i, world) :: after → asked i = .use u →
      (∀ step ∈ before, step.1 ≠ i) → ∃ rest,
        eventsOf (some i) s.log = seen (start.run before).active :: rest ∧
          Leads (u.against (start.run before).active) rest (s.calls i)) ∧
    (∀ i before during after, schedule = before ++ during ++ after → asked i = .reload →
      (∀ step ∈ before ++ after, step.1 ≠ i) → (∀ step ∈ during, asked step.1 = .reload → step.1 = i) →
      ∀ r, s.calls i = .done (.reloaded r) →
        (∀ b, r = .ok b → ∃ settings, (some i, loaded (.ok settings)) ∈ s.log ∧
          (b ↔ settings.backend ≠ (start.run before).active.kind) ∧
            (start.run (before ++ during)).active.kind = settings.backend) ∧
        (∀ e, r = .error e → (∃ cause, (some i, loaded (.error cause)) ∈ s.log ∧ e = .settings cause) ∨
          ∃ settings, settings.backend ≠ (start.run before).active.kind ∧
            MadeFrom s.log (some i) settings (.error e))) := by
  intro start s
  have traced : ∀ part, Traced founding asked (start.run part) := traced_run (traced_begun founding asked)
  refine ⟨?_, ?_, ?_, ?_⟩
  · obtain ⟨label, settings, made⟩ := selection_made (traced schedule)
    exact ⟨label, settings, made, made.of_backend⟩
  · rintro i before world after rfl reloads r returned idle
    rw [run_snoc]
    rw [show s = _ from run_split] at returned
    exact idle_reload (traced before) reloads returned idle
  · rintro i u before world after rfl uses first
    rw [show s = _ from run_split]
    exact use_whole (traced before) uses (not_begun founding asked first) world after
  · rintro i before during after rfl reloads own alone r returned
    have parts : s = ((start.run before).run during).run after := by
      rw [show s = _ from run_append, run_append]
    rw [parts] at returned ⊢
    rw [run_append]
    exact lone_reload (traced before) reloads
      (not_begun founding asked fun step mem => own step (List.mem_append_left _ mem)) alone
      (fun step mem => own step (List.mem_append_right _ mem)) returned

/-- A reload to a backend that there is no connector for. -/
def unconnectedReload : SharedSelector Unit Unit :=
  (begun .duckdb fun _ => .reload).run
    (List.replicate 3 ((), ⟨.ok { backend := .postgres }, fun _ _ => .ok none, fun _ _ => .ok ()⟩))

/-- It loads another backend than the active one and does not answer `true`. -/
theorem unconnectedReload_fails :
    (some (), loaded (.ok { backend := .postgres })) ∈ unconnectedReload.log ∧
      unconnectedReload.active.kind = .duckdb ∧
      unconnectedReload.calls () = .done (.reloaded (.error (.withoutConnector .postgres))) ∧
      ¬ (unconnectedReload.calls () = .done (.reloaded (.ok true)) ↔ Backend.postgres ≠ .duckdb) := by
  have returned : unconnectedReload.calls () = .done (.reloaded (.error (.withoutConnector .postgres))) := rfl
  refine ⟨.tail _ (.head _), rfl, returned, fun differs => ?_⟩
  have swapped := returned.symm.trans (differs.2 (by decide))
  cases swapped

end SharedSelector

end QueryBridge
