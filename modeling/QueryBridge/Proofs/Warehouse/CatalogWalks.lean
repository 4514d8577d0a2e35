import QueryBridge.Warehouse.Schema

set_option autoImplicit false

namespace QueryBridge.CatalogSession

variable {σ ε : Type} {session : CatalogSession (ExceptT ε (StateM σ))}

/-- From one state to another, a session reports the columns of each table in turn. -/
inductive Reports (session : CatalogSession (ExceptT ε (StateM σ))) :
    σ → List TableName → List (List SourceColumn) → σ → Prop
  | nil (s : σ) : Reports session s [] [] s
  | cons {s s₁ s₂ : σ} {t : TableName} {ts : List TableName} {columns : List SourceColumn}
      {answers : List (List SourceColumn)} (reported : (session.columns t).run.run s = (.ok columns, s₁))
      (rest : Reports session s₁ ts answers s₂) : Reports session s (t :: ts) (columns :: answers) s₂

/-- One row for each column that was reported of each table: the three names of the table between double quotes, and
the column as it was reported. -/
def listings (ts : List TableName) (answers : List (List SourceColumn)) : List ColumnListing :=
  (ts.zip answers).flatMap fun (t, columns) => columns.map fun c =>
    { catalog := "\"" ++ t.catalog ++ "\"", schema := "\"" ++ t.schema ++ "\"", table := "\"" ++ t.name ++ "\"",
      column := { name := c.name, ordinal := c.ordinal, nullable := c.nullable, dataType := c.dataType } }

theorem listings_cons (t : TableName) (ts : List TableName) (columns : List SourceColumn)
    (answers : List (List SourceColumn)) :
    listings (t :: ts) (columns :: answers) = columns.map t.listing ++ listings ts answers := rfl

theorem mem_listings {ts : List TableName} {answers : List (List SourceColumn)} {row : ColumnListing}
    (mem : row ∈ listings ts answers) : ∃ t ∈ ts, row = t.listing row.column := by
  obtain ⟨⟨t, columns⟩, pair, mem⟩ := List.mem_flatMap.1 mem
  obtain ⟨c, -, rfl⟩ := List.mem_map.1 mem
  exact ⟨t, (List.of_mem_zip pair).1, rfl⟩

theorem Reports.length {s s' : σ} {ts : List TableName} {answers : List (List SourceColumn)}
    (reports : Reports session s ts answers s') : answers.length = ts.length := by
  induction reports with
  | nil => rfl
  | cons _ _ ih => simp [ih]

/-- A session reports on all tables, or on those before the first one at which it fails. -/
theorem reports_or_fails (ts : List TableName) (s : σ) :
    (∃ answers s', Reports session s ts answers s') ∨
      ∃ before t after answers s₁ e s', ts = before ++ t :: after ∧ Reports session s before answers s₁ ∧
        (session.columns t).run.run s₁ = (.error e, s') := by
  induction ts generalizing s with
  | nil => exact .inl ⟨[], s, .nil s⟩
  | cons t ts ih =>
    rcases asked : (session.columns t).run.run s with ⟨e | columns, s₁⟩
    · exact .inr ⟨[], t, ts, [], s, e, s₁, rfl, .nil s, asked⟩
    · rcases ih s₁ with ⟨answers, s', reports⟩ | ⟨before, t', after, answers, s₂, e, s', rfl, reports, failed⟩
      · exact .inl ⟨columns :: answers, s', .cons asked reports⟩
      · exact .inr ⟨t :: before, t', after, columns :: answers, s₂, e, s', rfl, .cons asked reports, failed⟩

inductive Call where
  | forget
  | tables
  | columns (t : TableName)
  deriving DecidableEq, Repr

/-- How a walk can go from a state on: what comes of it, the state that it leaves, and the calls that it makes. -/
inductive Course (session : CatalogSession (ExceptT ε (StateM σ))) (s : σ) :
    Except ε (List ColumnListing) → σ → List Call → Prop
  | unforgotten {e : ε} {s' : σ} (failed : session.forget.run.run s = (.error e, s')) :
      Course session s (.error e) s' [.forget]
  | unlisted {s₁ s' : σ} {e : ε} (forgot : session.forget.run.run s = (.ok (), s₁))
      (failed : session.tables.run.run s₁ = (.error e, s')) : Course session s (.error e) s' [.forget, .tables]
  | cut {s₁ s₂ s₃ s' : σ} {before after : List TableName} {t : TableName} {answers : List (List SourceColumn)} {e : ε}
      (forgot : session.forget.run.run s = (.ok (), s₁))
      (listed : session.tables.run.run s₁ = (.ok (before ++ t :: after), s₂))
      (reports : Reports session s₂ before answers s₃)
      (failed : (session.columns t).run.run s₃ = (.error e, s')) :
      Course session s (.error e) s' (.forget :: .tables :: (before ++ [t]).map .columns)
  | whole {s₁ s₂ s' : σ} {ts : List TableName} {answers : List (List SourceColumn)}
      (forgot : session.forget.run.run s = (.ok (), s₁)) (listed : session.tables.run.run s₁ = (.ok ts, s₂))
      (reports : Reports session s₂ ts answers s') :
      Course session s (.ok (listings ts answers)) s' (.forget :: .tables :: ts.map .columns)

theorem course_exists (session : CatalogSession (ExceptT ε (StateM σ))) (s : σ) :
    ∃ r s' calls, Course session s r s' calls := by
  rcases forgot : session.forget.run.run s with ⟨e | ⟨⟩, s₁⟩
  · exact ⟨_, _, _, .unforgotten forgot⟩
  rcases listed : session.tables.run.run s₁ with ⟨e | ts, s₂⟩
  · exact ⟨_, _, _, .unlisted forgot listed⟩
  rcases reports_or_fails ts s₂ with
    ⟨answers, s', reports⟩ | ⟨before, t, after, answers, s₃, e, s', rfl, reports, failed⟩
  · exact ⟨_, _, _, .whole forgot listed reports⟩
  · exact ⟨_, _, _, .cut forgot listed reports failed⟩

theorem run_bind {α β : Type} (x : ExceptT ε (StateM σ) α) (f : α → ExceptT ε (StateM σ) β) (s : σ) :
    (x >>= f).run.run s = match x.run.run s with
      | (.ok a, s₁) => (f a).run.run s₁
      | (.error e, s₁) => (.error e, s₁) := by
  simp only [ExceptT.run_bind, StateT.run_bind]
  change (match x.run.run s with | (r, s₁) => _) = _
  rcases x.run.run s with ⟨e | a, s₁⟩ <;> rfl

theorem Reports.run_append {s s₁ : σ} {before : List TableName} {answers : List (List SourceColumn)}
    (reports : Reports session s before answers s₁) (after : List TableName) :
    (session.listTables (before ++ after)).run.run s = match (session.listTables after).run.run s₁ with
      | (.ok rows, s') => (.ok (listings before answers ++ rows), s')
      | (.error e, s') => (.error e, s') := by
  induction reports with
  | nil s =>
    rcases ran : (session.listTables after).run.run s with ⟨e | rows, s'⟩ <;> simp [listings, ran]
  | @cons s s₁ s₂ t ts columns answers reported _ ih =>
    rw [List.cons_append, listTables, run_bind, reported]
    change
      (session.listTables (ts ++ after) >>= fun others => pure (columns.map t.listing ++ others)).run.run s₁ = _
    rw [run_bind, ih]
    rcases (session.listTables after).run.run s₂ with ⟨e | rows, s'⟩
    · rfl
    · have together : columns.map t.listing ++ (listings ts answers ++ rows) =
          listings (t :: ts) (columns :: answers) ++ rows := by
        rw [listings_cons, List.append_assoc]
      exact congrArg (fun rows => (Except.ok rows, s')) together

theorem Reports.run {s s' : σ} {ts : List TableName} {answers : List (List SourceColumn)}
    (reports : Reports session s ts answers s') :
    (session.listTables ts).run.run s = (.ok (listings ts answers), s') := by
  have ran := reports.run_append []
  rw [List.append_nil] at ran
  rw [ran]
  change (Except.ok (listings ts answers ++ []), s') = _
  rw [List.append_nil]

theorem Reports.run_failed {s s₁ s' : σ} {before after : List TableName} {t : TableName}
    {answers : List (List SourceColumn)} {e : ε} (reports : Reports session s before answers s₁)
    (failed : (session.columns t).run.run s₁ = (.error e, s')) :
    (session.listTables (before ++ t :: after)).run.run s = (.error e, s') := by
  rw [reports.run_append, listTables, run_bind, failed]

theorem Course.run {s s' : σ} {r : Except ε (List ColumnListing)} {calls : List Call}
    (course : Course session s r s' calls) : session.listColumns.run.run s = (r, s') := by
  rw [listColumns, run_bind]
  cases course with
  | unforgotten failed => rw [failed]
  | unlisted forgot failed =>
    rw [forgot]
    exact (run_bind _ _ _).trans (by rw [failed])
  | cut forgot listed reports failed =>
    rw [forgot]
    exact (run_bind _ _ _).trans (by rw [listed]; exact reports.run_failed failed)
  | whole forgot listed reports =>
    rw [forgot]
    exact (run_bind _ _ _).trans (by rw [listed]; exact reports.run)

theorem reports_of_run_ok {s s' : σ} {rows : List ColumnListing}
    (ran : session.listColumns.run.run s = (.ok rows, s')) :
    ∃ s₁ ts s₂ answers, session.forget.run.run s = (.ok (), s₁) ∧ session.tables.run.run s₁ = (.ok ts, s₂) ∧
      Reports session s₂ ts answers s' ∧ rows = listings ts answers := by
  obtain ⟨r, _, _, course⟩ := course_exists session s
  have same := ran.symm.trans course.run
  cases course with
  | whole forgot listed reports =>
    obtain ⟨rows, rfl⟩ := Prod.mk.inj same
    exact ⟨_, _, _, _, forgot, listed, reports, Except.ok.inj rows⟩
  | _ => exact absurd (Prod.mk.inj same).1 nofun

/-- The call, with a record of it behind those before it. -/
def recording {α : Type} (c : Call) (x : ExceptT ε (StateM σ) α) : ExceptT ε (StateM (σ × List Call)) α :=
  ExceptT.mk fun p => (((x.run.run p.1).1), ((x.run.run p.1).2, p.2 ++ [c]))

/-- The session, with a record of what is asked of it. -/
def recorded (session : CatalogSession (ExceptT ε (StateM σ))) :
    CatalogSession (ExceptT ε (StateM (σ × List Call))) where
  forget := recording .forget session.forget
  tables := recording .tables session.tables
  columns t := recording (.columns t) (session.columns t)

theorem run_recording {α : Type} {c : Call} {x : ExceptT ε (StateM σ) α} {s s' : σ} {r : Except ε α}
    (ran : x.run.run s = (r, s')) (log : List Call) :
    (recording c x).run.run (s, log) = (r, (s', log ++ [c])) := by
  change ((x.run.run s).1, ((x.run.run s).2, log ++ [c])) = _
  rw [ran]

theorem Reports.recorded {s s' : σ} {ts : List TableName} {answers : List (List SourceColumn)}
    (reports : Reports session s ts answers s') (log : List Call) :
    Reports session.recorded (s, log) ts answers (s', log ++ ts.map .columns) := by
  induction reports generalizing log with
  | nil s =>
    rw [List.map_nil, List.append_nil]
    exact .nil _
  | @cons s s₁ s₂ t ts columns answers reported _ ih =>
    have rest := ih (log ++ [Call.columns t])
    rw [List.append_assoc] at rest
    exact .cons (run_recording reported log) rest

theorem Course.recorded {s s' : σ} {r : Except ε (List ColumnListing)} {calls : List Call}
    (course : Course session s r s' calls) (log : List Call) :
    Course session.recorded (s, log) r (s', log ++ calls) calls := by
  cases course with
  | unforgotten failed => exact .unforgotten (run_recording failed log)
  | unlisted forgot failed =>
    have failed := run_recording (c := .tables) failed (log ++ [Call.forget])
    rw [List.append_assoc] at failed
    exact .unlisted (run_recording forgot log) failed
  | @cut s₁ s₂ s₃ s' before after t answers e forgot listed reports failed =>
    have listed := run_recording (c := .tables) listed (log ++ [Call.forget])
    have reports := reports.recorded (log ++ [Call.forget] ++ [Call.tables])
    have failed := run_recording (c := .columns t) failed
      (log ++ [Call.forget] ++ [Call.tables] ++ before.map Call.columns)
    have calls : log ++ [Call.forget] ++ [Call.tables] ++ before.map Call.columns ++ [Call.columns t] =
        log ++ Call.forget :: Call.tables :: (before ++ [t]).map Call.columns := by simp
    exact .cut (run_recording forgot log) listed reports (calls ▸ failed)
  | @whole s₁ s₂ s' ts answers forgot listed reports =>
    have listed := run_recording (c := .tables) listed (log ++ [Call.forget])
    have reports := reports.recorded (log ++ [Call.forget] ++ [Call.tables])
    have calls : log ++ [Call.forget] ++ [Call.tables] ++ ts.map Call.columns =
        log ++ Call.forget :: Call.tables :: ts.map Call.columns := by simp
    exact .whole (run_recording forgot log) listed (calls ▸ reports)

/-- A walk has one course, and follows it: it makes the calls of the course, comes to its result and leaves its
state. -/
theorem walk_follows_course (session : CatalogSession (ExceptT ε (StateM σ))) (s : σ) (log : List Call) :
    ∃ r s' calls, Course session s r s' calls ∧
      session.recorded.listColumns.run.run (s, log) = (r, (s', log ++ calls)) ∧
      session.listColumns.run.run s = (r, s') ∧
      ∀ r₁ s₁ calls₁, Course session s r₁ s₁ calls₁ → r₁ = r ∧ s₁ = s' ∧ calls₁ = calls := by
  obtain ⟨r, s', calls, course⟩ := course_exists session s
  have ran : session.recorded.listColumns.run.run (s, log) = (r, (s', log ++ calls)) := (course.recorded log).run
  refine ⟨r, s', calls, course, ran, course.run, fun r₁ s₁ calls₁ other => ?_⟩
  have same : (r₁, (s₁, log ++ calls₁)) = (r, (s', log ++ calls)) := (other.recorded log).run.symm.trans ran
  obtain ⟨results, states⟩ := Prod.mk.inj same
  obtain ⟨states, logs⟩ := Prod.mk.inj states
  exact ⟨results, states, List.append_cancel_left logs⟩

end QueryBridge.CatalogSession
