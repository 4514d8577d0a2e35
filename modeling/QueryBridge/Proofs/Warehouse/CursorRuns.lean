import QueryBridge.Proofs.Warehouse.Cursor

set_option autoImplicit false

namespace QueryBridge

def CursorOutcome.failure? : CursorOutcome → Option WarehouseError
  | vanished => some Cursor.endedEarly
  | refused e => some e
  | opened _ _ => none

def CursorWorker.silent : CursorWorker → Bool
  | preparing | reporting _ => true
  | _ => false

def CursorReply.item? : CursorReply → Option (Except WarehouseError Row)
  | answer a => a
  | _ => none

def CursorCaller.inHand : CursorCaller → Option (Except WarehouseError Row)
  | hangingUp reply | releasing reply | joining reply => reply.item?
  | _ => none

namespace Cursor

def AllRows (items : List (Except WarehouseError Row)) : Prop := ∀ item ∈ items, Answer.isRow (some item)

variable {o : CursorOutcome} {s : Cursor} {n : Nat} {item : Except WarehouseError Row}

/-- What was fetched and received, by where the worker is. -/
def WorkerAt (o : CursorOutcome) (s : Cursor) : Prop :=
  match s.worker with
  | .preparing => s.fetched = [] ∧ s.slot = none ∧ s.caller = .waiting
  | .reporting report => s.fetched = [] ∧ s.slot = none ∧ s.caller = .waiting ∧ o.report? = some report
  | .fetching n => s.received = s.fetched ∧ n = s.fetched.length ∧ AllRows s.fetched
  | .offering n item =>
    s.fetched = s.received ++ [item] ∧ n = s.received.length ∧ AllRows s.received ∧ o.answer n = some item
  | .leaving | .ending | .exited =>
    s.receiver → s.received = s.fetched ∧ (AllRows s.received → o.answer s.received.length = none)

def Opened (o : CursorOutcome) (s : Cursor) : Prop :=
  ∃ columns, o.report? = some (.ok columns) ∧ s.columns? = some columns

/-- A query fails only as its statement does. -/
def Replies (o : CursorOutcome) (s : Cursor) : CursorReply → Prop
  | .failed e => o.failure? = some e
  | _ => Opened o s

def Untouched (s : Cursor) : Prop :=
  s.receiver ∧ s.guard = .armed ∧ s.received = [] ∧ s.log = [] ∧ s.calls = [] ∧ s.answers = []

/-- What the caller still holds, by where it is. -/
def CallerAt (o : CursorOutcome) (s : Cursor) : Prop :=
  match s.caller with
  | .waiting => Untouched s ∧ (s.worker.silent ∨ s.slot = o.report?)
  | .idle => Opened o s ∧ s.guard.pending = s.receiver ∧ (s.receiver → AllRows s.received)
  | .receiving => Opened o s ∧ s.receiver ∧ s.guard.pending ∧ AllRows s.received
  | .hangingUp reply => Replies o s reply ∧ s.guard.pending = s.receiver
  | .releasing reply => Replies o s reply ∧ s.receiver = false
  | .joining reply => Replies o s reply ∧ s.receiver = false ∧ s.guard.pending = false
  | .gone failure? => s.receiver = false ∧ s.guard.pending = false ∧ ∀ e, failure? = some e → o.failure? = some e

/-- The invariant of a cursor. -/
structure Sound (o : CursorOutcome) (s : Cursor) : Prop where
  fetched : s.fetched.map some = (List.range s.fetched.length).map o.answer
  rows : AllRows s.fetched.dropLast
  received : s.received <+: s.fetched
  ahead : s.fetched.length ≤ s.received.length + 1
  answered : s.received = s.answers.filterMap id ++ s.caller.inHand.toList
  worker : WorkerAt o s
  caller : CallerAt o s

theorem sound_start (o : CursorOutcome) : Sound o start where
  fetched := rfl
  rows := nofun
  received := List.prefix_rfl
  ahead := Nat.zero_le _
  answered := rfl
  worker := ⟨rfl, rfl, rfl⟩
  caller := ⟨⟨rfl, rfl, rfl, rfl, rfl, rfl⟩, .inl rfl⟩

/-- A step of the worker behind its report concerns nothing that the caller holds. -/
theorem CallerAt.worker_moved (h : CallerAt o s) (spoken : s.worker.silent = false) (w : CursorWorker)
    (fetched : List (Except WarehouseError Row)) : CallerAt o { s with worker := w, fetched := fetched } := by
  unfold CallerAt at h ⊢
  dsimp only
  split at h
  case h_1 =>
    obtain ⟨untouched, silent | slot⟩ := h
    · exact (Bool.false_ne_true (spoken.symm.trans silent)).elim
    · exact ⟨untouched, .inr slot⟩
  all_goals exact h

theorem Sound.worker_moved (h : Sound o s) (spoken : s.worker.silent = false) (w : CursorWorker)
    (worker : WorkerAt o { s with worker := w }) : Sound o { s with worker := w } :=
  { h with worker, caller := h.caller.worker_moved spoken w s.fetched }

theorem answer_unreported {o : CursorOutcome} (h : ∀ columns, o.report? ≠ some (.ok columns)) (n : Nat) :
    o.answer n = none := by
  cases o with
  | opened columns answers => exact (h columns rfl).elim
  | _ => rfl

theorem sound_work (h : Sound o s) : Sound o (s.work o) := by
  have worker := h.worker
  have caller := h.caller
  have nothing_received : s.fetched = [] → s.received = [] := fun nothing =>
    List.prefix_nil.1 (nothing ▸ h.received)
  unfold WorkerAt at worker
  unfold work
  cases now : s.worker with
  | preparing =>
    rw [now] at worker
    obtain ⟨nothing, slot, waiting⟩ := worker
    simp only [CallerAt, waiting] at caller
    cases report : o.report? with
    | none =>
      refine { h with worker := fun _ => ⟨?_, fun _ => answer_unreported (by simp [report]) _⟩, caller := ?_ }
      · rw [nothing, nothing_received nothing]
      · simp only [CallerAt, waiting]
        exact ⟨caller.1, .inr (slot.trans report.symm)⟩
    | some r =>
      refine { h with worker := ⟨nothing, slot, waiting, report⟩, caller := ?_ }
      simp only [CallerAt, waiting]
      exact ⟨caller.1, .inl rfl⟩
  | reporting report =>
    rw [now] at worker
    obtain ⟨nothing, slot, waiting, reports⟩ := worker
    have answered : s.received = s.answers.filterMap id ++ CursorCaller.waiting.inHand.toList := waiting ▸ h.answered
    simp only [CallerAt, waiting] at caller
    dsimp only
    rw [waiting]
    cases report with
    | ok columns =>
      refine { h with
        answered := answered, worker := ⟨?_, ?_, ?_⟩, caller := ⟨caller.1, .inr reports.symm⟩ }
      · rw [nothing, nothing_received nothing]
      · exact (congrArg List.length nothing).symm
      · rw [nothing]
        exact nofun
    | error e =>
      refine { h with
        answered := answered, worker := fun _ => ⟨?_, fun _ => ?_⟩, caller := ⟨caller.1, .inr reports.symm⟩ }
      · rw [nothing, nothing_received nothing]
      · exact answer_unreported (by simp [reports]) _
  | fetching n =>
    rw [now] at worker
    obtain ⟨received, rfl, rows⟩ := worker
    have spoken : s.worker.silent = false := by rw [now]; rfl
    dsimp only
    cases answers : o.answer s.fetched.length with
    | none => exact h.worker_moved spoken .leaving fun _ => ⟨received, fun _ => received ▸ answers⟩
    | some item =>
      -- Only here the fetched rows grow, by what the statement gives next.
      exact {
        fetched := by
          rw [List.map_append, h.fetched, List.length_append, List.length_singleton, List.range_succ,
            List.map_append, List.map_singleton, List.map_singleton, answers]
        rows := by rwa [List.dropLast_concat]
        received := h.received.trans (List.prefix_append _ _)
        ahead := by rw [received, List.length_append, List.length_singleton]
        answered := h.answered
        worker := ⟨by rw [received], by rw [received], by rwa [received], answers⟩
        caller := caller.worker_moved spoken _ _ }
  | offering n item =>
    rw [now] at worker
    dsimp only
    split
    · exact h
    -- The row is lost, and there is nobody who could miss it.
    case isFalse lost => exact h.worker_moved (by rw [now]; rfl) .leaving fun receiver => (lost receiver).elim
  | leaving => exact h.worker_moved (by rw [now]; rfl) .ending (by rw [now] at worker; exact worker)
  | ending => exact h.worker_moved (by rw [now]; rfl) .exited (by rw [now] at worker; exact worker)
  | exited => exact h

theorem Sound.spoken (h : Sound o s) (back : s.caller ≠ .waiting ∨ s.slot ≠ none) : s.worker.silent = false := by
  have worker := h.worker
  unfold WorkerAt at worker
  cases now : s.worker with
  | preparing => rw [now] at worker; exact (back.elim (· worker.2.2) (· worker.2.1)).elim
  | reporting report => rw [now] at worker; exact (back.elim (· worker.2.2.1) (· worker.2.1)).elim
  | _ => rfl

theorem Sound.caller_moved (h : Sound o s) (spoken : s.worker.silent = false) {s' : Cursor}
    (worker : s'.worker = s.worker) (fetched : s'.fetched = s.fetched) (received : s'.received = s.received)
    (receiver : s'.receiver → s.receiver)
    (answered : s'.answers.filterMap id ++ s'.caller.inHand.toList = s.answers.filterMap id ++ s.caller.inHand.toList)
    (caller : CallerAt o s') : Sound o s' where
  fetched := fetched ▸ h.fetched
  rows := fetched ▸ h.rows
  received := fetched ▸ received ▸ h.received
  ahead := by rw [fetched, received]; exact h.ahead
  answered := by rw [received, answered]; exact h.answered
  worker := by
    have here := h.worker
    unfold WorkerAt at here ⊢
    rw [worker, fetched, received]
    cases now : s.worker with
    | preparing | reporting => rw [now] at spoken; cases spoken
    | fetching n => rw [now] at here; exact here
    | offering n item => rw [now] at here; exact here
    | leaving | ending | exited => rw [now] at here; exact fun still => here (receiver still)
  caller := caller

theorem callerAt_finish {reply : CursorReply} (replies : Replies o s reply) (receiver : s.receiver = false)
    (guard : s.guard.pending = false) : CallerAt o (s.finish reply) := by
  cases reply with
  | answer | closed =>
    exact ⟨replies, guard.trans receiver.symm, fun still => (Bool.false_ne_true (receiver.symm.trans still)).elim⟩
  | dropped => exact ⟨receiver, guard, nofun⟩
  | failed e => exact ⟨receiver, guard, fun _ same => Option.some.inj same ▸ replies⟩

theorem finish_answered (s : Cursor) (reply : CursorReply) :
    (s.finish reply).answers.filterMap id ++ (s.finish reply).caller.inHand.toList =
      s.answers.filterMap id ++ reply.item?.toList := by
  cases reply with
  | answer a =>
    show (s.answers ++ [a]).filterMap id ++ [] = s.answers.filterMap id ++ a.toList
    rw [List.append_nil, List.filterMap_append]
    cases a <;> rfl
  | _ => rfl

theorem Sound.finished (h : Sound o s) (spoken : s.worker.silent = false) {reply : CursorReply}
    (inHand : s.caller.inHand = reply.item?) (replies : Replies o s reply) (receiver : s.receiver = false)
    (guard : s.guard.pending = false) : Sound o (s.finish reply) := by
  refine h.caller_moved spoken ?_ ?_ ?_ ?_ (inHand ▸ finish_answered s reply)
    (callerAt_finish replies receiver guard) <;> cases reply <;> first | rfl | exact id

theorem failure_unreported (h : o.report? = none) : o.failure? = some endedEarly := by
  cases o with
  | vanished => rfl
  | refused | opened => cases h

theorem failure_reported {e : WarehouseError} (h : o.report? = some (.error e)) : o.failure? = some e := by
  cases o with
  | refused => cases h; rfl
  | vanished | opened => cases h

/-- The query takes the report, or finds that there will be none. -/
theorem sound_wait (h : Sound o s) (now : s.caller = .waiting) : Sound o s.proceed := by
  have caller := h.caller
  unfold CallerAt at caller
  unfold proceed
  rw [now] at caller ⊢
  obtain ⟨untouched, reported⟩ := caller
  have held : s.guard.pending = s.receiver := by rw [untouched.2.1, untouched.1]; rfl
  have reports : s.worker.silent = false → s.slot = o.report? := fun spoken =>
    reported.resolve_left (by simp [spoken])
  dsimp only
  cases slot : s.slot with
  | some report =>
    have spoken := h.spoken (.inr (slot ▸ nofun))
    have taken : o.report? = some report := (reports spoken).symm.trans slot
    cases report with
    | ok columns =>
      refine h.caller_moved spoken rfl rfl rfl id (by rw [now]; rfl) ⟨⟨columns, taken, rfl⟩, held, fun _ => ?_⟩
      show AllRows s.received
      rw [untouched.2.2.1]
      exact nofun
    | error e => exact h.caller_moved spoken rfl rfl rfl id (by rw [now]; rfl) ⟨failure_reported taken, held⟩
  | none =>
    dsimp only
    split
    case isFalse => exact h
    case isTrue hungUp =>
      have spoken : s.worker.silent = false := by
        cases ended : s.worker <;> rw [ended] at hungUp <;> first | rfl | cases hungUp
      exact h.caller_moved spoken rfl rfl rfl id (by rw [now]; rfl)
        ⟨failure_unreported ((reports spoken).symm.trans slot), held⟩

theorem sound_receive (h : Sound o s) (now : s.caller = .receiving) : Sound o s.proceed := by
  have worker := h.worker
  have caller := h.caller
  unfold CallerAt at caller
  unfold proceed
  rw [now] at caller ⊢
  obtain ⟨opened, receiver, guard, rows⟩ := caller
  have held : s.guard.pending = s.receiver := guard.trans receiver.symm
  have answered : s.received = s.answers.filterMap id := by
    have here := h.answered
    rw [now] at here
    exact here.trans (List.append_nil _)
  dsimp only
  cases step : s.worker with
  | offering n item =>
    unfold WorkerAt at worker
    rw [step] at worker
    obtain ⟨fetched, number, -, -⟩ := worker
    have length : n + 1 = s.fetched.length := by
      rw [number, fetched, List.length_append, List.length_singleton]
    have more_answered : s.received ++ [item] = s.answers.filterMap id ++ [item] := congrArg (· ++ [item]) answered
    have taken : s.received ++ [item] <+: s.fetched := fetched ▸ List.prefix_rfl
    have ahead : s.fetched.length ≤ (s.received ++ [item]).length + 1 := fetched ▸ Nat.le_succ _
    cases item with
    | ok row =>
      have more : AllRows (s.received ++ [.ok row]) :=
        List.forall_mem_append.2 ⟨rows, List.forall_mem_singleton.2 rfl⟩
      exact { h with
        received := taken
        ahead := ahead
        answered := more_answered.trans (finish_answered s (.answer (some (.ok row)))).symm
        worker := ⟨fetched.symm, length, fetched ▸ more⟩
        caller := ⟨opened, held, fun _ => more⟩ }
    | error e =>
      -- Behind a failure the worker ends although the statement might go on.
      exact { h with
        received := taken
        ahead := ahead
        answered := more_answered
        worker := fun _ => ⟨fetched.symm, fun rows => nomatch (List.forall_mem_append.1 rows).2 _ (.head _)⟩
        caller := ⟨opened, held⟩ }
  | ending | exited =>
    exact h.caller_moved (by rw [step]; rfl) step.symm rfl rfl id (by rw [now]; rfl) ⟨opened, held⟩
  | preparing | reporting | fetching | leaving => exact h

theorem sound_proceed (h : Sound o s) : Sound o s.proceed := by
  have caller := h.caller
  unfold CallerAt at caller
  by_cases waiting : s.caller = .waiting
  · exact sound_wait h waiting
  -- Only a query waits for the report, so that from here on it has been given.
  have spoken := h.spoken (.inl waiting)
  by_cases receiving : s.caller = .receiving
  · exact sound_receive h receiving
  unfold proceed
  cases now : s.caller with
  | waiting => exact (waiting now).elim
  | receiving => exact (receiving now).elim
  | hangingUp reply =>
    rw [now] at caller
    exact h.caller_moved spoken rfl rfl rfl nofun (by rw [now]; rfl) ⟨caller.1, rfl⟩
  | releasing reply =>
    rw [now] at caller
    have released : Sound o { s with
        guard := s.guard.release.1, log := s.log ++ s.guard.release.2, caller := .joining reply } :=
      h.caller_moved spoken rfl rfl rfl id (by rw [now]; rfl) ⟨caller.1, caller.2, rfl⟩
    dsimp only
    split
    · exact released
    · exact released.finished spoken rfl caller.1 caller.2 rfl
  | joining reply =>
    rw [now] at caller
    dsimp only
    split
    · exact h.finished spoken (by rw [now]; rfl) caller.1 caller.2.1 caller.2.2
    · exact h
  | idle => exact h
  | gone failure => exact h

theorem sound_begin (h : Sound o s) (c : StreamCall) : Sound o (s.begin c) := by
  have caller := h.caller
  unfold CallerAt at caller
  unfold begin
  cases now : s.caller with
  | idle =>
    rw [now] at caller
    obtain ⟨opened, held, rows⟩ := caller
    have spoken := h.spoken (.inl (now ▸ nofun))
    cases c with
    | next =>
      dsimp only
      split
      case isTrue receiver =>
        exact h.caller_moved spoken rfl rfl rfl id (by rw [now]; rfl)
          ⟨opened, receiver, held.trans receiver, rows receiver⟩
      case isFalse closed =>
        have receiver : s.receiver = false := Bool.eq_false_iff.2 closed
        exact h.finished spoken (by rw [now]; rfl) opened receiver (held.trans receiver)
    | close => exact h.caller_moved spoken rfl rfl rfl id (by rw [now]; rfl) ⟨opened, held⟩
  | _ => cases c <;> exact h

theorem sound_drop (h : Sound o s) : Sound o s.drop := by
  have caller := h.caller
  unfold CallerAt at caller
  unfold drop
  cases now : s.caller with
  | idle =>
    rw [now] at caller
    exact h.caller_moved (h.spoken (.inl (now ▸ nofun))) rfl rfl rfl id (by rw [now]; rfl)
      ⟨caller.1, caller.2.1⟩
  | _ => exact h

theorem sound_move (h : Sound o s) (m : CursorMove) : Sound o (s.move o m) := by
  cases m with
  | work => exact sound_work h
  | proceed => exact sound_proceed h
  | call c => exact sound_begin h c
  | drop => exact sound_drop h

theorem sound_run (o : CursorOutcome) (moves : List CursorMove) : Sound o (run o moves) := by
  suffices ∀ s, Sound o s → Sound o (moves.foldl (move o) s) from this start (sound_start o)
  induction moves with
  | nil => exact fun s h => h
  | cons m rest ih => exact fun s h => ih (s.move o m) (sound_move h m)

end Cursor

end QueryBridge
