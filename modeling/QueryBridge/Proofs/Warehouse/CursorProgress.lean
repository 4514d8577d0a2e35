import QueryBridge.Proofs.Warehouse.CursorRuns

set_option autoImplicit false

namespace QueryBridge

namespace Cursor

variable {o : CursorOutcome} {s : Cursor}

def busy (s : Cursor) : Bool :=
  match s.caller with
  | .idle | .gone _ => false
  | _ => true

def workerLeft : CursorWorker → Nat
  | .preparing => 6
  | .reporting _ => 5
  | .fetching _ => 4
  | .offering _ _ => 3
  | .leaving => 2
  | .ending => 1
  | .exited => 0

def callerLeft : CursorCaller → Nat
  | .waiting => 5
  | .receiving => 4
  | .hangingUp _ => 3
  | .releasing _ => 2
  | .joining _ => 1
  | .idle | .gone _ => 0

/-- Every step of either party within a call lowers it: what a call lets the worker do again weighs less than
a step of the call. -/
def remaining (s : Cursor) : Nat := 10 * callerLeft s.caller + workerLeft s.worker

theorem remaining_lt {s s' : Cursor} (h : callerLeft s'.caller < callerLeft s.caller) :
    s'.remaining < s.remaining := by
  have worker : workerLeft s'.worker ≤ 6 := by cases s'.worker <;> simp [workerLeft]
  unfold remaining
  omega

theorem finish_lt {s : Cursor} (reply : CursorReply) (h : 0 < callerLeft s.caller) :
    (s.finish reply).remaining < s.remaining :=
  remaining_lt (by cases reply <;> exact h)

theorem remaining_work (o : CursorOutcome) (s : Cursor) : s.work o = s ∨ (s.work o).remaining < s.remaining := by
  unfold work
  cases now : s.worker with
  | preparing => cases o.report? <;> exact .inr (by simp [remaining, workerLeft, now])
  | reporting report => dsimp only; split <;> exact .inr (by simp [remaining, workerLeft, now])
  | fetching n => dsimp only; split <;> exact .inr (by simp [remaining, workerLeft, now])
  | offering n item =>
    dsimp only
    split
    · exact .inl rfl
    · exact .inr (by simp [remaining, workerLeft, now])
  | leaving | ending => exact .inr (by simp [remaining, workerLeft, now])
  | exited => exact .inl rfl

theorem remaining_proceed (s : Cursor) : s.proceed = s ∨ s.proceed.remaining < s.remaining := by
  unfold proceed
  cases now : s.caller with
  | waiting =>
    dsimp only
    split
    · exact .inr (remaining_lt (by simp [callerLeft, now]))
    · exact .inr (remaining_lt (by simp [callerLeft, now]))
    · split
      · exact .inr (remaining_lt (by simp [callerLeft, now]))
      · exact .inl rfl
  | receiving =>
    cases s.worker with
    | offering n item => cases item <;> exact .inr (remaining_lt (by simp [callerLeft, finish, now]))
    | ending | exited => exact .inr (remaining_lt (by simp [callerLeft, now]))
    | _ => exact .inl rfl
  | hangingUp reply => exact .inr (remaining_lt (by simp [callerLeft, now]))
  | releasing reply =>
    dsimp only
    split
    · exact .inr (remaining_lt (by simp [callerLeft, now]))
    · exact .inr (remaining_lt (by cases reply <;> simp [callerLeft, finish, now]))
  | joining reply =>
    dsimp only
    split
    · exact .inr (finish_lt reply (by simp [callerLeft, now]))
    · exact .inl rfl
  | idle | gone => exact .inl rfl

/-- A worker that takes no step has exited, or offers what can still be taken. -/
theorem worker_rests (rests : s.work o = s) :
    s.worker = .exited ∨ s.receiver ∧ ∃ n item, s.worker = .offering n item := by
  have still := congrArg worker rests
  unfold work at still
  cases now : s.worker with
  | exited => exact .inl rfl
  | offering n item =>
    rw [now] at still
    dsimp only at still
    split at still
    case isTrue receiver => exact .inr ⟨receiver, n, item, rfl⟩
    case isFalse => cases still
  | _ =>
    rw [now] at still
    dsimp only at still
    first | cases still | (split at still <;> cases still)

theorem not_stuck (h : Sound o s) (busy : s.busy) : s.work o ≠ s ∨ s.proceed ≠ s := by
  by_contra stuck
  obtain ⟨rests, still⟩ : s.work o = s ∧ s.proceed = s := by simpa using stuck
  have caller := h.caller
  have worker := h.worker
  unfold CallerAt at caller
  unfold WorkerAt at worker
  have moved := congrArg Cursor.caller still
  unfold proceed at moved
  -- A call that waits for a worker at rest finds it exited or with a row on offer; either lets it go on.
  cases now : s.caller with
  | waiting =>
    rw [now] at caller moved
    dsimp only at moved
    rcases worker_rests rests with exited | ⟨-, n, item, offering⟩
    · split at moved
      all_goals try cases moved
      rw [exited] at moved
      cases moved
    · rw [offering] at worker caller
      cases opened : o with
      | opened columns answers =>
        have slot : s.slot = some (.ok columns) := by
          rw [caller.2.resolve_left nofun, opened]
          rfl
        rw [slot] at moved
        cases moved
      | _ => rw [opened] at worker; cases worker.2.2.2
  | receiving =>
    rw [now] at moved
    dsimp only at moved
    rcases worker_rests rests with exited | ⟨-, n, item, offering⟩
    · rw [exited] at moved
      cases moved
    · rw [offering] at moved
      cases item <;> cases moved
  | hangingUp reply => rw [now] at moved; cases moved
  | releasing reply =>
    rw [now] at moved
    dsimp only at moved
    split at moved
    · cases moved
    · cases reply <;> cases moved
  | joining reply =>
    rw [now] at caller moved
    dsimp only at moved
    rcases worker_rests rests with exited | ⟨receiver, -⟩
    · rw [if_pos exited] at moved
      cases reply <;> cases moved
    · exact (Bool.false_ne_true (caller.2.1.symm.trans receiver)).elim
  | idle | gone => unfold Cursor.busy at busy; rw [now] at busy; cases busy

theorem call_returns {s : Cursor} (h : Sound o s) :
    ∃ moves : List CursorMove, (∀ m ∈ moves, m = .work ∨ m = .proceed) ∧
      (moves.foldl (move o) s).busy = false := by
  cases inCall : s.busy with
  | false => exact ⟨[], List.forall_mem_nil _, inCall⟩
  | true =>
    obtain ⟨m, party, lower⟩ :
        ∃ m : CursorMove, (m = .work ∨ m = .proceed) ∧ (s.move o m).remaining < s.remaining := by
      rcases not_stuck h inCall with works | proceeds
      · exact ⟨.work, .inl rfl, (remaining_work o s).resolve_left works⟩
      · exact ⟨.proceed, .inr rfl, (remaining_proceed s).resolve_left proceeds⟩
    obtain ⟨moves, parties, back⟩ := call_returns (sound_move h m)
    exact ⟨m :: moves, List.forall_mem_cons.2 ⟨party, parties⟩, back⟩
termination_by s.remaining

end Cursor

end QueryBridge
