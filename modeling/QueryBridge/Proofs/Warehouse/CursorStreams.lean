import QueryBridge.Proofs.Warehouse.CursorProgress

set_option autoImplicit false

namespace QueryBridge

namespace RecordStream

variable {r : RecordStream}

def giveUp (r : RecordStream) : RecordStream :=
  { r with source? := none, log := r.log ++ if r.source?.isSome then [.sourceDropped] else [] }

def letGo (r : RecordStream) : RecordStream :=
  { r with guard := r.guard.release.1, log := r.log ++ r.guard.release.2 }

theorem giveUp_letGo (r : RecordStream) : r.giveUp.letGo = r.close := rfl

theorem drop_eq_close (r : RecordStream) : r.drop = r.close := by
  simp [drop, close, ReleaseGuard.release]

def polledTo (r : RecordStream) (source : RowSource) : RecordStream :=
  { r with source? := some source, log := r.log ++ [.polled] }

theorem next_polled {source : RowSource} (h : r.source? = some source) :
    r.next = (source.answer 0,
      if (source.answer 0).isRow then r.polledTo source.poll.2 else (r.polledTo source.poll.2).close) := by
  rw [← source.poll_answer]
  unfold next
  rw [h]
  match hp : source.poll with
  | (some (.ok _), _) | (some (.error _), _) | (none, _) => simp [hp, polledTo, Answer.isRow]

theorem run_next (calls : List StreamCall) :
    r.run (calls ++ [StreamCall.next]) = ((r.run calls).1 ++ [(r.run calls).2.next.1], (r.run calls).2.next.2) := by
  induction calls generalizing r with
  | nil => rfl
  | cons call calls ih => cases call <;> simp [run, ih]

theorem run_close (calls : List StreamCall) :
    r.run (calls ++ [StreamCall.close]) = ((r.run calls).1, (r.run calls).2.close) := by
  induction calls generalizing r with
  | nil => rfl
  | cons call calls ih => cases call <;> simp [run, ih]

end RecordStream

namespace Cursor

variable {o : CursorOutcome} {s s' : Cursor} {r r' : RecordStream} {N : Nat} {answers : Nat → Answer}

/-- The cursor holds what the stream holds, and has done the same. -/
def Like (s : Cursor) (r : RecordStream) : Prop :=
  s.log = r.log ∧ s.guard = r.guard ∧ s.receiver = r.source?.isSome

def GoesOn (answers : Nat → Answer) (N : Nat) (s : Cursor) (r : RecordStream) : Prop :=
  ∀ source, r.source? = some source → s.received.length ≤ s.calls.length ∧
    ∀ m, s.received.length + m < N → source.answer m = answers (s.received.length + m)

def Returns (r : RecordStream) (reply : CursorReply) (r' : RecordStream) : Prop :=
  match reply with
  | .answer a => r.next = (a, r')
  | .closed => r.close = r'
  | .dropped => r.drop = r'
  | .failed _ => True

/-- How a cursor stands to the stream behind the calls so far, in and between calls. -/
def Beside (answers : Nat → Answer) (N : Nat) (s : Cursor) (r : RecordStream) : Prop :=
  match s.caller with
  | .waiting | .gone (some _) => True
  | .idle | .receiving => Like s r ∧ GoesOn answers N s r
  | .hangingUp reply => ∃ r', Like s r' ∧ Returns r reply r'.close
  | .releasing reply => ∃ r', Like s r' ∧ Returns r reply r'.letGo
  | .joining reply => ∃ r', Like s r' ∧ Returns r reply r'
  | .gone none => Like s r.drop

/-- The answers so far are those of a stream, and the cursor stands as that stream does. -/
def Follows (answers : Nat → Answer) (N : Nat) (origin : RecordStream) (s : Cursor) : Prop :=
  s.calls.length < N → s.answers = (origin.run s.calls).1 ∧ Beside answers N s (origin.run s.calls).2

variable {origin : RecordStream}

theorem Like.open (h : Like s r) (receiver : s.receiver) : ∃ source, r.source? = some source :=
  Option.isSome_iff_exists.1 (h.2.2 ▸ receiver)

theorem Like.closed (h : Like s r) (receiver : s.receiver = false) : r.source? = none :=
  Option.isNone_iff_eq_none.1 (by rw [← Option.not_isSome, ← h.2.2, receiver]; rfl)

theorem Like.goesOn (h : Like s r) (receiver : s.receiver = false) : GoesOn answers N s' r :=
  fun _ some => nomatch (h.closed receiver).symm.trans some

theorem follows_finish {reply : CursorReply}
    (h : s.calls.length < N → s.answers = (origin.run s.calls).1 ∧ ∃ r', Like s r' ∧
      Returns (origin.run s.calls).2 reply r' ∧ GoesOn answers N (s.finish reply) r') :
    Follows answers N origin (s.finish reply) := by
  cases reply with
  | answer a =>
    intro room
    have fewer : s.calls.length < N := (Nat.lt_succ_self _).trans (by simpa [finish] using room)
    obtain ⟨same, r', like, returns, goesOn⟩ := h fewer
    have next : (origin.run s.calls).2.next = (a, r') := returns
    dsimp only [finish]
    rw [RecordStream.run_next, next, same]
    exact ⟨rfl, like, goesOn⟩
  | closed =>
    intro room
    have fewer : s.calls.length < N := (Nat.lt_succ_self _).trans (by simpa [finish] using room)
    obtain ⟨same, r', like, returns, goesOn⟩ := h fewer
    have close : (origin.run s.calls).2.close = r' := returns
    dsimp only [finish]
    rw [RecordStream.run_close, close]
    exact ⟨same, like, goesOn⟩
  | dropped =>
    intro room
    obtain ⟨same, r', like, returns, -⟩ := h room
    have drop : (origin.run s.calls).2.drop = r' := returns
    refine ⟨same, ?_⟩
    show Like _ (origin.run s.calls).2.drop
    rw [drop]
    exact like
  | failed e => exact fun room => ⟨(h room).1, trivial⟩

theorem work_form (o : CursorOutcome) (s : Cursor) :
    ∃ worker slot fetched, s.work o = { s with worker := worker, slot := slot, fetched := fetched } := by
  unfold work
  cases s.worker with
  | preparing => cases o.report? <;> exact ⟨_, _, _, rfl⟩
  | reporting report => dsimp only; split <;> exact ⟨_, _, _, rfl⟩
  | fetching n => dsimp only; split <;> exact ⟨_, _, _, rfl⟩
  | offering n item => dsimp only; split <;> exact ⟨_, _, _, rfl⟩
  | _ => exact ⟨_, _, _, rfl⟩

theorem follows_work (h : Follows answers N origin s) : Follows answers N origin (s.work o) := by
  obtain ⟨worker, slot, fetched, form⟩ := work_form o s
  rw [form]
  exact h

theorem GoesOn.next (h : GoesOn answers N s r) {source : RowSource} (here : r.source? = some source)
    (room : s.calls.length < N) : source.answer 0 = answers s.received.length :=
  (h source here).2 0 ((h source here).1.trans_lt room)

theorem GoesOn.taken (h : GoesOn answers N s r) {source : RowSource} (here : r.source? = some source)
    {item : Except WarehouseError Row} (received : s'.received = s.received ++ [item])
    (calls : s'.calls.length = s.calls.length + 1) : GoesOn answers N s' (r.polledTo source.poll.2) := by
  rintro _ ⟨⟩
  obtain ⟨fewer, same⟩ := h source here
  have length : s'.received.length = s.received.length + 1 := by
    rw [received, List.length_append, List.length_singleton]
  refine ⟨by omega, fun m inside => ?_⟩
  rw [source.answer_poll, same (m + 1) (by omega), length]
  congr 1
  omega

theorem Like.polled (like : Like s r) (goesOn : GoesOn answers N s r) (receiver : s.receiver)
    (room : s.calls.length < N) {a : Answer} (given : answers s.received.length = a) :
    ∃ source, r.source? = some source ∧
      r.next = (a, if a.isRow then r.polledTo source.poll.2 else (r.polledTo source.poll.2).close) ∧
      ∀ s' : Cursor, s'.log = s.log ++ [StreamEvent.polled] → s'.guard = s.guard → s'.receiver = s.receiver →
        Like s' (r.polledTo source.poll.2) := by
  obtain ⟨source, here⟩ := like.open receiver
  refine ⟨source, here, ?_, fun s' log guard still => ⟨?_, guard.trans like.2.1, still.trans receiver⟩⟩
  · rw [RecordStream.next_polled here, goesOn.next here room, given]
  · rw [log, like.1]
    rfl

theorem follows_receive (sound : Sound o s) (now : s.caller = .receiving)
    (h : Follows o.answer N origin s) : Follows o.answer N origin s.proceed := by
  have caller := sound.caller
  have worker := sound.worker
  unfold CallerAt at caller
  unfold WorkerAt at worker
  unfold Follows Beside at h
  rw [now] at caller h
  obtain ⟨-, receiver, -, rows⟩ := caller
  unfold proceed
  rw [now]
  cases step : s.worker with
  | offering n item =>
    rw [step] at worker
    obtain ⟨-, rfl, -, offers⟩ := worker
    cases item with
    | ok row =>
      refine follows_finish fun room => ?_
      obtain ⟨same, like, goesOn⟩ := h room
      obtain ⟨source, here, next, moved⟩ := like.polled goesOn receiver room offers
      exact ⟨same, _, moved _ rfl rfl rfl, next, goesOn.taken here rfl List.length_append⟩
    | error e =>
      intro room
      obtain ⟨same, like, goesOn⟩ := h room
      obtain ⟨source, here, next, moved⟩ := like.polled goesOn receiver room offers
      exact ⟨same, _, moved _ rfl rfl rfl, next⟩
  | ending | exited =>
    -- Nothing but rows has come, so that the worker has left because the statement was through.
    rw [step] at worker
    intro room
    obtain ⟨same, like, goesOn⟩ := h room
    obtain ⟨source, here, next, moved⟩ := like.polled goesOn receiver room ((worker receiver).2 rows)
    exact ⟨same, _, moved _ rfl rfl rfl, next⟩
  | _ =>
    unfold Follows Beside
    rw [now]
    exact h

theorem follows_wait (sound : Sound o s) (now : s.caller = .waiting) {columns : List Column} {source : RowSource}
    (given : ∀ n < N, source.answer n = o.answer n) (opens : origin = RecordStream.start columns source .armed)
    (h : Follows o.answer N origin s) : Follows o.answer N origin s.proceed := by
  have caller := sound.caller
  unfold CallerAt at caller
  unfold proceed
  rw [now] at caller ⊢
  obtain ⟨⟨receiver, guard, received, log, calls, answers⟩, -⟩ := caller
  have like : ∀ s' : Cursor, s'.log = s.log → s'.guard = s.guard → s'.receiver = s.receiver → Like s' origin := by
    rw [opens]
    exact fun s' log' guard' receiver' => ⟨log'.trans log, guard'.trans guard, receiver'.trans receiver⟩
  dsimp only
  split
  · intro _
    have nothing : origin.run s.calls = ([], origin) := by rw [calls]; rfl
    refine ⟨by rw [nothing]; exact answers, ?_⟩
    dsimp only
    rw [nothing]
    refine ⟨like _ rfl rfl rfl, ?_⟩
    rw [opens]
    rintro _ ⟨⟩
    dsimp only
    rw [received]
    exact ⟨Nat.zero_le _, fun m room => (given m (by simpa using room)).trans (by simp)⟩
  · exact fun room => ⟨(h room).1, _, like _ rfl rfl rfl, trivial⟩
  · split
    · exact fun room => ⟨(h room).1, _, like _ rfl rfl rfl, trivial⟩
    · exact h

theorem follows_proceed (sound : Sound o s) {columns : List Column} {source : RowSource}
    (given : ∀ n < N, source.answer n = o.answer n) (opens : origin = RecordStream.start columns source .armed)
    (h : Follows o.answer N origin s) : Follows o.answer N origin s.proceed := by
  have caller := sound.caller
  unfold CallerAt at caller
  have whole := h
  unfold proceed
  unfold Follows Beside at h
  cases now : s.caller with
  | waiting => exact now ▸ follows_wait sound now given opens whole
  | receiving => exact now ▸ follows_receive sound now whole
  | hangingUp reply =>
    rw [now] at h
    -- The call closes in two steps what the stream closes in one.
    intro room
    obtain ⟨same, r', like, returns⟩ := h room
    refine ⟨same, r'.giveUp, ⟨?_, like.2.1, rfl⟩, r'.giveUp_letGo.symm ▸ returns⟩
    show s.log ++ _ = r'.log ++ _
    rw [like.1, like.2.2]
  | releasing reply =>
    rw [now] at h caller
    dsimp only
    have released : s.calls.length < N → s.answers = (origin.run s.calls).1 ∧ ∃ r',
        Like { s with guard := s.guard.release.1, log := s.log ++ s.guard.release.2 } r' ∧
          Returns (origin.run s.calls).2 reply r' := by
      intro room
      obtain ⟨same, r', like, returns⟩ := h room
      exact ⟨same, r'.letGo, ⟨by rw [like.1, like.2.1]; rfl, by rw [like.2.1]; rfl, like.2.2⟩, returns⟩
    split
    · intro room
      obtain ⟨same, r', like, returns⟩ := released room
      exact ⟨same, r', like, returns⟩
    · refine follows_finish fun room => ?_
      obtain ⟨same, r', like, returns⟩ := released room
      exact ⟨same, r', like, returns, like.goesOn caller.2⟩
  | joining reply =>
    rw [now] at h caller
    dsimp only
    split
    · refine follows_finish fun room => ?_
      obtain ⟨same, r', like, returns⟩ := h room
      exact ⟨same, r', like, returns, like.goesOn caller.2.1⟩
    · exact whole
  | idle | gone => exact whole

theorem follows_begin (h : Follows answers N origin s) (c : StreamCall) :
    Follows answers N origin (s.begin c) := by
  unfold begin
  cases now : s.caller with
  | idle =>
    have here := h
    unfold Follows Beside at here
    rw [now] at here
    cases c with
    | next =>
      dsimp only
      split
      · exact here
      case isFalse closed =>
        have receiver : s.receiver = false := Bool.eq_false_iff.2 closed
        refine follows_finish fun room => ?_
        obtain ⟨same, like, -⟩ := here room
        exact ⟨same, _, like, RecordStream.next_done (like.closed receiver), like.goesOn receiver⟩
    | close => exact fun room => ⟨(here room).1, _, (here room).2.1, rfl⟩
  | _ => cases c <;> exact h

theorem follows_drop (h : Follows answers N origin s) : Follows answers N origin s.drop := by
  unfold drop
  cases now : s.caller with
  | idle =>
    have here := h
    unfold Follows Beside at here
    rw [now] at here
    exact fun room => ⟨(here room).1, _, (here room).2.1, RecordStream.drop_eq_close _⟩
  | _ => exact h

/-- Whatever the order of the steps, the calls have the answers that they have on a stream whose source
answers as the statement does. -/
theorem follows_run (o : CursorOutcome) {columns : List Column} {source : RowSource}
    (given : ∀ n < N, source.answer n = o.answer n) (moves : List CursorMove) :
    Follows o.answer N (RecordStream.start columns source .armed) (run o moves) := by
  suffices ∀ s, Sound o s → Follows o.answer N (RecordStream.start columns source .armed) s →
      Follows o.answer N (RecordStream.start columns source .armed) (moves.foldl (move o) s) from
    this start (sound_start o) fun _ => ⟨rfl, trivial⟩
  induction moves with
  | nil => exact fun s _ h => h
  | cons m rest ih =>
    intro s sound h
    refine ih (s.move o m) (sound_move sound m) ?_
    cases m with
    | work => exact follows_work h
    | proceed => exact follows_proceed sound given rfl h
    | call c => exact follows_begin h c
    | drop => exact follows_drop h

theorem prefix_of_answers {f : Nat → Answer} {items front : List (Except WarehouseError Row)}
    (h : items.map some = (List.range items.length).map f) (pre : front <+: items) :
    front.map some = (List.range front.length).map f := by
  have part := congrArg (List.take front.length) h
  rw [← List.map_take, ← List.map_take, ← List.prefix_iff_eq_take.1 pre, List.take_range,
    Nat.min_eq_left pre.length_le] at part
  exact part

theorem prefix_rows {items front : List (Except WarehouseError Row)} (h : AllRows items.dropLast)
    (pre : front <+: items) : AllRows front.dropLast := by
  obtain ⟨rest, rfl⟩ := pre
  cases rest with
  | nil => exact List.append_nil front ▸ h
  | cons item rest =>
    rw [List.dropLast_append_of_ne_nil (List.cons_ne_nil item rest)] at h
    exact fun item mem => h item (List.mem_append_left _ (List.dropLast_subset _ mem))

/-- In every order of the steps the caller gets the first of what the statement says, one after the other and
a failure only as the last, and comes back with just that from its calls; the worker has at most one more.
The caller waits for the worker's end only when it has given up the rows, and while it is in a call one of the
two can go on. A query that fails does so as its statement. What the calls of an opened query answer, and
what becomes of source and worker, is as on a stream whose source answers as the statement does. -/
theorem cursor_hands_over (o : CursorOutcome) (moves : List CursorMove) :
    let s := run o moves
    (s.received.map some = (List.range s.received.length).map o.answer ∧ AllRows s.received.dropLast) ∧
    s.received = s.answers.filterMap id ++ s.caller.inHand.toList ∧
    (s.received <+: s.fetched ∧ s.fetched.length ≤ s.received.length + 1 ∧
      s.fetched.map some = (List.range s.fetched.length).map o.answer) ∧
    (∀ reply, s.caller = .joining reply → s.receiver = false) ∧
    (s.busy → s.work o ≠ s ∨ s.proceed ≠ s) ∧
    (∀ e, s.caller = .gone (some e) → o.failure? = some e) ∧
    ∀ columns answers source, o = .opened columns answers →
      (∀ n ≤ s.calls.length, source.answer n = answers n) →
      let (yielded, r) := (RecordStream.start columns source .armed).run s.calls
      s.answers = yielded ∧
        (s.caller = .idle → s.columns? = some columns ∧ s.log = r.log ∧ s.guard = r.guard) ∧
        (s.caller = .gone none → s.log = r.drop.log) := by
  intro s
  have sound : Sound o s := sound_run o moves
  have caller := sound.caller
  unfold CallerAt at caller
  refine ⟨⟨prefix_of_answers sound.fetched sound.received, prefix_rows sound.rows sound.received⟩, sound.answered,
    ⟨sound.received, sound.ahead, sound.fetched⟩, ?_, not_stuck sound, ?_, ?_⟩
  · intro reply joining
    rw [joining] at caller
    exact caller.2.1
  · intro e failed
    rw [failed] at caller
    exact caller.2.2 e rfl
  · intro columns answers source opened given
    have agree : ∀ n < s.calls.length + 1, source.answer n = o.answer n := by
      rw [opened]
      exact fun n room => given n (Nat.le_of_lt_succ room)
    have follows : Follows o.answer (s.calls.length + 1) (RecordStream.start columns source .armed) s :=
      follows_run o agree moves
    obtain ⟨same, beside⟩ := follows (Nat.lt_succ_self _)
    unfold Beside at beside
    refine ⟨same, fun idle => ?_, fun gone => ?_⟩
    · rw [idle] at caller beside
      obtain ⟨⟨reported, reports, columns?⟩, -⟩ := caller
      rw [opened] at reports
      cases reports
      exact ⟨columns?, beside.1.1, beside.1.2.1⟩
    · rw [gone] at beside
      exact beside.1

-- Dropped with a row on offer, the stream gives up its end, and only then waits for the worker.
example :
    let s := run (.opened [] fun _ => some (.ok [])) [.work, .work, .proceed, .work, .drop, .proceed, .proceed]
    s.worker = .offering 0 (.ok []) ∧ s.caller = .joining .dropped ∧
      ([.work, .work, .work, .proceed].foldl (move (.opened [] fun _ => some (.ok []))) s).caller = .gone none :=
  ⟨rfl, rfl, rfl⟩

end Cursor

end QueryBridge
