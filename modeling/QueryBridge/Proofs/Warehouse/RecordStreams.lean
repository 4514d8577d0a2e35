import Mathlib.Data.List.TakeWhile
import QueryBridge.Warehouse.Records

set_option autoImplicit false

namespace QueryBridge

inductive StreamCall where
  | next
  | close
  deriving DecidableEq

namespace Answer

def isRow : Answer → Bool
  | some (.ok _) => true
  | _ => false

def delivered : List Answer → List Answer
  | [] => []
  | a :: rest => if a.isRow then a :: delivered rest else [a]

end Answer

namespace RowSource

def answer (s : RowSource) (n : Nat) : Answer := (s.answers[n]?).join

theorem poll_answer (s : RowSource) : s.poll.1 = s.answer 0 := by
  cases s with | mk answers => cases answers <;> rfl

theorem answer_poll (s : RowSource) (n : Nat) : s.poll.2.answer n = s.answer (n + 1) := by
  cases s with | mk answers => cases answers <;> rfl

end RowSource

namespace RecordStream

open Answer (delivered)

/-- The answers to the calls of `next` in order, and the stream behind all calls. -/
def run (r : RecordStream) : List StreamCall → List Answer × RecordStream
  | [] => ([], r)
  | .next :: calls => (r.next.1 :: (r.next.2.run calls).1, (r.next.2.run calls).2)
  | .close :: calls => r.close.run calls

/-- How many rows are asked for before the stream is closed. -/
def askedFor (calls : List StreamCall) : Nat := (calls.takeWhile (· = .next)).length

/-- What a stream logs when it gives up its source and what it holds. -/
def farewell : List StreamEvent := [.sourceDropped, .released]

section

variable {r : RecordStream}

theorem next_done (h : r.source? = none) : r.next = (none, r) := by
  unfold next
  rw [h]

theorem close_done (h : r.source? = none) (released : r.guard = .noop) : r.close = r := by
  obtain ⟨columns, source, guard, log⟩ := r
  subst h released
  simp [close, ReleaseGuard.release, ReleaseGuard.noop]

theorem run_done (h : r.source? = none) (released : r.guard = .noop) (calls : List StreamCall) :
    r.run calls = (List.replicate (calls.count .next) none, r) := by
  induction calls with
  | nil => rfl
  | cons call calls ih =>
    cases call with
    | next => rw [run, next_done h, ih, List.count_cons_self, List.replicate_succ]
    | close => rw [run, close_done h released, ih, List.count_cons_of_ne (by decide)]

end

section

variable {columns : List Column} {source : RowSource} {log : List StreamEvent}

theorem close_open :
    close ⟨columns, some source, .armed, log⟩ = ⟨columns, none, .noop, log ++ farewell⟩ := by
  simp [close, ReleaseGuard.release, ReleaseGuard.armed, ReleaseGuard.noop, farewell]

theorem next_row (h : (source.answer 0).isRow) :
    next ⟨columns, some source, .armed, log⟩ =
      (source.answer 0, ⟨columns, some source.poll.2, .armed, log ++ [StreamEvent.polled]⟩) := by
  rw [← source.poll_answer] at h ⊢
  match hp : source.poll with
  | (some (.ok row), rest) => simp only [next, hp]
  | (some (.error _), _) => rw [hp] at h; cases h
  | (none, _) => rw [hp] at h; cases h

theorem next_end (h : ¬ (source.answer 0).isRow) :
    next ⟨columns, some source, .armed, log⟩ =
      (source.answer 0, ⟨columns, none, .noop, log ++ .polled :: farewell⟩) := by
  rw [← source.poll_answer] at h ⊢
  match hp : source.poll with
  | (some (.ok _), _) => rw [hp] at h; exact (h rfl).elim
  | (some (.error _), rest) => simp only [next, hp, close_open, List.append_assoc, List.singleton_append]
  | (none, rest) => simp only [next, hp, close_open, List.append_assoc, List.singleton_append]

end

/-- The answers that the source gives to the rows asked for before the stream is closed. -/
def polled (answers : Nat → Answer) (calls : List StreamCall) : List Answer :=
  delivered ((List.range (askedFor calls)).map answers)

/-- The calls close a stream: one of them does it itself, or an answer to them is no row. -/
def Closes (answers : Nat → Answer) (calls : List StreamCall) : Prop :=
  .close ∈ calls ∨ ∃ n < askedFor calls, ¬ (answers n).isRow

theorem askedFor_next (calls : List StreamCall) : askedFor (.next :: calls) = askedFor calls + 1 := rfl

section

variable {answers : Nat → Answer} {calls : List StreamCall}

theorem polled_row (h : (answers 0).isRow) :
    polled answers (.next :: calls) = answers 0 :: polled (fun n => answers (n + 1)) calls := by
  rw [polled, askedFor_next, List.range_succ_eq_map, List.map_cons, delivered, if_pos h, List.map_map]
  rfl

theorem polled_end (h : ¬ (answers 0).isRow) : polled answers (.next :: calls) = [answers 0] := by
  rw [polled, askedFor_next, List.range_succ_eq_map, List.map_cons, delivered, if_neg h]

theorem closes_row (h : (answers 0).isRow) :
    Closes answers (.next :: calls) ↔ Closes (fun n => answers (n + 1)) calls := by
  unfold Closes
  rw [askedFor_next]
  constructor
  · rintro (closed | ⟨n, hn, ended⟩)
    · exact .inl (by simpa using closed)
    · cases n with
      | zero => exact (ended h).elim
      | succ n => exact .inr ⟨n, Nat.lt_of_succ_lt_succ hn, ended⟩
  · rintro (closed | ⟨n, hn, ended⟩)
    · exact .inl (.tail _ closed)
    · exact .inr ⟨n + 1, Nat.succ_lt_succ hn, ended⟩

theorem closes_end (h : ¬ (answers 0).isRow) : Closes answers (.next :: calls) := by
  have asked : 0 < askedFor (.next :: calls) := by
    rw [askedFor_next]
    exact Nat.succ_pos _
  exact .inr ⟨0, asked, h⟩

end

theorem run_open (columns : List Column) (source : RowSource) (log : List StreamEvent)
    (calls : List StreamCall) :
    (run ⟨columns, some source, .armed, log⟩ calls).1 =
        polled source.answer calls
          ++ List.replicate (calls.count .next - (polled source.answer calls).length) none ∧
      (Closes source.answer calls → (run ⟨columns, some source, .armed, log⟩ calls).2 =
        ⟨columns, none, .noop,
          log ++ List.replicate (polled source.answer calls).length StreamEvent.polled ++ farewell⟩) ∧
      (¬ Closes source.answer calls → ∃ rest, (run ⟨columns, some source, .armed, log⟩ calls).2 =
        ⟨columns, some rest, .armed,
          log ++ List.replicate (polled source.answer calls).length StreamEvent.polled⟩) := by
  induction calls generalizing source log with
  | nil => exact ⟨rfl, by simp [Closes, askedFor], fun _ => ⟨source, by simp [run, polled, askedFor, delivered]⟩⟩
  | cons call calls ih =>
    cases call with
    | next =>
      by_cases h : (source.answer 0).isRow
      · obtain ⟨answers, closed, stillOpen⟩ := ih source.poll.2 (log ++ [StreamEvent.polled])
        -- Behind a row the source counts its answers anew.
        have later : source.poll.2.answer = fun n => source.answer (n + 1) := funext source.answer_poll
        rw [later] at answers closed stillOpen
        rw [closes_row h, polled_row h]
        simp only [run, next_row h, answers, List.count_cons_self, List.length_cons, List.replicate_succ,
          Nat.add_sub_add_right, List.cons_append, true_and]
        simpa only [List.append_assoc, List.singleton_append] using And.intro closed stillOpen
      · rw [polled_end h]
        simp only [run, next_end h, run_done, List.count_cons_self, List.length_singleton,
          Nat.add_sub_cancel, List.singleton_append, List.replicate_one, List.append_assoc, true_and]
        exact ⟨fun _ => trivial, fun stillOpen => (stillOpen (closes_end h)).elim⟩
    | close =>
      have none_polled : polled source.answer (.close :: calls) = [] := rfl
      rw [none_polled]
      simp only [run, close_open, run_done, List.count_cons_of_ne (show StreamCall.close ≠ .next by decide),
        List.length_nil, Nat.sub_zero, List.nil_append, List.replicate_zero, List.append_nil, true_and]
      exact ⟨fun _ => trivial, fun stillOpen => (stillOpen (.inl (.head _))).elim⟩

theorem length_delivered_le (answers : List Answer) : (delivered answers).length ≤ answers.length := by
  induction answers with
  | nil => exact Nat.le_refl _
  | cons a rest ih =>
    rw [delivered]
    split
    · exact Nat.succ_le_succ ih
    · exact Nat.succ_le_succ (Nat.zero_le _)

theorem askedFor_le (calls : List StreamCall) : askedFor calls ≤ calls.count .next := by
  have asked : (calls.takeWhile (· = .next)).count .next = askedFor calls :=
    List.countP_eq_length.2 fun call h => by simpa using List.mem_takeWhile_imp h
  exact asked ▸ (List.takeWhile_sublist _).count_le _

theorem askedFor_le_length (calls : List StreamCall) : askedFor calls ≤ calls.length :=
  (List.takeWhile_sublist _).length_le

theorem drop_closed (columns : List Column) (log : List StreamEvent) :
    drop ⟨columns, none, .noop, log⟩ = ⟨columns, none, .noop, log⟩ := by
  unfold drop
  rw [close_done rfl rfl]
  simp [ReleaseGuard.release, ReleaseGuard.noop]

theorem drop_open (columns : List Column) (source : RowSource) (log : List StreamEvent) :
    drop ⟨columns, some source, .armed, log⟩ = ⟨columns, none, .noop, log ++ farewell⟩ := by
  unfold drop
  rw [close_open]
  simp [ReleaseGuard.release, ReleaseGuard.noop]

/-- Only as many answers matter as there are calls. -/
theorem closes_congr {answers answers' : Nat → Answer} {calls : List StreamCall}
    (same : ∀ n < calls.length, answers n = answers' n) : Closes answers calls ↔ Closes answers' calls := by
  refine or_congr_right (exists_congr fun n => and_congr_right fun hn => ?_)
  rw [same n (hn.trans_le (askedFor_le_length calls))]

theorem polled_congr {answers answers' : Nat → Answer} {calls : List StreamCall}
    (same : ∀ n < calls.length, answers n = answers' n) : polled answers calls = polled answers' calls := by
  refine congrArg delivered (List.map_congr_left fun n hn => same n ?_)
  exact (List.mem_range.1 hn).trans_le (askedFor_le_length calls)

/-- A stream gives its owner the answers of its source up to the first that is no row or up to the first
`close`, and polls it no further. From then on it says that it is closed, and by the time it has been dropped
it has given back once what it holds, behind its source. The source can answer anything, also behind its
first end; only as many of its answers matter as there are calls. -/
theorem released_once (columns : List Column) (source : RowSource) (answers : Nat → Answer)
    (calls : List StreamCall) (given : ∀ n < calls.length, source.answer n = answers n) :
    let rows := polled answers calls
    let (yielded, r) := (start columns source .armed).run calls
    rows.length ≤ calls.count .next ∧
      yielded = rows ++ List.replicate (calls.count .next - rows.length) none ∧
      (Closes answers calls → r.log = List.replicate rows.length .polled ++ farewell) ∧
      (¬ Closes answers calls → r.log = List.replicate rows.length .polled) ∧
      (r.isClosed ↔ .released ∈ r.log) ∧
      r.drop.log = List.replicate rows.length .polled ++ farewell ∧ r.drop.isClosed := by
  intro rows
  have served : rows.length ≤ calls.count .next := by
    have asked := length_delivered_le ((List.range (askedFor calls)).map answers)
    rw [List.length_map, List.length_range] at asked
    exact asked.trans (askedFor_le calls)
  obtain ⟨yielded, closed, stillOpen⟩ := run_open columns source [] calls
  rw [polled_congr given] at yielded closed stillOpen
  rw [closes_congr given] at closed stillOpen
  refine ⟨served, yielded, ?_⟩
  by_cases h : Closes answers calls
  · have r := closed h
    unfold start
    rw [r, drop_closed]
    refine ⟨fun _ => rfl, fun still => (still h).elim, ?_, rfl, rfl⟩
    simp [isClosed, farewell, ReleaseGuard.noop, ReleaseGuard.isReleased]
  · obtain ⟨rest, r⟩ := stillOpen h
    unfold start
    rw [r, drop_open]
    refine ⟨fun ended => (h ended).elim, fun _ => rfl, ?_, rfl, rfl⟩
    simp [isClosed, ReleaseGuard.armed, ReleaseGuard.isReleased]

/-- Answers without end of which one is a failure. -/
def failingOnce (n : Nat) : Answer :=
  if n = 1 then some (.error (.failed "query" "lost")) else some (.ok [.int 1])

theorem failingOnce_released :
    let source : RowSource := ⟨(List.range 4).map failingOnce⟩
    let (yielded, r) := (start [] source .armed).run [.next, .next, .next, .close]
    (∀ n < 4, source.answer n = failingOnce n) ∧ yielded = [failingOnce 0, failingOnce 1, none] ∧
      r.isClosed ∧ r.drop.log = [.polled, .polled, .sourceDropped, .released] := by
  have given : ∀ n < 4, RowSource.answer ⟨(List.range 4).map failingOnce⟩ n = failingOnce n := by
    intro n hn
    simp [RowSource.answer, List.getElem?_range hn]
  have h := released_once [] ⟨(List.range 4).map failingOnce⟩ failingOnce [.next, .next, .next, .close] given
  exact ⟨given, h.2.1, rfl, h.2.2.2.2.2.1⟩

end RecordStream

end QueryBridge
