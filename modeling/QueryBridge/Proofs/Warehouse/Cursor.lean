import QueryBridge.Proofs.Warehouse.RecordStreams

set_option autoImplicit false

/-! A query runs in a worker of its own. The worker reports the columns, or why there are none, through
a channel of one slot, and then hands over row by row: it waits with a row until the caller takes
it, and gives up when nobody can take it any more. The caller opens the query, asks for rows, and
closes or drops the stream; closing gives up the rows before it waits for the worker to end. Each
party takes its steps one by one, and steps of the other can come between any two of them. -/

namespace QueryBridge

inductive CursorOutcome where
  /-- The worker ends before it has reported anything. -/
  | vanished
  | refused (e : WarehouseError)
  /-- The columns, and what each request for a row says; nothing counts behind the first that is no row. -/
  | opened (columns : List Column) (answers : Nat → Answer)

namespace CursorOutcome

def report? : CursorOutcome → Option (Except WarehouseError (List Column))
  | vanished => none
  | refused e => some (.error e)
  | opened columns _ => some (.ok columns)

def answer : CursorOutcome → Nat → Answer
  | opened _ answers => answers
  | _ => fun _ => none

end CursorOutcome

inductive CursorWorker where
  | preparing
  | reporting (report : Except WarehouseError (List Column))
  /-- About to ask the statement for the row of that number, counted from zero. -/
  | fetching (n : Nat)
  /-- Waits with what the statement said until somebody takes it. -/
  | offering (n : Nat) (item : Except WarehouseError Row)
  /-- Done with the statement, with its ends of the channels still open. -/
  | leaving
  /-- The channels have no sender any more. -/
  | ending
  | exited
  deriving DecidableEq

def CursorWorker.hungUp : CursorWorker → Bool
  | ending | exited => true
  | _ => false

inductive CursorReply where
  | answer (a : Answer)
  | closed
  | dropped
  | failed (e : WarehouseError)
  deriving DecidableEq

inductive CursorCaller where
  | waiting
  | idle
  | receiving
  /-- About to give up the rows. -/
  | hangingUp (reply : CursorReply)
  /-- About to run what the guard holds. -/
  | releasing (reply : CursorReply)
  | joining (reply : CursorReply)
  /-- The stream was dropped, or the query failed. -/
  | gone (failure? : Option WarehouseError)
  deriving DecidableEq

/-- Both parties, what is between them, and what has happened. -/
structure Cursor where
  worker : CursorWorker
  caller : CursorCaller
  /-- The channel for the columns. -/
  slot : Option (Except WarehouseError (List Column))
  receiver : Bool
  guard : ReleaseGuard
  columns? : Option (List Column)
  log : List StreamEvent
  /-- What the statement gave to the worker, and what of it the caller got. -/
  fetched : List (Except WarehouseError Row)
  received : List (Except WarehouseError Row)
  /-- The calls that have come back, and what those of `next` answered. -/
  calls : List StreamCall
  answers : List Answer

namespace Cursor

def start : Cursor := ⟨.preparing, .waiting, none, true, .armed, none, [], [], [], [], []⟩

/-- How the worker goes on behind what it has handed over. -/
def workerBehind (n : Nat) : Except WarehouseError Row → CursorWorker
  | .ok _ => .fetching (n + 1)
  | .error _ => .leaving

def work (o : CursorOutcome) (s : Cursor) : Cursor :=
  match s.worker with
  | .preparing =>
    match o.report? with
    | none => { s with worker := .leaving }
    | some report => { s with worker := .reporting report }
  | .reporting report =>
    -- The channel has room for the only report; it has a receiver as long as the query waits.
    match s.caller, report with
    | .waiting, .ok _ => { s with slot := some report, worker := .fetching 0 }
    | .waiting, .error _ => { s with slot := some report, worker := .leaving }
    | _, _ => { s with worker := .leaving }
  | .fetching n =>
    match o.answer n with
    | none => { s with worker := .leaving }
    | some item => { s with worker := .offering n item, fetched := s.fetched ++ [item] }
  | .offering _ _ => if s.receiver then s else { s with worker := .leaving }
  | .leaving => { s with worker := .ending }
  | .ending => { s with worker := .exited }
  | .exited => s

def finish (s : Cursor) : CursorReply → Cursor
  | .answer a => { s with caller := .idle, calls := s.calls ++ [.next], answers := s.answers ++ [a] }
  | .closed => { s with caller := .idle, calls := s.calls ++ [.close] }
  | .dropped => { s with caller := .gone none }
  | .failed e => { s with caller := .gone (some e) }

def endedEarly : WarehouseError := .failed "query" "cursor worker exited before reporting columns"

def proceed (s : Cursor) : Cursor :=
  match s.caller with
  | .waiting =>
    match s.slot with
    | some (.ok columns) => { s with slot := none, columns? := some columns, caller := .idle }
    | some (.error e) => { s with slot := none, caller := .hangingUp (.failed e) }
    | none => if s.worker.hungUp then { s with caller := .hangingUp (.failed endedEarly) } else s
  | .receiving =>
    match s.worker with
    | .offering n item =>
      let taken := { s with
        worker := workerBehind n item, received := s.received ++ [item], log := s.log ++ [StreamEvent.polled] }
      match item with
      | .ok _ => taken.finish (.answer (some item))
      | .error _ => { taken with caller := .hangingUp (.answer (some item)) }
    | .ending | .exited => { s with log := s.log ++ [StreamEvent.polled], caller := .hangingUp (.answer none) }
    | _ => s
  | .hangingUp reply =>
    { s with
      receiver := false, caller := .releasing reply
      log := s.log ++ if s.receiver then [.sourceDropped] else [] }
  | .releasing reply =>
    let released := { s with guard := s.guard.release.1, log := s.log ++ s.guard.release.2 }
    if s.guard.pending then { released with caller := .joining reply } else released.finish reply
  | .joining reply => if s.worker = .exited then s.finish reply else s
  | .idle | .gone _ => s

/-- The caller begins a call, unless it is in one. A stream that is closed has no rows. -/
def begin (s : Cursor) : StreamCall → Cursor
  | .next =>
    match s.caller with
    | .idle => if s.receiver then { s with caller := .receiving } else s.finish (.answer none)
    | _ => s
  | .close =>
    match s.caller with
    | .idle => { s with caller := .hangingUp .closed }
    | _ => s

/-- The caller drops the stream, unless it is in a call. -/
def drop (s : Cursor) : Cursor :=
  match s.caller with
  | .idle => { s with caller := .hangingUp .dropped }
  | _ => s

end Cursor

inductive CursorMove where
  | work
  | proceed
  | call (c : StreamCall)
  | drop
  deriving DecidableEq

namespace Cursor

def move (o : CursorOutcome) (s : Cursor) : CursorMove → Cursor
  | .work => s.work o
  | .proceed => s.proceed
  | .call c => s.begin c
  | .drop => s.drop

def run (o : CursorOutcome) (moves : List CursorMove) : Cursor := moves.foldl (move o) start

end Cursor

end QueryBridge
