import QueryBridge.Text.Quoted
import QueryBridge.Types.Scalar
import QueryBridge.Warehouse.Cell
import QueryBridge.Warehouse.Backend

set_option autoImplicit false

/-! The rows of a query arrive one by one. What the query holds open is given back exactly once: when
the stream is closed or dropped, when its rows are used up, or when a row fails, whichever comes
first. A stream keeps a log of what it did to the source of its rows and to what it holds. -/

namespace QueryBridge

structure Column where
  name : String
  type : Scalar
  deriving DecidableEq, Repr

namespace Column

def toJson (c : Column) : Json := .record [("name", .string c.name), ("type", .string c.type.wireName)]

def debugText (c : Column) : String :=
  "Column \x7b name: " ++ Text.escaped c.name ++ ", ty: " ++ c.type.variantName ++ " \x7d"

end Column

def boolText (b : Bool) : String := if b then "true" else "false"

inductive StreamEvent where
  | polled
  | sourceDropped
  | released
  deriving DecidableEq, Repr

/-- Holds at most one action that gives resources back. -/
structure ReleaseGuard where
  pending : Bool
  deriving DecidableEq, Repr

namespace ReleaseGuard

def armed : ReleaseGuard := ⟨true⟩

def noop : ReleaseGuard := ⟨false⟩

def isReleased (g : ReleaseGuard) : Bool := !g.pending

/-- Runs the action if it has not run; what happened comes with the guard. -/
def release (g : ReleaseGuard) : ReleaseGuard × List StreamEvent :=
  (⟨false⟩, if g.pending then [.released] else [])

def debugText (g : ReleaseGuard) : String :=
  "ReleaseGuard \x7b released: " ++ boolText g.isReleased ++ " \x7d"

end ReleaseGuard

/-- What a source says when it is asked for a row; nothing means that there are no more. -/
abbrev Answer := Option (Except WarehouseError Row)

/-- Answers to come; after them a source has no more rows. -/
structure RowSource where
  answers : List Answer

namespace RowSource

def ofRows (rows : List (Except WarehouseError Row)) : RowSource := ⟨rows.map some⟩

def poll (s : RowSource) : Answer × RowSource :=
  match s.answers with
  | [] => (none, s)
  | a :: rest => (a, ⟨rest⟩)

end RowSource

structure RecordStream where
  columns : List Column
  source? : Option RowSource
  guard : ReleaseGuard
  log : List StreamEvent

namespace RecordStream

def start (columns : List Column) (source : RowSource) (guard : ReleaseGuard) : RecordStream :=
  ⟨columns, some source, guard, []⟩

def isClosed (r : RecordStream) : Bool := r.guard.isReleased

/-- The source is given up before what it may still need. -/
def close (r : RecordStream) : RecordStream :=
  let (guard, events) := r.guard.release
  { r with
    source? := none, guard := guard
    log := r.log ++ (if r.source?.isSome then [.sourceDropped] else []) ++ events }

/-- The end of a stream: it closes, and what holds its resources goes with it. -/
def drop (r : RecordStream) : RecordStream :=
  let closed := r.close
  let (guard, events) := closed.guard.release
  { closed with guard := guard, log := closed.log ++ events }

/-- The next row. A failure and the end close the stream, and a closed stream has no rows. -/
def next (r : RecordStream) : Answer × RecordStream :=
  match r.source? with
  | none => (none, r)
  | some source =>
    let (answer, source) := source.poll
    let polled := { r with source? := some source, log := r.log ++ [.polled] }
    match answer with
    | some (.ok _) => (answer, polled)
    | _ => (answer, polled.close)

/-- Takes up to `limit` answers; the end counts as one and is not among the rows. -/
def take (limit : Nat) (r : RecordStream) : List (Except WarehouseError Row) × RecordStream :=
  match limit with
  | 0 => ([], r)
  | limit + 1 =>
    match r.next with
    | (none, r) => ([], r)
    | (some row, r) =>
      let (rows, r) := r.take limit
      (row :: rows, r)

def drain (r : RecordStream) : List (Except WarehouseError Row) × RecordStream :=
  r.take ((r.source?.map (·.answers.length)).getD 0 + 1)

def debugText (r : RecordStream) : String :=
  "RecordIterator \x7b columns: [" ++ ", ".intercalate (r.columns.map Column.debugText) ++ "], closed: "
    ++ boolText r.isClosed ++ " \x7d"

end RecordStream

end QueryBridge
