import QueryBridge.Materialized.Delegate

set_option autoImplicit false

/-! The settings say which backend caches. A selector holds the delegate for it, and a reload exchanges
the delegate when the settings name another backend. A selection that was taken before stays usable. -/

namespace QueryBridge

structure Selection (κ : Type) where
  kind : Backend
  delegate : CacheDelegate κ
  deriving DecidableEq, Repr

/-- Where the active selection stands. It is read as a whole and exchanged as a whole. -/
structure SelectionCell (m : Type → Type) (κ : Type) where
  read : m (Selection κ)
  exchange : Selection κ → m Unit

structure CacheSelector (κ : Type) where
  current : Selection κ
  /-- How often the selection was exchanged; it tells selections of equal content apart. -/
  exchanges : Nat
  deriving DecidableEq, Repr

def Selection.debugText {κ : Type} (s : Selection κ) : String :=
  "Selection \x7b kind: " ++ s.kind.variantName ++ " \x7d"

namespace CacheSelector

variable {κ : Type}

def kind (s : CacheSelector κ) : Backend := s.current.kind

def exchange (s : CacheSelector κ) (selection : Selection κ) : CacheSelector κ :=
  ⟨selection, s.exchanges + 1⟩

def debugText (s : CacheSelector κ) : String :=
  "CacheDelegateSelector \x7b current: " ++ s.kind.variantName ++ ", .. \x7d"

variable {m : Type → Type} [Monad m] (host : CacheHost m κ)

def select (settings : Settings) : m (Except CacheError (Selection κ)) := do
  return (⟨settings.backend, ·⟩) <$> (← CacheDelegate.forBackend host settings.backend settings)

def start : m (Except CacheError (CacheSelector κ)) := do
  match ← host.settings with
  | .error e => return .error (.settings e)
  | .ok settings => return (⟨·, 0⟩) <$> (← select host settings)

section

variable (cell : SelectionCell m κ)

/-- Reads the settings again; tells whether the selection was exchanged. A failure leaves it as it is. -/
def reloadIn : m (Except CacheError Bool) := do
  match ← host.settings with
  | .error e => return .error (.settings e)
  | .ok settings =>
    if settings.backend = (← cell.read).kind then return .ok false else
    match ← select host settings with
    | .error e => return .error e
    | .ok selection =>
      cell.exchange selection
      return .ok true

/-- Makes a table through the selection that is active when the call begins. -/
def materializeIn (catalog schema name statement : String) : m (Except CacheError (Option Location)) := do
  (← cell.read).delegate.materialize host catalog schema name statement

/-- Drops a table through the selection that is active when the call begins. -/
def removeIn (location : Location) : m (Except CacheError Unit) := do
  (← cell.read).delegate.remove host location

end

def cell : SelectionCell (StateT (CacheSelector κ) m) κ where
  read := return (← get).current
  exchange selection := modify (·.exchange selection)

/-- A reload that nothing comes between. -/
def reload (s : CacheSelector κ) : m (Except CacheError Bool × CacheSelector κ) :=
  (reloadIn host.lift cell).run s

end CacheSelector

end QueryBridge
