import QueryBridge.Materialized.Selector

set_option autoImplicit false

/-! A call of a selector asks its surroundings for one thing after another: settings, a connector, the
run of a statement, the active selection, an exchange of it. The calls work in any monad. In the
monad of steps each of them is the tree of its requests and of what it does with the answers, so
that anything can happen between two requests. For each call one statement says how far it can have
come and what it answers. -/

namespace QueryBridge

inductive CacheRequest (κ : Type) where
  | settings
  | connect (kind : Backend) (settings : Settings)
  | execute (connector : κ) (sql : String)
  | read
  | exchange (selection : Selection κ)

abbrev CacheRequest.Answer {κ : Type} : CacheRequest κ → Type
  | settings => Except SettingsError Settings
  | connect _ _ => Except WarehouseError (Option κ)
  | execute _ _ => Except WarehouseError Unit
  | read => Selection κ
  | exchange _ => Unit

structure CacheEvent (κ : Type) where
  request : CacheRequest κ
  answer : request.Answer

namespace CacheEvent

variable {κ : Type}

abbrev loaded (answer : Except SettingsError Settings) : CacheEvent κ := ⟨.settings, answer⟩

abbrev connected (kind : Backend) (settings : Settings) (answer : Except WarehouseError (Option κ)) :
    CacheEvent κ := ⟨.connect kind settings, answer⟩

abbrev executed (connector : κ) (sql : String) (answer : Except WarehouseError Unit) : CacheEvent κ :=
  ⟨.execute connector sql, answer⟩

abbrev seen (selection : Selection κ) : CacheEvent κ := ⟨.read, selection⟩

abbrev exchanged (selection : Selection κ) : CacheEvent κ := ⟨.exchange selection, ()⟩

end CacheEvent

/-- What is left of a call: its answer, or a request and how it goes on. -/
inductive CacheSteps (κ α : Type) where
  | done (a : α)
  | ask (request : CacheRequest κ) (next : request.Answer → CacheSteps κ α)

namespace CacheSteps

variable {κ α β : Type}

def bind (f : α → CacheSteps κ β) : CacheSteps κ α → CacheSteps κ β
  | done a => f a
  | ask request next => ask request fun answer => (next answer).bind f

instance : Monad (CacheSteps κ) where
  pure := done
  bind p f := p.bind f

def host : CacheHost (CacheSteps κ) κ where
  settings := ask .settings done
  connect kind settings := ask (.connect kind settings) done
  execute connector sql := ask (.execute connector sql) done

def cell : SelectionCell (CacheSteps κ) κ where
  read := ask .read done
  exchange selection := ask (.exchange selection) done

def isDone : CacheSteps κ α → Bool
  | done _ => true
  | ask _ _ => false

/-- The call comes from one point to another by way of the events. -/
inductive Leads : CacheSteps κ α → List (CacheEvent κ) → CacheSteps κ α → Prop
  | here (p : CacheSteps κ α) : Leads p [] p
  | ask {request : CacheRequest κ} {next : request.Answer → CacheSteps κ α} {answer : request.Answer}
      {events : List (CacheEvent κ)} {q : CacheSteps κ α} (rest : Leads (next answer) events q) :
      Leads (ask request next) (⟨request, answer⟩ :: events) q

section

variable {p q : CacheSteps κ α} {events : List (CacheEvent κ)} {request : CacheRequest κ}
  {next : request.Answer → CacheSteps κ α}

theorem Leads.snoc (h : Leads p events (.ask request next)) (answer : request.Answer) :
    Leads p (events ++ [⟨request, answer⟩]) (next answer) := by
  generalize hq : CacheSteps.ask request next = q at h
  induction h with
  | here _ => subst hq; exact .ask (.here _)
  | ask _ ih => exact .ask (ih hq)

theorem leads_nil (h : Leads p [] q) : q = p := by
  cases h
  rfl

theorem leads_done {a : α} (h : Leads (.done a) events q) : events = [] ∧ q = .done a := by
  cases h
  exact ⟨rfl, rfl⟩

theorem leads_ask (h : Leads (.ask request next) events q) :
    (events = [] ∧ q = .ask request next) ∨
      ∃ answer rest, events = ⟨request, answer⟩ :: rest ∧ Leads (next answer) rest q := by
  cases h with
  | here => exact .inl ⟨rfl, rfl⟩
  | ask rest => exact .inr ⟨_, _, rfl, rest⟩

/-- Within a run of a call, what was asked at an event led on from its answer. -/
theorem leads_append {e : CacheEvent κ} {first rest : List (CacheEvent κ)}
    (h : Leads p (first ++ e :: rest) q) :
    ∃ next, Leads p first (.ask e.request next) ∧ Leads (next e.answer) rest q := by
  induction first generalizing p with
  | nil => cases h with | ask behind => exact ⟨_, .here _, behind⟩
  | cons _ _ ih =>
    cases h with
    | ask behind =>
      obtain ⟨next, before, after⟩ := ih behind
      exact ⟨next, .ask before, after⟩

end

/-- Where a call made of two parts can be: in the first, or behind its answer in the second. -/
theorem leads_bind {p : CacheSteps κ α} {f : α → CacheSteps κ β} {events : List (CacheEvent κ)}
    {q : CacheSteps κ β} (h : Leads (p.bind f) events q) :
    (∃ p', Leads p events p' ∧ q = p'.bind f) ∨
      ∃ a first second, events = first ++ second ∧ Leads p first (.done a) ∧ Leads (f a) second q := by
  induction p generalizing events with
  | done a => exact .inr ⟨a, [], events, rfl, .here _, h⟩
  | ask request next ih =>
    rcases leads_ask h with ⟨rfl, rfl⟩ | ⟨answer, rest, rfl, behind⟩
    · exact .inl ⟨_, .here _, rfl⟩
    · rcases ih answer behind with ⟨p', before, rfl⟩ | ⟨a, first, second, rfl, before, after⟩
      · exact .inl ⟨p', .ask before, rfl⟩
      · exact .inr ⟨a, ⟨request, answer⟩ :: first, second, rfl, .ask before, after⟩

theorem leads_map {p : CacheSteps κ α} {f : α → β} {events : List (CacheEvent κ)} {q : CacheSteps κ β}
    (h : Leads (p.bind fun a => .done (f a)) events q) :
    ∃ p', Leads p events p' ∧ q = p'.bind fun a => .done (f a) := by
  rcases leads_bind h with here | ⟨a, first, second, rfl, before, after⟩
  · exact here
  · obtain ⟨rfl, rfl⟩ := leads_done after
    rw [List.append_nil]
    exact ⟨.done a, before, rfl⟩

/-- Whatever comes back, the call asks only for what is allowed. -/
inductive AsksOnly (allowed : CacheRequest κ → Prop) : CacheSteps κ α → Prop
  | done (a : α) : AsksOnly allowed (done a)
  | ask {request : CacheRequest κ} {next : request.Answer → CacheSteps κ α} (asked : allowed request)
      (behind : ∀ answer, AsksOnly allowed (next answer)) : AsksOnly allowed (ask request next)

section

variable {allowed : CacheRequest κ → Prop}

theorem AsksOnly.bind {p : CacheSteps κ α} (h : AsksOnly allowed p) {f : α → CacheSteps κ β}
    (behind : ∀ a, AsksOnly allowed (f a)) : AsksOnly allowed (p.bind f) := by
  induction h with
  | done a => exact behind a
  | ask asked _ ih => exact .ask asked ih

theorem AsksOnly.leads {p q : CacheSteps κ α} {events : List (CacheEvent κ)} (only : AsksOnly allowed p)
    (h : Leads p events q) : (∀ e ∈ events, allowed e.request) ∧ AsksOnly allowed q := by
  induction h with
  | here _ => exact ⟨List.forall_mem_nil _, only⟩
  | ask _ ih =>
    cases only with
    | ask asked behind => exact ⟨List.forall_mem_cons.2 ⟨asked, (ih (behind _)).1⟩, (ih (behind _)).2⟩

end

end CacheSteps

open CacheSteps CacheEvent

variable {κ : Type}

/-- How the selection for settings is made, by the requests for it. -/
inductive Making (settings : Settings) : List (CacheEvent κ) → Except CacheError (Selection κ) → Prop
  | disabled (h : settings.backend.hasCacheTables = false) :
      Making settings [] (.ok ⟨settings.backend, .disabled settings.backend⟩)
  | tables (h : settings.backend.hasCacheTables = true) (connector : κ) :
      Making settings [connected settings.backend settings (.ok (some connector))]
        (.ok ⟨settings.backend, .tables settings.backend connector⟩)
  | withoutConnector (h : settings.backend.hasCacheTables = true) :
      Making settings [connected settings.backend settings (.ok none)]
        (.error (.withoutConnector settings.backend))
  | unconnected (h : settings.backend.hasCacheTables = true) (e : WarehouseError) :
      Making settings [connected settings.backend settings (.error e)] (.error (.warehouse e))

def selectionOf (settings : Settings) : Except WarehouseError (Option κ) → Except CacheError (Selection κ)
  | .ok (some connector) => .ok ⟨settings.backend, .tables settings.backend connector⟩
  | .ok none => .error (.withoutConnector settings.backend)
  | .error e => .error (.warehouse e)

theorem select_tables {settings : Settings} (h : settings.backend.hasCacheTables = true) :
    CacheSelector.select (κ := κ) CacheSteps.host settings =
      .ask (.connect settings.backend settings) fun answer => .done (selectionOf settings answer) := by
  have made : ∀ connector : κ, CacheDelegate.throughConnector settings.backend connector =
      .ok (.tables settings.backend connector) := fun connector => if_pos h
  simp only [CacheSelector.select, CacheDelegate.forBackend, h, Bool.not_true, Bool.false_eq_true, if_false,
    made]
  refine congrArg (CacheSteps.ask _) (funext fun answer => ?_)
  match answer with
  | .ok (some _) | .ok none | .error _ => rfl

theorem select_disabled {settings : Settings} (h : settings.backend.hasCacheTables = false) :
    CacheSelector.select (κ := κ) CacheSteps.host settings =
      .done (.ok ⟨settings.backend, .disabled settings.backend⟩) := by
  simp only [CacheSelector.select, CacheDelegate.forBackend, h, Bool.not_false, if_true]
  rfl

theorem select_leads {settings : Settings} {events : List (CacheEvent κ)}
    {q : CacheSteps κ (Except CacheError (Selection κ))}
    (h : Leads (CacheSelector.select CacheSteps.host settings) events q) :
    (events = [] ∧ ∃ next, q = .ask (.connect settings.backend settings) next) ∨
      ∃ r, q = .done r ∧ Making settings events r := by
  cases tables : settings.backend.hasCacheTables with
  | false =>
    rw [select_disabled tables] at h
    obtain ⟨rfl, rfl⟩ := leads_done h
    exact .inr ⟨_, rfl, .disabled tables⟩
  | true =>
    rw [select_tables tables] at h
    rcases leads_ask h with ⟨rfl, rfl⟩ | ⟨answer, rest, rfl, behind⟩
    · exact .inl ⟨rfl, _, rfl⟩
    · obtain ⟨rfl, rfl⟩ := leads_done behind
      refine .inr ⟨_, rfl, ?_⟩
      match answer with
      | .ok (some connector) => exact .tables tables connector
      | .ok none => exact .withoutConnector tables
      | .error e => exact .unconnected tables e

/-- A selection is made for settings, or fails to be, by the requests. -/
def Makes (settings : Settings) (making : List (CacheEvent κ)) (r : Except CacheError (Selection κ)) : Prop :=
  Leads (CacheSelector.select CacheSteps.host settings) making (.done r)

theorem Makes.making {settings : Settings} {making : List (CacheEvent κ)}
    {r : Except CacheError (Selection κ)} (h : Makes settings making r) : Making settings making r := by
  rcases select_leads h with ⟨-, _, asks⟩ | ⟨_, done, made⟩
  · cases asks
  · cases done
    exact made

theorem Making.connects {settings : Settings} {making : List (CacheEvent κ)}
    {r : Except CacheError (Selection κ)} (h : Making settings making r) {e : CacheEvent κ} (he : e ∈ making) :
    ∃ answer, e = connected settings.backend settings answer := by
  cases h <;> simp only [List.mem_singleton, List.not_mem_nil] at he
  all_goals exact ⟨_, he⟩

theorem start_asks : CacheSelector.start (κ := κ) CacheSteps.host =
    .ask .settings fun
      | .error e => .done (.error (.settings e))
      | .ok settings => (CacheSelector.select CacheSteps.host settings).bind fun made =>
          .done ((⟨·, 0⟩) <$> made) := by
  refine congrArg (CacheSteps.ask _) (funext fun answer => ?_)
  cases answer <;> rfl

theorem start_leads {founding : List (CacheEvent κ)} {first : Selection κ}
    (h : Leads (CacheSelector.start CacheSteps.host) founding (.done (.ok ⟨first, 0⟩))) :
    ∃ settings making, founding = loaded (.ok settings) :: making ∧ Makes settings making (.ok first) := by
  rw [start_asks] at h
  rcases leads_ask h with ⟨-, asks⟩ | ⟨answer, rest, rfl, behind⟩
  · cases asks
  match answer with
  | .error e => cases (leads_done behind).2
  | .ok settings =>
    refine ⟨settings, rest, rfl, ?_⟩
    obtain ⟨p, made, answered⟩ := leads_map behind
    match p with
    | .done (.ok selection) => cases answered; exact made
    | .done (.error _) => cases answered
    | .ask _ _ => cases answered

theorem reload_asks : CacheSelector.reloadIn (κ := κ) CacheSteps.host CacheSteps.cell =
    .ask .settings fun
      | .error e => .done (.error (.settings e))
      | .ok settings => .ask .read fun previous =>
        if settings.backend = previous.kind then .done (.ok false) else
        (CacheSelector.select CacheSteps.host settings).bind fun
          | .error e => .done (.error e)
          | .ok selection => .ask (.exchange selection) fun _ => .done (.ok true) := by
  refine congrArg (CacheSteps.ask _) (funext fun answer => ?_)
  match answer with
  | .error _ => rfl
  | .ok settings =>
    refine congrArg (CacheSteps.ask _) (funext fun previous => ?_)
    show ite _ _ _ = ite _ _ _
    refine congrArg (ite _ _) (congrArg (CacheSteps.bind · _) (funext fun made => ?_))
    cases made <;> rfl

/-- How a reload went, by its requests. -/
inductive ReloadCourse : List (CacheEvent κ) → Except CacheError Bool → Prop
  | unread (e : SettingsError) : ReloadCourse [loaded (.error e)] (.error (.settings e))
  | unchanged {settings : Settings} {previous : Selection κ} (same : settings.backend = previous.kind) :
      ReloadCourse [loaded (.ok settings), seen previous] (.ok false)
  | unmade {settings : Settings} {previous : Selection κ} (differs : settings.backend ≠ previous.kind)
      {making : List (CacheEvent κ)} {e : CacheError} (failed : Makes settings making (.error e)) :
      ReloadCourse (loaded (.ok settings) :: seen previous :: making) (.error e)
  | exchanged {settings : Settings} {previous : Selection κ} (differs : settings.backend ≠ previous.kind)
      {making : List (CacheEvent κ)} {selection : Selection κ} (made : Makes settings making (.ok selection)) :
      ReloadCourse (loaded (.ok settings) :: seen previous :: (making ++ [exchanged selection])) (.ok true)

/-- How far a reload can have come. -/
inductive Reloading : List (CacheEvent κ) → CacheSteps κ (Except CacheError Bool) → Prop
  | unready {events : List (CacheEvent κ)} {request : CacheRequest κ}
      {next : request.Answer → CacheSteps κ (Except CacheError Bool)}
      (asks : ∀ selection, request ≠ .exchange selection) : Reloading events (.ask request next)
  | ready {settings : Settings} {previous : Selection κ} (differs : settings.backend ≠ previous.kind)
      {making : List (CacheEvent κ)} {selection : Selection κ} (made : Makes settings making (.ok selection))
      {next : Unit → CacheSteps κ (Except CacheError Bool)} :
      Reloading (loaded (.ok settings) :: seen previous :: making) (.ask (.exchange selection) next)
  | answered {events : List (CacheEvent κ)} {r : Except CacheError Bool} (course : ReloadCourse events r) :
      Reloading events (.done r)

theorem reload_leads {events : List (CacheEvent κ)} {q : CacheSteps κ (Except CacheError Bool)}
    (h : Leads (CacheSelector.reloadIn CacheSteps.host CacheSteps.cell) events q) : Reloading events q := by
  rw [reload_asks] at h
  rcases leads_ask h with ⟨rfl, rfl⟩ | ⟨answer, rest, rfl, behind⟩
  · exact .unready nofun
  match answer with
  | .error e =>
    obtain ⟨rfl, rfl⟩ := leads_done behind
    exact .answered (.unread e)
  | .ok settings =>
    rcases leads_ask behind with ⟨rfl, rfl⟩ | ⟨previous, making, rfl, compared⟩
    · exact .unready nofun
    by_cases same : settings.backend = previous.kind
    · rw [if_pos same] at compared
      obtain ⟨rfl, rfl⟩ := leads_done compared
      exact .answered (.unchanged same)
    rw [if_neg same] at compared
    rcases leads_bind compared with ⟨p, on, rfl⟩ | ⟨made, making, last, rfl, on, stored⟩
    · rcases select_leads on with ⟨rfl, next, rfl⟩ | ⟨made, rfl, -⟩
      · exact .unready nofun
      · cases made with
        | error e => exact .answered (.unmade same on)
        | ok selection => exact .ready same on
    · cases made with
      | error e =>
        obtain ⟨rfl, rfl⟩ := leads_done stored
        rw [List.append_nil]
        exact .answered (.unmade same on)
      | ok selection =>
        rcases leads_ask stored with ⟨rfl, rfl⟩ | ⟨_, rest, rfl, done⟩
        · rw [List.append_nil]
          exact .ready same on
        · obtain ⟨rfl, rfl⟩ := leads_done done
          exact .answered (.exchanged same on)

variable {d : CacheDelegate κ} {events : List (CacheEvent κ)}

/-- What is left of a delegate's removal by an answer: a drop of the table by a delegate of its kind, and
nothing by one that does not cache. -/
inductive RemovalCourse (location : Location) :
    CacheDelegate κ → List (CacheEvent κ) → Except CacheError Unit → Prop
  | disabled (kind : Backend) : RemovalCourse location (.disabled kind) [] (.ok ())
  | foreign {kind : Backend} (connector : κ) (differs : location.backend ≠ kind) :
      RemovalCourse location (.tables kind connector) [] (.error (.foreignLocation location.text kind))
  | dropped (connector : κ) :
      RemovalCourse location (.tables location.backend connector)
        [executed connector (CacheDelegate.removal location) (.ok ())] (.ok ())
  | failed (connector : κ) (e : WarehouseError) :
      RemovalCourse location (.tables location.backend connector)
        [executed connector (CacheDelegate.removal location) (.error e)] (.error (.warehouse e))

theorem remove_leads {location : Location} {r : Except CacheError Unit}
    (h : Leads (d.remove CacheSteps.host location) events (.done r)) : RemovalCourse location d events r := by
  cases d with
  | disabled kind =>
    obtain ⟨rfl, done⟩ := leads_done h
    cases done
    exact .disabled kind
  | tables kind connector =>
    by_cases own : location.backend = kind
    · subst own
      have asks : CacheDelegate.remove CacheSteps.host (.tables location.backend connector) location =
          .ask (.execute connector (CacheDelegate.removal location)) _ := if_neg (fun differs => differs rfl)
      rw [asks] at h
      rcases leads_ask h with ⟨-, waiting⟩ | ⟨answer, rest, rfl, behind⟩
      · cases waiting
      match answer with
      | .ok () => obtain ⟨rfl, done⟩ := leads_done behind; cases done; exact .dropped connector
      | .error e => obtain ⟨rfl, done⟩ := leads_done behind; cases done; exact .failed connector e
    · have refused : CacheDelegate.remove CacheSteps.host (.tables kind connector) location =
          .done (.error (.foreignLocation location.text kind)) := if_pos own
      rw [refused] at h
      obtain ⟨rfl, done⟩ := leads_done h
      cases done
      exact .foreign connector own

inductive CacheUse where
  | current
  | materialize (catalog schema name statement : String)
  | remove (location : Location)
  deriving DecidableEq

inductive CacheCall where
  | reload
  | use (use : CacheUse)
  deriving DecidableEq

inductive CacheAnswer (κ : Type) where
  | reloaded (r : Except CacheError Bool)
  | selected (selection : Selection κ)
  | materialized (r : Except CacheError (Option Location))
  | removed (r : Except CacheError Unit)

def CacheCall.steps : CacheCall → CacheSteps κ (CacheAnswer κ)
  | reload => .reloaded <$> CacheSelector.reloadIn CacheSteps.host CacheSteps.cell
  | use .current => .selected <$> CacheSteps.cell.read
  | use (.materialize catalog schema name statement) =>
    .materialized <$> CacheSelector.materializeIn CacheSteps.host CacheSteps.cell catalog schema name statement
  | use (.remove location) => .removed <$> CacheSelector.removeIn CacheSteps.host CacheSteps.cell location

/-- What is done with one selection, whatever is active meanwhile. -/
def CacheUse.against (selection : Selection κ) : CacheUse → CacheSteps κ (CacheAnswer κ)
  | current => .done (.selected selection)
  | materialize catalog schema name statement =>
    .materialized <$> selection.delegate.materialize CacheSteps.host catalog schema name statement
  | remove location => .removed <$> selection.delegate.remove CacheSteps.host location

theorem use_asks (u : CacheUse) : (CacheCall.use u).steps (κ := κ) = .ask .read u.against := by
  cases u <;> rfl

theorem use_executes (u : CacheUse) (selection : Selection κ) :
    AsksOnly (fun request => ∃ connector sql, request = .execute connector sql) (u.against selection) := by
  obtain ⟨kind, disabled | ⟨_, connector⟩⟩ := selection
  · cases u <;> exact .done _
  · cases u with
    | current => exact .done _
    | materialize catalog schema name statement =>
      refine .ask ⟨_, _, rfl⟩ fun answer => ?_
      match answer with | .ok () | .error _ => exact .done _
    | remove location =>
      refine .bind (?_ : AsksOnly _ (ite _ _ _)) fun _ => .done _
      split
      · exact .done _
      · refine .ask ⟨_, _, rfl⟩ fun answer => ?_
        match answer with | .ok () | .error _ => exact .done _

theorem exchange_asked {c : CacheCall} {selection : Selection κ} {next : Unit → CacheSteps κ (CacheAnswer κ)}
    (h : Leads c.steps events (.ask (.exchange selection) next)) :
    c = .reload ∧ ∃ settings previous making, events = loaded (.ok settings) :: seen previous :: making ∧
      settings.backend ≠ previous.kind ∧ Makes settings making (.ok selection) := by
  cases c with
  | reload =>
    obtain ⟨p, on, asks⟩ := leads_map h
    cases p with
    | done r => cases asks
    | ask request next' =>
      obtain ⟨rfl, -⟩ := CacheSteps.ask.inj asks
      cases reload_leads on with
      | unready never => exact (never selection rfl).elim
      | ready differs made => exact ⟨rfl, _, _, _, rfl, differs, made⟩
  | use u =>
    rw [use_asks] at h
    rcases leads_ask h with ⟨-, asks⟩ | ⟨read, rest, -, behind⟩
    · cases asks
    · cases ((use_executes u read).leads behind).2 with
      | ask executes _ => obtain ⟨_, _, asks⟩ := executes; cases asks

theorem reload_done {r : Except CacheError Bool}
    (h : Leads CacheCall.reload.steps events (.done (.reloaded r))) : ReloadCourse events r := by
  obtain ⟨p, on, answered⟩ := leads_map h
  cases p with
  | done r' =>
    cases answered
    cases reload_leads on with | answered course => exact course
  | ask request next => cases answered

end QueryBridge
