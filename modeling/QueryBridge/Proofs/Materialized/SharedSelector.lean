import QueryBridge.Proofs.Materialized.Steps

set_option autoImplicit false

/-! Calls on one selector take their steps in any order, each step atomic: a request and its answer.
Reads and exchanges go to the one active selection; settings, connectors and statements are answered
by whatever the surroundings say at that time. A log of the steps, each under the call that took it,
tells what every call has done and which selection was active when. -/

namespace QueryBridge

open CacheSteps CacheEvent

variable {κ ι : Type}

def CacheRequest.answered (world : CacheHost Id κ) (active : Selection κ) :
    (request : CacheRequest κ) → request.Answer
  | settings => world.settings
  | connect kind given => world.connect kind given
  | execute connector sql => world.execute connector sql
  | read => active
  | exchange _ => ()

def CacheRequest.behind (active : Selection κ) : CacheRequest κ → Selection κ
  | exchange selection => selection
  | _ => active

theorem CacheEvent.behind_eq (e : CacheEvent κ) (active : Selection κ) :
    (∃ selection, e = exchanged selection ∧ e.request.behind active = selection) ∨
      (∀ selection, e ≠ exchanged selection) ∧ e.request.behind active = active := by
  obtain ⟨request, answer⟩ := e
  cases request with
  | exchange selection => exact .inl ⟨selection, rfl, rfl⟩
  | _ => exact .inr ⟨fun _ same => (nomatch congrArg CacheEvent.request same), rfl⟩

/-- A start of a selector: the requests of it and the selection that it comes to. -/
structure Founding (κ : Type) where
  events : List (CacheEvent κ)
  first : Selection κ
  starts : Leads (CacheSelector.start CacheSteps.host) events (.done (.ok ⟨first, 0⟩))

/-- A start on a backend that makes no tables needs no connector. -/
def Founding.disabled (settings : Settings) (h : settings.backend.hasCacheTables = false) : Founding κ where
  events := [loaded (.ok settings)]
  first := ⟨settings.backend, .disabled settings.backend⟩
  starts := by
    rw [start_asks]
    refine .ask ?_
    dsimp only
    rw [select_disabled h]
    exact .here _

def Founding.tables (settings : Settings) (h : settings.backend.hasCacheTables = true) (connector : κ) :
    Founding κ where
  events := [loaded (.ok settings), connected settings.backend settings (.ok (some connector))]
  first := ⟨settings.backend, .tables settings.backend connector⟩
  starts := by
    rw [start_asks]
    refine .ask ?_
    dsimp only
    rw [select_tables h]
    exact .ask (.here _)

def Founding.duckdb : Founding κ := .disabled { backend := .duckdb } rfl

/-- The steps so far, each under its call; those of the selector's start are under none. -/
abbrev CacheLog (κ ι : Type) := List (Option ι × CacheEvent κ)

namespace CacheLog

def eventsOf [DecidableEq ι] (label : Option ι) (log : CacheLog κ ι) : List (CacheEvent κ) :=
  log.filterMap fun entry => if entry.1 = label then some entry.2 else none

def activeAfter (first : Selection κ) (log : CacheLog κ ι) : Selection κ :=
  log.foldl (fun active entry => entry.2.request.behind active) first

def Quiet (log : CacheLog κ ι) : Prop := ∀ label selection, (label, exchanged selection) ∉ log

/-- A selection was made, or failed to be, under the label for settings that were loaded under it. -/
def MadeFrom (log : CacheLog κ ι) (label : Option ι) (settings : Settings)
    (r : Except CacheError (Selection κ)) : Prop :=
  (label, loaded (.ok settings)) ∈ log ∧ ∃ making, (∀ e ∈ making, (label, e) ∈ log) ∧ Makes settings making r

variable {log log' before after : CacheLog κ ι} {label : Option ι} {e : CacheEvent κ}

section

variable [DecidableEq ι]

theorem eventsOf_append : eventsOf label (log ++ log') = eventsOf label log ++ eventsOf label log' :=
  List.filterMap_append

theorem eventsOf_cons_self : eventsOf label ((label, e) :: log) = e :: eventsOf label log :=
  List.filterMap_cons_some (if_pos rfl)

theorem eventsOf_cons_ne {other : Option ι} (h : other ≠ label) :
    eventsOf label ((other, e) :: log) = eventsOf label log :=
  List.filterMap_cons_none (if_neg h)

theorem mem_eventsOf : e ∈ eventsOf label log ↔ (label, e) ∈ log := by
  simp only [eventsOf, List.mem_filterMap, Option.ite_none_right_eq_some, Option.some.injEq]
  constructor
  · rintro ⟨entry, mem, rfl, rfl⟩
    exact mem
  · exact fun mem => ⟨_, mem, rfl, rfl⟩

theorem eventsOf_split (first rest : List (CacheEvent κ)) (h : eventsOf label log = first ++ e :: rest) :
    ∃ before after, log = before ++ (label, e) :: after ∧ eventsOf label before = first ∧
      eventsOf label after = rest := by
  obtain ⟨front, back, rfl, ofFront, ofBack⟩ := List.filterMap_eq_append_iff.1 h
  obtain ⟨between, entry, after, rfl, others, own, ofAfter⟩ := List.filterMap_eq_cons_iff.1 ofBack
  obtain ⟨rfl, rfl⟩ : entry.1 = label ∧ entry.2 = e := by simpa using own
  refine ⟨front ++ between, after, by simp, ?_, ofAfter⟩
  rw [eventsOf_append, show eventsOf entry.1 front = first from ofFront,
    show eventsOf entry.1 between = [] from List.filterMap_eq_nil_iff.2 others, List.append_nil]

end

theorem activeAfter_append (first : Selection κ) :
    activeAfter first (log ++ log') = activeAfter (activeAfter first log) log' :=
  List.foldl_append

theorem quiet_cons : Quiet ((label, e) :: log) ↔ (∀ selection, e ≠ exchanged selection) ∧ Quiet log := by
  constructor
  · exact fun quiet => ⟨fun selection same => quiet label selection (same ▸ .head _),
      fun label selection mem => quiet label selection (.tail _ mem)⟩
  · rintro ⟨here, quiet⟩ label selection (_ | ⟨_, mem⟩)
    · exact here selection rfl
    · exact quiet label selection mem

theorem activeAfter_eq (first : Selection κ) (log : CacheLog κ ι) :
    (Quiet log ∧ activeAfter first log = first) ∨
      ∃ before label after, log = before ++ (label, exchanged (activeAfter first log)) :: after ∧ Quiet after := by
  induction log generalizing first with
  | nil => exact .inl ⟨nofun, rfl⟩
  | cons entry rest ih =>
    obtain ⟨label, e⟩ := entry
    have here : activeAfter first ((label, e) :: rest) = activeAfter (e.request.behind first) rest := rfl
    rw [here]
    rcases ih (e.request.behind first) with ⟨quiet, same⟩ | ⟨before, other, after, split, quiet⟩
    · rw [same]
      rcases e.behind_eq first with ⟨selection, rfl, behind⟩ | ⟨none, behind⟩
      · exact .inr ⟨[], label, rest, rfl, quiet⟩
      · exact .inl ⟨quiet_cons.2 ⟨none, quiet⟩, behind⟩
    · exact .inr ⟨(label, e) :: before, other, after, congrArg _ split, quiet⟩

theorem activeAfter_quiet (first : Selection κ) (h : Quiet log) : activeAfter first log = first := by
  rcases activeAfter_eq first log with ⟨-, same⟩ | ⟨before, label, after, split, -⟩
  · exact same
  · generalize activeAfter first log = last at split
    subst split
    exact (h label last (List.mem_append_right _ (.head _))).elim

theorem activeAfter_exchanged (first : Selection κ) {selection : Selection κ} (quiet : Quiet after) :
    activeAfter first (before ++ (label, exchanged selection) :: after) = selection := by
  rw [activeAfter_append]
  exact activeAfter_quiet selection quiet

theorem MadeFrom.mono {settings : Settings} {r : Except CacheError (Selection κ)} (h : MadeFrom log label settings r)
    (sub : ∀ entry ∈ log, entry ∈ log') : MadeFrom log' label settings r := by
  obtain ⟨loads, making, connects, made⟩ := h
  exact ⟨sub _ loads, making, fun e he => sub _ (connects e he), made⟩

end CacheLog

/-- A selector that calls share, and what is left of each call. -/
structure SharedSelector (κ ι : Type) where
  active : Selection κ
  calls : ι → CacheSteps κ (CacheAnswer κ)
  log : CacheLog κ ι

namespace SharedSelector

open CacheLog

def begun (founding : Founding κ) (asked : ι → CacheCall) : SharedSelector κ ι :=
  ⟨founding.first, fun i => (asked i).steps, founding.events.map (none, ·)⟩

variable [DecidableEq ι]

/-- The next step of a call; a call that has returned takes none. -/
def advance (s : SharedSelector κ ι) (i : ι) (world : CacheHost Id κ) : SharedSelector κ ι :=
  match s.calls i with
  | .done _ => s
  | .ask request next =>
    let answer := request.answered world s.active
    ⟨request.behind s.active, fun j => if j = i then next answer else s.calls j,
      s.log ++ [(some i, ⟨request, answer⟩)]⟩

/-- Steps in the order of a schedule, which names calls and says what their surroundings are like. -/
def run (s : SharedSelector κ ι) (schedule : List (ι × CacheHost Id κ)) : SharedSelector κ ι :=
  schedule.foldl (fun s step => s.advance step.1 step.2) s

variable {s : SharedSelector κ ι} {founding : Founding κ} {asked : ι → CacheCall} {i : ι}
  {world : CacheHost Id κ} {schedule before after : List (ι × CacheHost Id κ)}

theorem run_append : s.run (before ++ after) = (s.run before).run after := List.foldl_append

theorem run_snoc : s.run (before ++ [(i, world)]) = (s.run before).advance i world := run_append

theorem run_split : s.run (before ++ (i, world) :: after) = ((s.run before).advance i world).run after := run_append

/-- A step of a call that has returned does nothing; any other answers the request of the call, and leaves
the other calls alone. -/
theorem advance_cases (s : SharedSelector κ ι) (i : ι) (world : CacheHost Id κ) :
    (s.calls i).isDone ∧ s.advance i world = s ∨
      ∃ request next, s.calls i = .ask request next ∧
        (s.advance i world).active = request.behind s.active ∧
        (s.advance i world).calls i = next (request.answered world s.active) ∧
        (∀ j ≠ i, (s.advance i world).calls j = s.calls j) ∧
        (s.advance i world).log = s.log ++ [(some i, ⟨request, request.answered world s.active⟩)] := by
  unfold advance
  match s.calls i with
  | .done _ => exact .inl ⟨rfl, rfl⟩
  | .ask request next => exact .inr ⟨request, next, rfl, rfl, if_pos rfl, fun j other => if_neg other, rfl⟩

/-- What the log says of a selector and its calls. -/
structure Traced (founding : Founding κ) (asked : ι → CacheCall) (s : SharedSelector κ ι) : Prop where
  active : s.active = activeAfter founding.first s.log
  leads : ∀ i, Leads (asked i).steps (eventsOf (some i) s.log) (s.calls i)
  founded : eventsOf none s.log = founding.events
  reads : ∀ before label selection after, s.log = before ++ (label, seen selection) :: after →
    selection = activeAfter founding.first before

theorem founding_requests (founding : Founding κ) {e : CacheEvent κ} (he : e ∈ founding.events) :
    (∃ answer, e = loaded answer) ∨ ∃ kind settings answer, e = connected kind settings answer := by
  obtain ⟨settings, making, events, made⟩ := start_leads founding.starts
  rw [events] at he
  cases he with
  | head => exact .inl ⟨_, rfl⟩
  | tail _ mem => exact .inr ⟨_, _, made.making.connects mem⟩

theorem begun_events (founding : Founding κ) (asked : ι → CacheCall) (i : ι) :
    eventsOf (some i) (begun founding asked).log = [] := by
  refine List.filterMap_eq_nil_iff.2 fun entry mem => ?_
  obtain ⟨e, -, rfl⟩ := List.mem_map.1 mem
  rfl

theorem traced_begun (founding : Founding κ) (asked : ι → CacheCall) :
    Traced founding asked (begun founding asked) where
  active := by
    refine (activeAfter_quiet _ fun label selection mem => ?_).symm
    obtain ⟨e, he, same⟩ := List.mem_map.1 mem
    obtain ⟨-, rfl⟩ := Prod.mk.inj same
    rcases founding_requests founding he with ⟨_, same⟩ | ⟨_, _, _, same⟩ <;> cases same
  leads i := by
    rw [begun_events]
    exact .here _
  founded := by
    rw [eventsOf, begun, List.filterMap_map]
    exact List.filterMap_some
  reads := fun before label selection after split => by
    have mem : (label, seen selection) ∈ (begun founding asked).log :=
      split ▸ List.mem_append_right _ (.head _)
    obtain ⟨e, he, same⟩ := List.mem_map.1 mem
    obtain ⟨-, rfl⟩ := Prod.mk.inj same
    rcases founding_requests founding he with ⟨_, same⟩ | ⟨_, _, _, same⟩ <;> cases same

theorem traced_advance (h : Traced founding asked s) (i : ι) (world : CacheHost Id κ) :
    Traced founding asked (s.advance i world) := by
  rcases advance_cases s i world with ⟨-, same⟩ | ⟨request, next, asks, active, own, others, log⟩
  · rw [same]
    exact h
  constructor
  · rw [active, log, activeAfter_append, ← h.active]
    rfl
  · intro j
    rw [log, eventsOf_append]
    by_cases same : j = i
    · subst same
      rw [eventsOf_cons_self, own]
      exact (asks ▸ h.leads j).snoc _
    · rw [eventsOf_cons_ne fun label => same (Option.some.inj label).symm, others j same]
      simpa [eventsOf] using h.leads j
  · rw [log, eventsOf_append, eventsOf_cons_ne (Option.some_ne_none i), h.founded]
    exact List.append_nil _
  · intro before label selection after split
    rw [log] at split
    -- A reading is the last entry of the log, or stands further in front.
    rcases List.eq_nil_or_concat after with rfl | ⟨after, last, rfl⟩
    · obtain ⟨rfl, entry⟩ := List.append_inj' split rfl
      cases entry
      exact h.active
    · rw [List.concat_eq_append, ← List.cons_append, ← List.append_assoc] at split
      exact h.reads before label selection after (List.append_inj' split rfl).1

theorem traced_run (h : Traced founding asked s) (schedule : List (ι × CacheHost Id κ)) :
    Traced founding asked (s.run schedule) := by
  induction schedule generalizing s with
  | nil => exact h
  | cons step rest ih => exact ih (traced_advance h step.1 step.2)

theorem exchange_logged (h : Traced founding asked s) {before after : CacheLog κ ι} {label : Option ι}
    {selection : Selection κ} (split : s.log = before ++ (label, exchanged selection) :: after) :
    ∃ i settings, label = some i ∧ asked i = .reload ∧ MadeFrom before (some i) settings (.ok selection) := by
  cases label with
  | none =>
    have mem : exchanged selection ∈ founding.events := by
      rw [← h.founded, mem_eventsOf, split]
      exact List.mem_append_right _ (.head _)
    rcases founding_requests founding mem with ⟨_, same⟩ | ⟨_, _, _, same⟩ <;> cases same
  | some i =>
    have course := h.leads i
    rw [split, eventsOf_append, eventsOf_cons_self] at course
    obtain ⟨next, asks, -⟩ := leads_append course
    obtain ⟨reloads, settings, previous, making, events, -, made⟩ := exchange_asked asks
    have logged : ∀ e ∈ eventsOf (some i) before, (some i, e) ∈ before := fun e => mem_eventsOf.1
    rw [events] at logged
    exact ⟨i, settings, rfl, reloads, logged _ (.head _), making,
      fun e he => logged e (.tail _ (.tail _ he)), made⟩

/-- The active selection was made for one value of the settings. -/
theorem selection_made (h : Traced founding asked s) :
    ∃ label settings, MadeFrom s.log label settings (.ok s.active) := by
  rw [h.active]
  rcases activeAfter_eq founding.first s.log with ⟨-, same⟩ | ⟨before, label, after, split, -⟩
  · obtain ⟨settings, making, events, made⟩ := start_leads founding.starts
    have logged : ∀ e ∈ founding.events, (none, e) ∈ s.log :=
      fun e he => mem_eventsOf.1 (h.founded.symm ▸ he)
    rw [events] at logged
    rw [same]
    exact ⟨none, settings, logged _ (.head _), making, fun e he => logged e (.tail _ he), made⟩
  · obtain ⟨i, settings, rfl, -, made⟩ := exchange_logged h split
    exact ⟨some i, settings, made.mono fun entry mem => split ▸ List.mem_append_left _ mem⟩

theorem run_log (s : SharedSelector κ ι) (schedule : List (ι × CacheHost Id κ)) :
    ∃ during, (s.run schedule).log = s.log ++ during ∧
      ∀ label e, (label, e) ∈ during → ∃ step ∈ schedule, label = some step.1 := by
  induction schedule generalizing s with
  | nil => exact ⟨[], (List.append_nil _).symm, fun _ _ mem => (List.not_mem_nil mem).elim⟩
  | cons step rest ih =>
    obtain ⟨during, log, labels⟩ := ih (s.advance step.1 step.2)
    have later : ∀ label e, (label, e) ∈ during → ∃ other ∈ step :: rest, label = some other.1 := by
      intro label e mem
      obtain ⟨other, scheduled, same⟩ := labels label e mem
      exact ⟨other, .tail _ scheduled, same⟩
    rcases advance_cases s step.1 step.2 with ⟨-, same⟩ | ⟨request, next, -, -, -, -, here⟩
    · exact ⟨during, log.trans (by rw [same]), later⟩
    · rw [here, List.append_assoc] at log
      refine ⟨_, log, fun label e mem => ?_⟩
      rcases List.mem_cons.1 mem with same | mem
      · exact ⟨step, .head _, (Prod.mk.inj same).1⟩
      · exact later label e mem

theorem run_others (s : SharedSelector κ ι) (h : ∀ step ∈ schedule, step.1 ≠ i) :
    (s.run schedule).calls i = s.calls i ∧
      eventsOf (some i) (s.run schedule).log = eventsOf (some i) s.log := by
  induction schedule generalizing s with
  | nil => exact ⟨rfl, rfl⟩
  | cons step rest ih =>
    obtain ⟨calls, events⟩ := ih (s.advance step.1 step.2) fun other mem => h other (.tail _ mem)
    have other := h step (.head _)
    show (run (s.advance step.1 step.2) rest).calls i = _ ∧ eventsOf _ (run (s.advance step.1 step.2) rest).log = _
    rw [calls, events]
    rcases advance_cases s step.1 step.2 with ⟨-, same⟩ | ⟨request, next, -, -, -, others, log⟩
    · rw [same]
      exact ⟨rfl, rfl⟩
    · rw [others i other.symm, log, eventsOf_append, eventsOf_cons_ne fun label => other (Option.some.inj label)]
      exact ⟨rfl, List.append_nil _⟩

theorem not_begun (founding : Founding κ) (asked : ι → CacheCall) (h : ∀ step ∈ before, step.1 ≠ i) :
    eventsOf (some i) ((begun founding asked).run before).log = [] :=
  (run_others _ h).2.trans (begun_events founding asked i)

end SharedSelector

end QueryBridge
