import CallMonitor.Monitor.Action
import Mathlib.Data.List.Basic

/-!
What becomes of the entries of a log that many threads share. A call is one step, since the log's
lock is held for it, so the calls of all threads form one list in the order in which they took the
lock. The entries that have been handed out, followed by those that are still in the log, are at
every moment the entries that have been appended, in that order.

Nothing is assumed about the threads: any number of them, any calls, in any order, and calls that
abort with the lock in their hands. Only emptying the log past all checks is left out.
-/

namespace CallMonitor.Monitor

open CallMonitor.Wire

variable {Thread : Type}

/-- A call that a thread has made on the monitor, and what came of it. -/
structure Event (Thread : Type) where
  thread : Thread
  action : Action
  outcome : Except Log.SelfReference Result

/-- What comes of the calls of some threads. A list of calls is one order in which the threads take
the log's lock, and every interleaving of the threads is such a list. -/
def history (monitor : Monitor) (calls : List (Thread × Action)) : List (Event Thread) :=
  List.zipWith (fun call done => ⟨call.1, call.2, done.outcome⟩) calls
    (monitor.performAll (calls.map Prod.snd))

def after (monitor : Monitor) (actions : List Action) : Monitor :=
  ((monitor.performAll actions).getLast?.map Done.monitor).getD monitor

/-- The payload that a step offers to the log, which refuses tagged ones. -/
def Action.offered? : Action → Option String
  | .record payload => some payload
  | .push entry => some entry.payload
  | _ => none

namespace Event

/-- The entry that a call has put at the log's end, if it has put one there. -/
def appended (event : Event Thread) : List Log.Entry :=
  match event.action, event.outcome with
  | .record _, .ok (.entry entry) => [entry]
  | .push entry, .ok _ => [entry]
  | .append entry, .ok _ => [entry]
  | _, _ => []

/-- The rows that a call has handed out for good: a drain's entries, or the answer to `getLogs`. -/
def handedOut (event : Event Thread) : List Row :=
  match event.action, event.outcome with
  | .drain, .ok (.entries entries) => entries.map Row.ofEntry
  | .answer token, .ok (.rows rows) =>
      if Command.ofToken? token = some .getLogs then rows else []
  | .exchange token, .ok (.exchanged rows _) =>
      if Command.ofToken? token = some .getLogs then rows else []
  | _, _ => []

def Appends (event : Event Thread) (entry : Log.Entry) : Prop :=
  event.action = .record entry.payload ∨ event.action = .push entry ∨
    event.action = .append entry

end Event

/-- The appended entries in the order of the lock, each with the thread that appended it. -/
def ledger (events : List (Event Thread)) : List (Thread × Log.Entry) :=
  events.flatMap fun event => event.appended.map fun entry => (event.thread, entry)

def eventOf (monitor : Monitor) (thread : Thread) (action : Action) : Event Thread :=
  ⟨thread, action, (monitor.perform action).outcome⟩

theorem history_cons (monitor : Monitor) (thread : Thread) (action : Action)
    (rest : List (Thread × Action)) :
    monitor.history ((thread, action) :: rest) =
      monitor.eventOf thread action :: (monitor.perform action).monitor.history rest := rfl

theorem after_cons (monitor : Monitor) (action : Action) (rest : List Action) :
    monitor.after (action :: rest) = (monitor.perform action).monitor.after rest := by
  cases rest with
  | nil => rfl
  | cons next rest =>
      simp only [after, performAll, List.getLast?_cons_cons]
      cases last : (((monitor.perform action).monitor.perform next).monitor.performAll
        rest).getLast? <;> simp [List.getLast?_cons, last]

theorem row_of_entry_injective : Function.Injective Row.ofEntry := by
  intro first second same
  cases first
  cases second
  simp only [Row.ofEntry, Row.full, Row.mk.injEq, Option.some.injEq] at same
  obtain ⟨processId, timestamp, payload⟩ := same
  rw [processId, timestamp, payload]

/-- An answer hands out exactly the entries that it takes from the log. An answer to anything but
`getLogs` takes none, and neither does one that aborts. -/
theorem answer_conserves (monitor : Monitor) (token : String) :
    (match (monitor.answer token).outcome with
      | .ok rows => if Command.ofToken? token = some .getLogs then rows else []
      | .error _ => []) ++ (monitor.answer token).monitor.log.entries.map Row.ofEntry =
        monitor.log.entries.map Row.ofEntry := by
  unfold answer
  cases Command.ofToken? token with
  | none => simp
  | some command =>
      cases command with
      | checkConnection =>
          cases Log.checkEntries monitor.log.locked <;> simp [Log.Buffer.abandon]
      | getLogs =>
          unfold Log.Buffer.drain
          cases Log.checkEntries monitor.log.locked <;>
            simp [Log.Buffer.abandon, Log.Buffer.clear]
      | getTime => simp
      | close => simp

/-- One step neither loses nor makes up an entry, nor changes the order of the entries. -/
theorem perform_conserves (monitor : Monitor) (thread : Thread) (action : Action)
    (kept : action ≠ .clear) :
    (monitor.eventOf thread action).handedOut ++
        (monitor.perform action).monitor.log.entries.map Row.ofEntry =
      (monitor.log.entries ++ (monitor.eventOf thread action).appended).map Row.ofEntry := by
  cases action with
  | clear => exact absurd rfl kept
  | record payload =>
      simp only [eventOf, perform, onLog, Log.Buffer.record]
      cases Log.checkPayload payload <;>
        simp [Event.handedOut, Event.appended, Except.map, Log.Buffer.append]
  | push entry =>
      simp only [eventOf, perform, onLog, Log.Buffer.push]
      cases Log.checkPayload entry.payload <;>
        simp [Event.handedOut, Event.appended, Except.map, Log.Buffer.append]
  | drain =>
      simp only [eventOf, perform, onLog, Log.Buffer.drain]
      cases Log.checkEntries monitor.log.locked <;>
        simp [Event.handedOut, Event.appended, Except.map, Log.Buffer.abandon, Log.Buffer.clear]
  | answer token =>
      have conserved := monitor.answer_conserves token
      simp only [eventOf, perform, ofReply, Event.appended, List.append_nil]
      rw [← conserved]
      cases (monitor.answer token).outcome <;> rfl
  | exchange token =>
      have conserved := monitor.answer_conserves token
      simp only [eventOf, perform, ofReply, Event.appended, List.append_nil]
      rw [← conserved]
      cases (monitor.answer token).outcome <;> rfl
  | append entry => simp [eventOf, perform, Event.handedOut, Event.appended, Log.Buffer.append]
  | wait _ | setPackage _ | snapshot | isEmpty | size | asksToClose _ =>
      simp [eventOf, perform, Event.handedOut, Event.appended, Log.Buffer.wait, withPackage]

theorem history_conserves (monitor : Monitor) (calls : List (Thread × Action))
    (kept : ∀ call ∈ calls, call.2 ≠ .clear) :
    (monitor.history calls).flatMap Event.handedOut ++
        (monitor.after (calls.map Prod.snd)).log.entries.map Row.ofEntry =
      (monitor.log.entries ++ (monitor.history calls).flatMap Event.appended).map
        Row.ofEntry := by
  -- A call leaves the rest of the run some other monitor, so the claim is one about all of them.
  induction calls generalizing monitor with
  | nil => simp [history, after, performAll]
  | cons call rest ih =>
      obtain ⟨thread, action⟩ := call
      have step := monitor.perform_conserves thread action
        (kept (thread, action) List.mem_cons_self)
      have run := ih (monitor.perform action).monitor fun later member =>
        kept later (List.mem_cons_of_mem _ member)
      rw [history_cons, List.map_cons, after_cons, List.flatMap_cons, List.flatMap_cons,
        List.append_assoc, run, List.map_append, ← List.append_assoc, step, ← List.map_append,
        List.append_assoc]

/-- Every event of a run is one step on some state of the monitor. -/
theorem event_of_mem_history {monitor : Monitor} {calls : List (Thread × Action)}
    {event : Event Thread} (member : event ∈ monitor.history calls) :
    ∃ state : Monitor, event = state.eventOf event.thread event.action := by
  induction calls generalizing monitor with
  | nil => simp [history] at member
  | cons call rest ih =>
      obtain ⟨thread, action⟩ := call
      rw [history_cons, List.mem_cons] at member
      rcases member with rfl | later
      · exact ⟨monitor, rfl⟩
      · exact ih later

/-- An entry is appended by a call that was given it, or its payload, and by nothing else. -/
theorem appends_of_mem_appended (monitor : Monitor) (thread : Thread) (action : Action)
    {entry : Log.Entry} (member : entry ∈ (monitor.eventOf thread action).appended) :
    (monitor.eventOf thread action).Appends entry := by
  cases action with
  | record payload =>
      simp only [eventOf, perform, onLog, Log.Buffer.record] at member ⊢
      cases check : Log.checkPayload payload with
      | error abort => simp [check, Event.appended, Except.map] at member
      | ok _ =>
          simp only [check, Event.appended, Except.map, List.mem_singleton] at member
          exact .inl (by simp [member, Log.Buffer.stamp])
  | push given =>
      simp only [eventOf, perform, onLog, Log.Buffer.push] at member ⊢
      cases check : Log.checkPayload given.payload with
      | error abort => simp [check, Event.appended, Except.map] at member
      | ok _ =>
          simp only [check, Event.appended, Except.map, List.mem_singleton] at member
          exact .inr (.inl (by simp [member]))
  | append given =>
      simp only [eventOf, Event.appended, perform, List.mem_singleton] at member
      exact .inr (.inr (by simp [member, eventOf]))
  | _ => simp [eventOf, Event.appended] at member

/-- Recording or pushing a payload puts one entry into the log, unless the payload is tagged. -/
theorem appended_length (monitor : Monitor) (thread : Thread) (action : Action) {payload : String}
    (offered : action.offered? = some payload) :
    (monitor.eventOf thread action).appended.length =
      if Log.isTagged payload then 0 else 1 := by
  cases action with
  | record given =>
      obtain rfl : given = payload := Option.some.inj offered
      cases tagged : Log.isTagged given <;>
        simp [eventOf, Event.appended, perform, onLog, Log.Buffer.record, Log.checkPayload,
          tagged, Except.map]
  | push entry =>
      obtain rfl : entry.payload = payload := Option.some.inj offered
      cases tagged : Log.isTagged entry.payload <;>
        simp [eventOf, Event.appended, perform, onLog, Log.Buffer.push, Log.checkPayload,
          tagged, Except.map]
  | _ => cases offered

theorem ledger_entries (events : List (Event Thread)) :
    (ledger events).map Prod.snd = events.flatMap Event.appended := by
  simp [ledger, List.map_flatMap, Function.comp_def]

/-- A thread's part of the ledger is what the thread's own calls have appended, in its order. -/
theorem ledger_of_thread [DecidableEq Thread] (events : List (Event Thread)) (thread : Thread) :
    ((ledger events).filter fun item => item.1 = thread).map Prod.snd =
      (events.filter fun event => event.thread = thread).flatMap Event.appended := by
  induction events with
  | nil => rfl
  | cons event rest ih =>
      simp only [ledger, List.flatMap_cons, List.filter_append, List.map_append] at ih ⊢
      rw [ih]
      by_cases own : event.thread = thread <;> simp [List.filter_map, Function.comp_def, own]

/-- Rows that have been handed out and entries that are left split a list of entries in two. -/
theorem split_of_conserved {items : List (Thread × Log.Entry)} {rows : List Row}
    {left : List Log.Entry}
    (conserved : rows ++ left.map Row.ofEntry = (items.map Prod.snd).map Row.ofEntry) :
    ∃ out stay, out ++ stay = items ∧ rows = out.map (Row.ofEntry ∘ Prod.snd) ∧
      left = stay.map Prod.snd := by
  refine ⟨items.take rows.length, items.drop rows.length, List.take_append_drop _ _, ?_, ?_⟩
  · have taken := congrArg (List.take rows.length) conserved
    rw [List.take_left' rfl] at taken
    rw [taken]
    simp [List.map_take, Function.comp_def]
  · have dropped := congrArg (List.drop rows.length) conserved
    rw [List.drop_left' rfl, ← List.map_drop, ← List.map_drop] at dropped
    exact List.map_injective_iff.mpr row_of_entry_injective dropped

/-- Whatever calls any number of threads make on a new log, in whatever order they take its lock,
and whichever of them abort: the rows handed out by drains and by answers to `getLogs`, in order,
and then the entries still in the log, are the entries appended so far in the order of the lock.
A payload that is recorded or pushed puts one entry there unless it is tagged. So each appended
entry has either been handed out once, or is still in the log, and the entries of a thread keep the
order of its calls. -/
theorem entries_neither_lost_nor_reordered [DecidableEq Thread] (processId : Nat) (clock : Clock)
    (calls : List (Thread × Action)) (kept : ∀ call ∈ calls, call.2 ≠ .clear) :
    let events := (fresh processId clock).history calls
    let left := ((fresh processId clock).after (calls.map Prod.snd)).log.entries
    events.flatMap Event.handedOut ++ left.map Row.ofEntry =
        (events.flatMap Event.appended).map Row.ofEntry ∧
      (∀ event ∈ events, ∀ entry ∈ event.appended, event.Appends entry) ∧
      (∀ event ∈ events, ∀ payload, event.action.offered? = some payload →
        event.appended.length = if Log.isTagged payload then 0 else 1) ∧
      ∃ out stay, out ++ stay = ledger events ∧
        events.flatMap Event.handedOut = out.map (Row.ofEntry ∘ Prod.snd) ∧
        left = stay.map Prod.snd ∧
        ∀ thread, ((out ++ stay).filter fun item => item.1 = thread).map Prod.snd =
          (events.filter fun event => event.thread = thread).flatMap Event.appended := by
  intro events left
  have conserved : events.flatMap Event.handedOut ++ left.map Row.ofEntry =
      (events.flatMap Event.appended).map Row.ofEntry :=
    (fresh processId clock).history_conserves calls kept
  refine ⟨conserved, ?_, ?_, ?_⟩
  · intro event member entry appended
    obtain ⟨state, step⟩ := event_of_mem_history member
    rw [step] at appended ⊢
    exact state.appends_of_mem_appended _ _ appended
  · intro event member payload offered
    obtain ⟨state, step⟩ := event_of_mem_history member
    rw [step]
    exact state.appended_length _ _ offered
  · rw [← ledger_entries] at conserved
    obtain ⟨out, stay, whole, handed, remaining⟩ := split_of_conserved conserved
    exact ⟨out, stay, whole, handed, remaining, fun thread => by
      rw [whole, ledger_of_thread]⟩

/-- Two writers, a drain that succeeds, an answer, and a drain that aborts with the lock in its
hand, after which a writer goes on. -/
def callsPastAbort : List (Nat × Action) :=
  [(0, .record "open"), (1, .push ⟨"9", "earlier", "read"⟩), (2, .drain), (1, .record "close"),
    (3, .answer "getLogs"), (0, .append ⟨"9", "later", "CallWatch_agent"⟩), (2, .drain),
    (1, .record "again")]

theorem entries_kept_past_abort :
    (∀ call ∈ callsPastAbort, call.2 ≠ .clear) ∧
      let start := fresh 7 (Clock.anchoredAt ⟨0⟩)
      (start.history callsPastAbort).flatMap Event.handedOut ++
          (start.after (callsPastAbort.map Prod.snd)).log.entries.map Row.ofEntry =
        ((start.history callsPastAbort).flatMap Event.appended).map Row.ofEntry :=
  ⟨by decide,
    (entries_neither_lost_nor_reordered 7 (Clock.anchoredAt ⟨0⟩) callsPastAbort (by decide)).1⟩

end CallMonitor.Monitor
