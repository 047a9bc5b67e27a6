import CallMonitor.Monitor.Answer

/-!
Everything that can happen to a monitor, one step each. Whatever runs side by side, its steps on
the monitor happen one after the other, so a schedule is a list of actions.
-/

namespace CallMonitor.Monitor

open CallMonitor.Wire

inductive Action
  /-- Time passes, in nanoseconds. -/
  | wait (nanos : Nat)
  | record (payload : String)
  | push (entry : Log.Entry)
  /-- An entry is put into the log past the check of its payload. -/
  | append (entry : Log.Entry)
  /-- The log is emptied past all checks. -/
  | clear
  | drain
  | snapshot
  | isEmpty
  | size
  | answer (token : String)
  /-- A token is answered, and it is found whether the server closes after it. -/
  | exchange (token : String)
  | asksToClose (token : String)
  | setPackage (packageName : String)
  deriving DecidableEq, Repr

inductive Result
  | nothing
  | entry (entry : Log.Entry)
  | entries (entries : List Log.Entry)
  | flag (flag : Bool)
  | count (count : Nat)
  | rows (rows : List Row)
  | exchanged (rows : List Row) (close : Bool)
  deriving DecidableEq, Repr

/-- A step done: what it returned or the abort, the monitor after it, and the notices. -/
structure Done where
  outcome : Except Log.SelfReference Result
  monitor : Monitor
  notices : List Notice

def onLog {α : Type} (monitor : Monitor) (step : Log.Step α) (result : α → Result) : Done :=
  ⟨step.1.map result, { monitor with log := step.2 }, []⟩

def ofReply (reply : Reply) (result : List Row → Result) : Done :=
  ⟨reply.outcome.map result, reply.monitor, reply.notices⟩

def perform (monitor : Monitor) : Action → Done
  | .wait nanos => ⟨.ok .nothing, { monitor with log := monitor.log.wait nanos }, []⟩
  | .record payload => onLog monitor (monitor.log.record payload) .entry
  | .push entry => onLog monitor (monitor.log.push entry) fun _ => .nothing
  | .append entry => ⟨.ok .nothing, { monitor with log := monitor.log.append entry }, []⟩
  | .clear => ⟨.ok .nothing, { monitor with log := monitor.log.clear }, []⟩
  | .drain => onLog monitor monitor.log.drain .entries
  | .snapshot => ⟨.ok (.entries monitor.log.snapshot), monitor, []⟩
  | .isEmpty => ⟨.ok (.flag monitor.log.isEmpty), monitor, []⟩
  | .size => ⟨.ok (.count monitor.log.size), monitor, []⟩
  | .answer token => ofReply (monitor.answer token) .rows
  | .exchange token => ofReply (monitor.answer token) fun rows =>
      .exchanged rows (Monitor.asksToClose token)
  | .asksToClose token => ⟨.ok (.flag (Monitor.asksToClose token)), monitor, []⟩
  | .setPackage packageName => ⟨.ok .nothing, monitor.withPackage packageName, []⟩

def performAll (monitor : Monitor) : List Action → List Done
  | [] => []
  | action :: rest =>
      let done := monitor.perform action
      done :: performAll done.monitor rest

end CallMonitor.Monitor
