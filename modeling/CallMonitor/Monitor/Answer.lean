import CallMonitor.Context
import CallMonitor.Log.Buffer
import CallMonitor.Monitor.Command
import CallMonitor.Notice
import CallMonitor.Wire.Body

/-!
What the monitor answers. The call log and the host's context are one state, on which every
command is one step. A step that finds a tagged entry where it would hand entries out, or show
that the monitor is alive, aborts and leaves the entries as they were.
-/

namespace CallMonitor

/-- The state that a monitor serves: the call log and the host's context. -/
structure Monitor where
  log : Log.Buffer
  context : Context
  deriving DecidableEq, Repr

namespace Monitor

open CallMonitor.Wire

structure Reply where
  outcome : Except Log.SelfReference (List Row)
  monitor : Monitor
  notices : List Notice

def fresh (processId : Nat) (clock : Clock) : Monitor :=
  ⟨Log.Buffer.new processId clock, Context.unset⟩

def withPackage (monitor : Monitor) (packageName : String) : Monitor :=
  { monitor with context := monitor.context.set packageName }

def aliveRow (monitor : Monitor) : Row :=
  Row.full (toString monitor.log.processId) monitor.context.packageName ""

/-- Answers a command, or a token that is none. The log's lock is held meanwhile. -/
def answer (monitor : Monitor) (token : String) : Reply :=
  match Command.ofToken? token with
  | some .checkConnection =>
      match Log.checkEntries monitor.log.locked with
      | .error abort => ⟨.error abort, { monitor with log := monitor.log.abandon }, []⟩
      | .ok () => ⟨.ok [monitor.aliveRow], monitor, []⟩
  | some .getLogs =>
      match monitor.log.drain with
      | (.error abort, log) => ⟨.error abort, { monitor with log }, []⟩
      | (.ok entries, log) => ⟨.ok (entries.map Row.ofEntry), { monitor with log }, []⟩
  | some .getTime =>
      let time := monitor.log.clock.nowText
      ⟨.ok [Row.single time], monitor, [.timeTold time]⟩
  | some .close => ⟨.ok [], monitor, []⟩
  | none => ⟨.ok [], monitor, [.unknownCommand token]⟩

def asksToClose (token : String) : Bool :=
  Command.ofToken? token == some .close

end Monitor

end CallMonitor
