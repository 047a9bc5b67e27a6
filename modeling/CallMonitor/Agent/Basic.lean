import CallMonitor.Agent.Hook
import CallMonitor.Call.Record
import CallMonitor.Client
import CallMonitor.Server.Start
import CallMonitor.Settings.Place

/-!
The agent inside a monitored program. It records calls, answers policy questions, and runs the
server from which a controller fetches the call log. The server's handle is kept in one place:
a start puts it there, and a wait or a shutdown takes it out. A call that lets go of a server
returns it as it then is.
-/

namespace CallMonitor

open CallMonitor.Wire

structure Agent (τ ρ : Type) where
  settings : Settings
  policyPath : String
  monitor : Monitor
  hook : Hook τ ρ
  hookState : τ
  /-- The server that was started last, unless somebody has taken it. -/
  server : Option (Server.Loop String)
  notices : List Notice

namespace Agent

variable {τ ρ : Type}

def create (settings : Settings) (home : Option String) (monitor : Monitor) (hook : Hook τ ρ)
    (hookState : τ) : Except Settings.Problem (Agent τ ρ) :=
  (settings.policyPlace home).map fun policyPath =>
    ⟨settings, policyPath, monitor, hook, hookState, none, []⟩

/-- The agent with another hook, which starts in the given state. -/
def withHook {τ' ρ' : Type} (agent : Agent τ ρ) (hook : Hook τ' ρ') (hookState : τ') :
    Agent τ' ρ' :=
  ⟨agent.settings, agent.policyPath, agent.monitor, hook, hookState, agent.server, agent.notices⟩

def tell (agent : Agent τ ρ) (notice : Notice) : Agent τ ρ :=
  { agent with notices := agent.notices ++ [notice] }

/-- A server of the agent as a service over the agent's monitor. -/
def serviceOf (agent : Agent τ ρ) (loop : Server.Loop String) :
    Server.Service Monitor String :=
  ⟨agent.monitor, loop, agent.notices⟩

/-- The agent after something happened to a server that is not, or no longer, the agent's. -/
def absorb (agent : Agent τ ρ) (service : Server.Service Monitor String) : Agent τ ρ :=
  { agent with monitor := service.state, notices := service.notices }

def update (agent : Agent τ ρ) (service : Server.Service Monitor String) : Agent τ ρ :=
  { agent.absorb service with server := some service.loop }

def serverPort (agent : Agent τ ρ) : Option Nat :=
  (agent.server.filter fun loop => loop.running).map fun loop => loop.port

def isServing (agent : Agent τ ρ) : Bool := agent.serverPort.isSome

/-- The network as the agent finds it: others listen there, and so does the agent's own server. -/
def network (agent : Agent τ ρ) (others : Net.Network) : Net.Network :=
  match agent.server with
  | some loop => if loop.listening then others.adding loop.endpoint else others
  | none => others

/-- Binds a new server, which is not yet the agent's. -/
def bindServer (agent : Agent τ ρ) (others : Net.Network) :
    Except Server.StartError (Server.Loop String) × Agent τ ρ :=
  let (result, ground) := Server.startMonitor agent.settings.server
    agent.monitor.log.processId ⟨agent.network others, agent.notices⟩
  (result, { agent with notices := ground.notices })

def stopServer (agent : Agent τ ρ) (loop : Server.Loop String) :
    Server.Loop String × Agent τ ρ :=
  let service := (agent.serviceOf loop).stop Server.monitorHandler
  (service.loop, agent.absorb service)

def installServer (agent : Agent τ ρ) (loop : Server.Loop String) :
    Option (Server.Loop String) × Agent τ ρ :=
  let installed := { agent with server := some loop }
  match agent.server with
  | none => (none, installed)
  | some old =>
      let (stopped, agent) := installed.stopServer old
      (some stopped, agent)

def takeServer (agent : Agent τ ρ) : Option (Server.Loop String) × Agent τ ρ :=
  (agent.server, { agent with server := none })

/-- Takes the server out of its place, if it is there, and stops it. -/
def release (agent : Agent τ ρ) : Option (Server.Loop String) × Agent τ ρ :=
  match agent.takeServer with
  | (none, agent) => (none, agent)
  | (some loop, agent) =>
      let (stopped, agent) := agent.stopServer loop
      (some stopped, agent)

/-- Starts a server on the first free port of the settings, in place of an earlier one. If that
fails, the earlier one stays. -/
def start (agent : Agent τ ρ) (others : Net.Network) :
    Except Server.StartError (Nat × Option (Server.Loop String)) × Agent τ ρ :=
  match agent.bindServer others with
  | (.error error, agent) => (.error error, agent)
  | (.ok loop, agent) =>
      let (stopped, agent) := agent.installServer loop
      (.ok (loop.port, stopped), agent)

def launch (agent : Agent τ ρ) (others : Net.Network) : Agent τ ρ :=
  match agent.start others with
  | (.error error, agent) => agent.tell (.launchFailed error)
  | (.ok _, agent) => agent

def init (agent : Agent τ ρ) (packageName : String) : Agent τ ρ :=
  let agent := if agent.isServing then agent else agent.tell .serverMissing
  { agent with
    hookState := agent.hook.onInit agent.hookState packageName
    monitor := agent.monitor.withPackage packageName }

def record (agent : Agent τ ρ) (payload : String) :
    Except Log.SelfReference Unit × Agent τ ρ :=
  let (result, log) := agent.monitor.log.record payload
  (result.map fun _ => (), { agent with monitor := { agent.monitor with log } })

/-- The verdict on a call under the policy file, by what stands at its path. A file that cannot be
used allows the call and is told. -/
def verdict (agent : Agent τ ρ) (state : PathState) (query : Policy.Query) :
    Policy.Verdict × Agent τ ρ :=
  let agent :=
    match Policy.Table.load agent.policyPath state with
    | .error error => agent.tell (.policyUnusable query.method error)
    | .ok _ => agent
  (Policy.verdictUnder agent.policyPath state query, agent)

/-- Records a call and makes it between the hook's two callbacks. The call may itself use the
agent; if it aborts, the hook does not see its end. -/
def intercept (agent : Agent τ ρ) (record : Call.Record)
    (call : Agent τ ρ → Except Log.SelfReference ρ × Agent τ ρ) :
    Except Log.SelfReference ρ × Agent τ ρ :=
  let payload := record.payload
  match agent.record payload with
  | (.error abort, agent) => (.error abort, agent)
  | (.ok (), agent) =>
      match call { agent with hookState := agent.hook.beforeCall agent.hookState payload } with
      | (.error abort, agent) => (.error abort, agent)
      | (.ok result, agent) =>
          let (result, hookState) := agent.hook.afterCall agent.hookState payload result
          (.ok result, { agent with hookState })

/-- Waits for the server's end, with the server taken out of its place. There is no result while
the server goes on, because the wait then goes on too. -/
def wait (agent : Agent τ ρ) : Option (Option (Server.Loop String) × Agent τ ρ) :=
  match agent.takeServer with
  | (none, agent) => some (none, agent)
  | (some loop, agent) =>
      if loop.hasEnded then
        let service := (agent.serviceOf loop).join
        some (some service.loop, agent.absorb service)
      else none

/-- Stops the server, if it is in its place, and tells the hook. -/
def shutdown (agent : Agent τ ρ) : Option (Server.Loop String) × Agent τ ρ :=
  let (stopped, agent) := agent.release
  let agent :=
    match stopped with
    | none => agent
    | some loop => agent.tell (.agentStopped loop.port)
  (stopped, { agent with hookState := agent.hook.onFinalize agent.hookState })

def ask (agent : Agent τ ρ) (client : Client) (token : String) :
    Except WireError (List Row) × Agent τ ρ :=
  match agent.server with
  | none => (.error (.io .connectionRefused), agent)
  | some loop =>
      let (result, service) := client.ask Server.monitorHandler (agent.serviceOf loop) token
      (result, agent.update service)

def describe (agent : Agent τ ρ) : String :=
  let port :=
    match agent.serverPort with
    | none => "None"
    | some port => "Some(" ++ toString port ++ ")"
  "Agent \x7b server_port: " ++ port ++ ", policy: " ++ Text.quote agent.policyPath ++
    ", context: " ++ agent.monitor.context.describe ++ ", buffered: " ++
    toString agent.monitor.log.size ++ " \x7d"

end Agent

end CallMonitor
