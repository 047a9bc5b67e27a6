import CallMonitor.Bindings
import CallMonitor.Cli.Evaluation
import CallMonitor.Cli.Filter
import CallMonitor.Cli.Help
import CallMonitor.Cli.Report
import CallMonitor.Cli.Surroundings

/-!
The commands. Each prints its output and either succeeds or ends in a report; settings that cannot
be read are complained about and replaced by the defaults.
-/

namespace CallMonitor.Cli

open CallMonitor.Wire

inductive Exit
  | success
  | failure
  | misuse
  deriving DecidableEq, Repr

def Exit.code : Exit → Nat
  | success => 0
  | failure => 1
  | misuse => 2

structure Session where
  settings : Settings
  colours : Bool
  filter : Filter

def settingsWarning (path : Option String) (problem : Settings.Problem) : String :=
  let place :=
    match path with
    | some path => " from " ++ path
    | none => ""
  line ("[callwatch] Warning: Failed to load config" ++ place ++ ": " ++
    (Failure.settings problem).message ++ ", using defaults")

def Report.ofFailureUnder (headline : String) (failure : Failure) : Report :=
  .under headline failure.message failure.causes

abbrev Result := Except Report Unit

variable {m : Type → Type} [Monad m]

def announce (world : Surroundings m) (session : Session) (notices : List Notice) : m Unit :=
  (notices.filter session.filter.shows).forM world.tell

/-- Shows what an agent has told; the agent then starts afresh. -/
def settle (world : Surroundings m) (session : Session) (agent : PlainAgent) : m PlainAgent := do
  announce world session agent.notices
  pure { agent with notices := [] }

def showVersion (world : Surroundings m) (session : Session) : m Result := do
  world.print (line (paint session.colours .title "CallWatch" ++ " v" ++ Bindings.version) ++
    line "API call monitor and policy engine" ++ line "" ++
    line ("Core library: " ++ Bindings.libraryName))
  pure (.ok ())

/-- The place where settings are to be written. At the usual place the directory is made first. -/
def placeForSettings (world : Surroundings m) (path : Option String) :
    m (Except Settings.Problem String) :=
  match path with
  | some path => pure (.ok path)
  | none => do
      let home ← world.home
      match ← world.ensureDirectory home with
      | .error problem => pure (.error problem)
      | .ok () => pure (Settings.usualPlace home)

/-- Writes the default settings, unless something stands in their place and is to be kept. -/
def writeSettings (world : Surroundings m) (session : Session) (path : Option String)
    (force : Bool) : m Result := do
  match ← placeForSettings world path with
  | .error problem => pure (.error (.ofFailure (.settings problem)))
  | .ok path =>
      if (← world.look path).found && !force then
        world.print (line (paint session.colours .notable "Exists:" ++ " " ++ path ++
          " (use --force to overwrite)"))
        pure (.ok ())
      else
        match ← world.saveSettings Settings.usual path with
        | .error problem =>
            pure (.error (.ofFailureUnder ("Failed to write config to " ++ path)
              (.settings problem)))
        | .ok () =>
            world.print (line (paint session.colours .good "Wrote" ++ " " ++ path))
            pure (.ok ())

def serverSettings (settings : Settings) (ports : List Nat) (policy : Option String) : Settings :=
  { settings with
    server := if ports.isEmpty then settings.server else { settings.server with ports }
    policyFile := policy.or settings.policyFile }

def greeting (colours : Bool) (port : Nat) (policyPath : String) : String :=
  line "" ++
    line (paint colours .good "\u25c9 Monitoring on port" ++ " " ++
      paint colours .title (toString port)) ++
    labelled colours "Policy:" policyPath ++ line ""

def noPort (ports : List Nat) : Report :=
  ⟨"Monitor server could not start on any of " ++ Text.bracketed (ports.map toString), []⟩

def serve (world : Surroundings m) (session : Session) (ports : List Nat) (packageName : String)
    (policy : Option String) (recordInput : Bool) : m Result := do
  let settings := serverSettings session.settings ports policy
  let monitor ← world.monitor
  match Agent.create settings (← world.home) monitor Hook.idle () with
  | .error problem => pure (.error (.ofFailureUnder "Failed to build agent" (.settings problem)))
  | .ok agent =>
      let network ← world.network (settings.server.ports.map fun port =>
        ⟨settings.server.address, port⟩)
      let agent ← settle world session (agent.launch network)
      match agent.serverPort with
      | none => pure (.error (noPort settings.server.ports))
      | some port =>
          let agent ← settle world session (agent.init packageName)
          world.print (greeting session.colours port agent.policyPath)
          let agent ← world.serve (announce world session) recordInput agent
          let waited := (agent.wait.map Prod.snd).getD agent
          let _ ← settle world session waited.shutdown.2
          world.print (line (paint session.colours .faint "Monitor closed by controller"))
          pure (.ok ())

def endpointOf (world : Surroundings m) (host : String) (port : Nat) :
    m (Except Report Net.Endpoint) := do
  let place := host ++ ":" ++ toString port
  match ← world.addresses host with
  | .error reason => pure (.error ⟨"Failed to resolve " ++ place, [reason.message]⟩)
  | .ok [] => pure (.error ⟨"No address for " ++ place, []⟩)
  | .ok (address :: _) => pure (.ok ⟨address, port⟩)

def ask (world : Surroundings m) (session : Session) (format : Format)
    (question : Monitor.Command) (host : String) (port : Option Nat) (timeout : Nat) :
    m Result := do
  match port.or session.settings.server.ports.head? with
  | none => pure (.error ⟨"No port given and none configured", []⟩)
  | some port =>
      match ← endpointOf world host port with
      | .error report => pure (.error report)
      | .ok endpoint =>
          match ← world.ask { Client.ofEndpoint endpoint with timeout } question.token with
          | .error error =>
              pure (.error (.under ("Query '" ++ question.token ++ "' to " ++ endpoint.toText ++
                " failed") error.message error.causes))
          | .ok rows =>
              world.print (showRows format session.colours question rows)
              pure (.ok ())

def evaluate (world : Surroundings m) (session : Session) (format : Format)
    (query : Policy.Query) (file : Option String) : m Result := do
  match { session.settings with policyFile := file.or session.settings.policyFile }.policyPlace
      (← world.home) with
  | .error problem => pure (.error (.ofFailure (.settings problem)))
  | .ok path =>
      let state ← world.look path
      match Evaluation.ofState path state query with
      | .error error =>
          pure (.error (.under ("Failed to load policy file " ++ path) error.message error.causes))
      | .ok evaluation =>
          world.print (evaluation.shown format session.colours)
          pure (.ok ())

def perform (world : Surroundings m) (session : Session) (invocation : Invocation) : m Result :=
  match invocation.command with
  | .version => showVersion world session
  | .init force => writeSettings world session invocation.config force
  | .serve ports packageName policy recordInput =>
      serve world session ports packageName policy recordInput
  | .query question host port timeout =>
      ask world session invocation.format question host port timeout
  | .policy method resources file =>
      evaluate world session invocation.format ⟨method, resources⟩ file

/-- What a command knows beside its arguments, from the settings that it names or the usual ones.
-/
def openSession (world : Surroundings m) (invocation : Invocation) : m Session := do
  let settings ←
    match ← world.settings invocation.config with
    | .ok settings => pure settings
    | .error problem => do
        world.complain (settingsWarning invocation.config problem)
        pure Settings.usual
  let filter := Filter.parse ((← world.filter).getD settings.level)
  pure ⟨settings, (← world.styled) && !invocation.plain, filter⟩

def run (world : Surroundings m) (words : List String) : m Exit := do
  match readArguments words with
  | .refused =>
      world.complain usage
      pure .misuse
  | .showVersion scope =>
      world.print (versionLine scope)
      pure .success
  | .showHelp scope =>
      world.print (help scope)
      pure .success
  | .run invocation =>
      let session ← openSession world invocation
      match ← perform world session invocation with
      | .ok () => pure .success
      | .error report =>
          world.complain report.write
          pure .failure

end CallMonitor.Cli
