import CallMonitor.Server.Stop
import CallMonitor.Settings.Basic

/-!
Starting a server: ports are tried in order, and the first one that is free is taken. A port that
is taken leads to the next one; any other obstacle ends the search.
-/

namespace CallMonitor.Server

/-- Tries ports in order on a state that every attempt may change. An attempt without a result
leads to the next port; `all` is what the search reports if no port is left. -/
def tryPorts {σ α : Type} (attempt : σ → Nat → Except StartError (Option α) × σ)
    (all : List Nat) : σ → List Nat → Except StartError (Nat × α) × σ
  | state, [] => (.error (.noPortsAvailable all), state)
  | state, port :: rest =>
      match attempt state port with
      | (.error error, state) => (.error error, state)
      | (.ok (some started), state) => (.ok (port, started), state)
      | (.ok none, state) => tryPorts attempt all state rest

def startFirst {σ α : Type} (attempt : σ → Nat → Except StartError (Option α) × σ)
    (ports : List Nat) (state : σ) : Except StartError (Nat × α) × σ :=
  tryPorts attempt ports state ports

/-- What a start works on: the network, and the notices given so far. -/
structure Ground where
  network : Net.Network
  notices : List Notice

namespace Ground

def tell (ground : Ground) (notice : Notice) : Ground :=
  { ground with notices := ground.notices ++ [notice] }

def adding (ground : Ground) (endpoint : Net.Endpoint) : Ground :=
  { ground with network := ground.network.adding endpoint }

end Ground

def Loop.endpoint {Req : Type} (loop : Loop Req) : Net.Endpoint :=
  ⟨loop.options.address, loop.port⟩

def Loop.describe {Req : Type} (loop : Loop Req) : String :=
  "ServerHandle \x7b local_addr: " ++ loop.endpoint.toText ++ ", running: " ++
    (if loop.running then "true" else "false") ++ " \x7d"

/-- Tries to start a server on a port. Nothing is started if the port is taken. -/
def startOn {Req : Type} (options : Options) (ground : Ground) (port : Nat) :
    Except StartError (Option (Loop Req)) × Ground :=
  let ground := ground.tell (.starting port)
  match ground.network.bind ⟨options.address, port⟩ with
  | .ok endpoint =>
      (.ok (some (Loop.bound endpoint.port options)),
        (ground.adding endpoint).tell (.started port endpoint.toText))
  | .error .addressInUse => (.ok none, ground.tell (.portTaken port))
  | .error reason => (.error (.bindFailed port reason), ground)

def startMonitor {Req : Type} (settings : ServerSettings) (processId : Nat) (ground : Ground) :
    Except StartError (Loop Req) × Ground :=
  match startFirst (startOn settings.options) settings.ports (ground.tell .choosing) with
  | (.error error, ground) => (.error error, ground)
  | (.ok (port, loop), ground) => (.ok loop, ground.tell (.chosen port processId))

end CallMonitor.Server
