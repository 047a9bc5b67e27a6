import CallMonitor.Cli.Recorder
import CallMonitor.Cli.Surroundings

/-!
A closed world of values in which commands run: a file tree, a network with servers whose words
are known beforehand, the input, and the controllers that will ask a server started here. All that
a command does is kept in the value.
-/

namespace CallMonitor.Cli

open CallMonitor.Text CallMonitor.Wire

structure Enclosure where
  home : Option String
  filter : Option String
  styled : Bool
  files : FileTree
  network : Net.Network
  /-- The servers in the network, and what they say. -/
  peers : List (Net.Endpoint × Client.Peer)
  monitor : Monitor
  /-- The input. All of it has been read before the first controller comes. -/
  input : Bytes
  /-- What controllers ask a server started here, one after the other. -/
  questions : List String
  answers : List (Except WireError (List Row))
  /-- The last request that a server in the network got. -/
  request : Option Bytes
  printed : String
  complaints : String
  notices : List Notice

namespace Enclosure

/-- A world with nothing in it but a process's monitor. -/
def bare (monitor : Monitor) : Enclosure where
  home := none
  filter := none
  styled := false
  files := FileTree.empty
  network := Net.Network.loopbackOnly [] []
  peers := []
  monitor := monitor
  input := []
  questions := []
  answers := []
  request := none
  printed := ""
  complaints := ""
  notices := []

def changeFiles (change : FileTree → Except SystemError FileTree) :
    StateM Enclosure (Except SystemError Unit) := do
  let world ← get
  match change world.files with
  | .error reason => pure (.error reason)
  | .ok files => do
      set { world with files }
      pure (.ok ())

def peerAt (world : Enclosure) (endpoint : Net.Endpoint) : Option Client.Peer :=
  (world.peers.find? fun peer => endpoint.excludes peer.1).map (·.2)

/-- The addresses that a name stands for: there is one name, the machine's own. -/
def addressesOf (name : String) : Except SystemError (List Net.Address) :=
  if name = "localhost" then .ok [Net.Address.loopback]
  else .error (.other "failed to lookup address information: Name or service not known")

def talk (client : Client) (text : String) :
    StateM Enclosure (Except WireError (List Row)) := do
  let world ← get
  let talk := client.talk text (world.peerAt client.endpoint)
  set { world with request := talk.request.or world.request }
  pure talk.rows

def askAll (agent : PlainAgent) (client : Client) :
    List String → List (Except WireError (List Row)) × PlainAgent
  | [] => ([], agent)
  | question :: rest =>
      let (answer, agent) := agent.ask client question
      let (answers, agent) := askAll agent client rest
      (answer :: answers, agent)

def serve (announce : List Notice → StateM Enclosure Unit) (recordInput : Bool)
    (agent : PlainAgent) : StateM Enclosure PlainAgent := do
  let world ← get
  let agent := if recordInput then (recordLines agent world.input).2 else agent
  let endpoint : Net.Endpoint := ⟨agent.settings.server.address, agent.serverPort.getD 0⟩
  let (answers, agent) := askAll agent (Client.ofEndpoint endpoint) world.questions
  set { world with answers := world.answers ++ answers }
  announce agent.notices
  pure { agent with notices := [] }

def surroundings : Surroundings (StateM Enclosure) where
  home := return (← get).home
  filter := return (← get).filter
  styled := return (← get).styled
  look path := return (← get).files.look path
  write path contents := changeFiles fun files => files.write path contents
  makeDirectories path := changeFiles fun files => files.makeDirectories path
  print text := modify fun world => { world with printed := world.printed ++ text }
  complain text := modify fun world => { world with complaints := world.complaints ++ text }
  tell notice := modify fun world => { world with notices := world.notices ++ [notice] }
  resolve name := pure (addressesOf name)
  ask := talk
  monitor := return (← get).monitor
  network _ := return (← get).network
  serve := serve

end Enclosure

end CallMonitor.Cli
