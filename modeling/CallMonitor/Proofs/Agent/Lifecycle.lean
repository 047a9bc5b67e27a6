import CallMonitor.Agent.Basic
import CallMonitor.Proofs.Server.Dismissal
import CallMonitor.Proofs.Server.Starting

/-!
The servers of one agent, one call after the other. A start may replace a server and a wait or a
shutdown may take one out of its place, so an agent has had many servers in the end. `History` keeps
the ports that starts have returned, and the servers that calls have let go of, each as the call
returned it. Every server that was started is either among those or in its place, so none is lost
sight of; and whatever the calls were and whatever controllers did meanwhile, only the server in its
place can be open, and it is the one whose port the agent reports.
-/

namespace CallMonitor.Agent

open CallMonitor.Server

variable {τ ρ : Type}

/-- What controllers may do to a server: one connects, or something happens to a connection, such
as bytes that arrive or a peer that ends. What has been shut down stays so. -/
inductive Deed
  | connect
  | change (number : Nat) (f : Connection → Connection)
      (lasting : ∀ connection, connection.cut = true → (f connection).cut = true)

def Deed.on (deed : Deed) (loop : Loop String) : Loop String :=
  match deed with
  | .connect =>
      match loop.connect Connection.silent with
      | none => loop
      | some (_, loop) => loop
  | .change number f _ => loop.change number f

/-- The agent after a controller has done something to its server, and the server has gone on until
it waits again or has ended. -/
def visited (agent : Agent τ ρ) (deed : Deed) : Agent τ ρ :=
  match agent.server with
  | none => agent
  | some loop => agent.update ((agent.serviceOf loop).nudge monitorHandler deed.on)

inductive Operation
  | start (others : Net.Network)
  | init (packageName : String)
  | record (payload : String)
  | wait
  | shutdown
  | visit (deed : Deed)

/-- What an operation leaves: the port of a server that it has started, the server that it has let
go of, and the agent. -/
structure Outcome (τ ρ : Type) where
  opened : Option Nat
  dismissed : Option (Loop String)
  agent : Agent τ ρ

/-- There is no outcome while a wait does not return. -/
def perform (agent : Agent τ ρ) : Operation → Option (Outcome τ ρ)
  | .start others =>
      match agent.start others with
      | (.error _, agent) => some ⟨none, none, agent⟩
      | (.ok (port, stopped), agent) => some ⟨some port, stopped, agent⟩
  | .init packageName => some ⟨none, none, agent.init packageName⟩
  | .record payload => some ⟨none, none, (agent.record payload).2⟩
  | .wait => agent.wait.map fun (waited, agent) => ⟨none, waited, agent⟩
  | .shutdown => some ⟨none, agent.shutdown.1, agent.shutdown.2⟩
  | .visit deed => some ⟨none, none, agent.visited deed⟩

/-- What becomes of an agent by operations one after the other, with the ports of all servers that
it has started on the way and all servers that it has let go of. -/
inductive History (first : Agent τ ρ) : List Nat → List (Loop String) → Agent τ ρ → Prop
  | start : History first [] [] first
  | perform {ports : List Nat} {gone : List (Loop String)} {agent : Agent τ ρ}
      {outcome : Outcome τ ρ} (before : History first ports gone agent) (operation : Operation)
      (performed : agent.perform operation = some outcome) :
      History first (ports ++ outcome.opened.toList) (gone ++ outcome.dismissed.toList)
        outcome.agent

/-- The servers of an agent whose ports are open, among those it has let go of and the one in its
place. -/
def listeners (gone : List (Loop String)) (agent : Agent τ ρ) : List (Loop String) :=
  (gone ++ agent.server.toList).filter fun loop => loop.listening

/-- What holds after any operations: the server in its place is at rest and has not been stopped,
all others are closed, and there are no more of them than were started. -/
structure Orderly (ports : List Nat) (gone : List (Loop String)) (agent : Agent τ ρ) : Prop where
  sound : ∀ loop, agent.server = some loop → Sound .idle loop
  rests : ∀ loop, agent.server = some loop →
    (agent.serviceOf loop).step monitorHandler = none
  settled : ∀ loop, agent.server = some loop → loop.options = agent.settings.server.options
  closed : ∀ loop ∈ gone, loop.IsClosed
  accounted : (gone ++ agent.server.toList).map (fun loop => loop.port) = ports

theorem Orderly.of_none {gone : List (Loop String)} {agent : Agent τ ρ}
    (vacant : agent.server = none) (closed : ∀ loop ∈ gone, loop.IsClosed) :
    Orderly (gone.map fun loop => loop.port) gone agent := by
  refine ⟨?_, ?_, ?_, closed, ?_⟩ <;> simp [vacant]

theorem Orderly.of_same {ports : List Nat} {gone : List (Loop String)} {agent later : Agent τ ρ}
    (orderly : Orderly ports gone agent) (server : later.server = agent.server)
    (settings : later.settings = agent.settings) : Orderly ports gone later := by
  refine ⟨?_, ?_, ?_, orderly.closed, ?_⟩
  · rw [server]
    exact orderly.sound
  · rw [server]
    intro loop placed
    have same : (later.serviceOf loop).loop = (agent.serviceOf loop).loop := rfl
    exact Service.rests_congr same (orderly.rests loop placed)
  · rw [server, settings]
    exact orderly.settled
  · rw [server]
    exact orderly.accounted

/-- A server that an agent has let go of: it is the one that was in its place, and is closed. -/
structure LetGo (agent : Agent τ ρ) (dismissed : Option (Loop String)) : Prop where
  port : (dismissed.map fun loop => loop.port) = agent.server.map fun loop => loop.port
  closed : ∀ loop, dismissed = some loop → loop.IsClosed

theorem Orderly.let_go {ports : List Nat} {gone : List (Loop String)} {agent later : Agent τ ρ}
    {dismissed : Option (Loop String)} (orderly : Orderly ports gone agent)
    (letGo : agent.LetGo dismissed) (vacant : later.server = none) :
    Orderly ports (gone ++ dismissed.toList) later := by
  have closed : ∀ loop ∈ gone ++ dismissed.toList, loop.IsClosed := by
    intro loop member
    rcases List.mem_append.mp member with before | now
    · exact orderly.closed loop before
    · exact letGo.closed loop (Option.mem_toList.mp now)
  have accounted := orderly.accounted
  rw [List.map_append, ← Option.toList_map, ← letGo.port, Option.toList_map, ← List.map_append]
    at accounted
  exact accounted ▸ .of_none vacant closed

def telling (agent : Agent τ ρ) (notices : List Notice) : Agent τ ρ := { agent with notices }

/-- How a start of an agent ends: nothing but what was told has changed, or a new server listens at
the endpoint that the network gave it and has been put in the place. -/
inductive Starts (agent : Agent τ ρ) (others : Net.Network) :
    Except StartError (Nat × Option (Loop String)) × Agent τ ρ → Prop
  | failed {error : StartError} (notices : List Notice)
      (reason : error = .noPortsAvailable agent.settings.server.ports ∧
          (∀ port ∈ agent.settings.server.ports,
            InUse (agent.network others) agent.settings.server.address port) ∨
        ∃ port ∈ agent.settings.server.ports, ∃ refusal, error = .bindFailed port refusal ∧
          refusal ≠ .addressInUse ∧
          (agent.network others).bind ⟨agent.settings.server.address, port⟩ = .error refusal) :
      Starts agent others (.error error, agent.telling notices)
  | started {port : Nat} {endpoint : Net.Endpoint} {stopped : Option (Loop String)}
      {later : Agent τ ρ} (notices : List Notice) (listed : port ∈ agent.settings.server.ports)
      (bound : (agent.network others).bind ⟨agent.settings.server.address, port⟩ = .ok endpoint)
      (installed : (agent.telling notices).installServer
        (.bound endpoint.port agent.settings.server.options) = (stopped, later)) :
      Starts agent others (.ok (endpoint.port, stopped), later)

theorem start_starts (agent : Agent τ ρ) (others : Net.Network) :
    Starts agent others (agent.start others) := by
  have ends := @start_monitor_ends String agent.settings.server agent.monitor.log.processId
    ⟨agent.network others, agent.notices⟩
  unfold start bindServer
  dsimp only
  generalize startMonitor agent.settings.server agent.monitor.log.processId
    ⟨agent.network others, agent.notices⟩ = came at ends
  cases ends with
  | started split taken free =>
      exact .started _ (by rw [split]; simp) free rfl
  | refused split taken refused hard =>
      exact .failed _ (.inr ⟨_, by rw [split]; simp, _, rfl, hard, refused⟩)
  | exhausted taken => exact .failed _ (.inl ⟨rfl, taken⟩)

theorem install_server (agent : Agent τ ρ) (loop : Loop String) :
    (agent.installServer loop).1 = agent.server.map (fun old => (agent.stopServer old).1) ∧
      (agent.installServer loop).2.server = some loop ∧
      (agent.installServer loop).2.settings = agent.settings := by
  unfold installServer
  cases agent.server <;> exact ⟨rfl, rfl, rfl⟩

theorem shutdown_server (agent : Agent τ ρ) :
    agent.shutdown.1 = agent.server.map (fun loop => (agent.stopServer loop).1) ∧
      agent.shutdown.2.server = none := by
  unfold shutdown release takeServer
  cases agent.server <;> exact ⟨rfl, rfl⟩

namespace Deed

theorem sound {loop : Loop String} (sound : Sound .idle loop) (deed : Deed) :
    Sound .idle (deed.on loop) := by
  cases deed with
  | connect =>
      unfold on
      dsimp only
      split
      · exact sound
      · rename_i connected
        exact (sound.connect connected).1
  | change number f lasting => exact sound.change number lasting

theorem keeps (deed : Deed) (loop : Loop String) :
    (deed.on loop).options = loop.options ∧ (deed.on loop).port = loop.port := by
  cases deed with
  | connect =>
      unfold on
      dsimp only
      split
      · exact ⟨rfl, rfl⟩
      · rename_i connected
        exact ⟨Loop.connect_options connected, (Loop.untouched_by_connect connected).port⟩
  | change => exact ⟨rfl, rfl⟩

end Deed

namespace Orderly

variable {ports : List Nat} {gone : List (Loop String)} {agent later : Agent τ ρ}

/-- A server that an orderly agent stops is closed, and the agent's monitor is as before. -/
theorem stopped (orderly : Orderly ports gone agent) {loop : Loop String}
    (placed : agent.server = some loop) :
    (agent.stopServer loop).1.IsClosed ∧ (agent.stopServer loop).1.port = loop.port ∧
      (agent.stopServer loop).2.monitor = agent.monitor := by
  have sound : Sound .idle (agent.serviceOf loop).loop := orderly.sound loop placed
  obtain ⟨closed, port⟩ := Service.stop_closes monitorHandler sound
  exact ⟨closed, port, Service.stop_keeps_state sound (orderly.rests loop placed)⟩

theorem lets_go (orderly : Orderly ports gone agent) :
    agent.LetGo (agent.server.map fun loop => (agent.stopServer loop).1) := by
  constructor
  · rw [Option.map_map]
    apply Option.map_congr
    intro loop placed
    exact (orderly.stopped placed).2.1
  · intro other dismissed
    obtain ⟨loop, placed, rfl⟩ := Option.map_eq_some_iff.mp dismissed
    exact (orderly.stopped placed).1

/-- A new server stands in the place, and the one before has been let go of. -/
theorem install (orderly : Orderly ports gone agent) {port : Nat}
    {stopped : Option (Loop String)}
    (installed : agent.installServer (.bound port agent.settings.server.options) =
      (stopped, later)) :
    agent.LetGo stopped ∧ Orderly (ports ++ [port]) (gone ++ stopped.toList) later := by
  have letGo := orderly.lets_go
  obtain ⟨old, placed, same⟩ := agent.install_server
    (.bound port agent.settings.server.options)
  rw [installed] at old placed same
  rw [← old] at letGo
  -- Without the new server, the agent is one that has only let go of the old one.
  have without : Orderly ports (gone ++ stopped.toList) { later with server := none } :=
    orderly.let_go letGo rfl
  refine ⟨letGo, ?_, ?_, ?_, without.closed, ?_⟩
  · rw [placed]
    rintro loop ⟨⟩
    exact Sound.bound _ _
  · rw [placed]
    rintro loop ⟨⟩
    rfl
  · rw [placed, same]
    rintro loop ⟨⟩
    rfl
  · have accounted := without.accounted
    rw [Option.toList_none, List.append_nil] at accounted
    rw [placed, List.map_append, accounted]
    rfl

theorem shutdown (orderly : Orderly ports gone agent) :
    agent.LetGo agent.shutdown.1 ∧
      Orderly ports (gone ++ agent.shutdown.1.toList) agent.shutdown.2 := by
  obtain ⟨stopped, vacant⟩ := agent.shutdown_server
  have letGo := orderly.lets_go
  rw [← stopped] at letGo
  exact ⟨letGo, orderly.let_go letGo vacant⟩

/-- A wait returns when the server has ended, and then its port is closed. -/
theorem wait (orderly : Orderly ports gone agent) {waited : Option (Loop String)}
    (returned : agent.wait = some (waited, later)) :
    agent.LetGo waited ∧ Orderly ports (gone ++ waited.toList) later := by
  suffices both : agent.LetGo waited ∧ later.server = none from
    ⟨both.1, orderly.let_go both.1 both.2⟩
  unfold Agent.wait takeServer at returned
  cases placed : agent.server with
  | none =>
      rw [placed] at returned
      cases returned
      exact ⟨⟨by rw [placed], by simp⟩, rfl⟩
  | some loop =>
      rw [placed] at returned
      dsimp only at returned
      split at returned
      · rename_i ended
        cases returned
        have shut : loop.listening = false := by
          have listens := (orderly.sound loop placed).listens
          rw [Loop.has_ended_iff.mp ended] at listens
          simpa using listens
        refine ⟨⟨by rw [placed]; rfl, ?_⟩, rfl⟩
        rintro other ⟨⟩
        exact ⟨shut, ended⟩
      · cases returned

theorem visit (orderly : Orderly ports gone agent) (deed : Deed) :
    Orderly ports gone (agent.visited deed) := by
  unfold visited
  cases placed : agent.server with
  | none => exact orderly
  | some loop =>
      obtain ⟨options, port⟩ := deed.keeps loop
      have sound : Sound .idle (deed.on loop) := deed.sound (orderly.sound loop placed)
      have turns : Turns monitorHandler
          ⟨.idle, (agent.serviceOf loop).moved (deed.on loop) []⟩ []
          ⟨.idle, (agent.serviceOf loop).moved (deed.on loop) []⟩ := .none
      obtain ⟨movers, advanced⟩ := turns.advance_for
        ((agent.serviceOf loop).moved (deed.on loop) []).patience
      refine ⟨?_, ?_, ?_, orderly.closed, ?_⟩
      · rintro other ⟨⟩
        exact advanced.sound sound
      · rintro other ⟨⟩
        exact Service.advance_rests _
      · rintro other ⟨⟩
        exact (Service.advance_options _ _).trans (options.trans (orderly.settled loop placed))
      · have same : ((agent.serviceOf loop).nudge monitorHandler deed.on).loop.port = loop.port :=
          advanced.port.trans port
        have accounted := orderly.accounted
        rw [placed, List.map_append, Option.toList_some, List.map_singleton, ← same] at accounted
        rw [List.map_append]
        exact accounted

theorem unopened (orderly : Orderly ports gone agent) :
    Orderly (ports ++ (none : Option Nat).toList)
      (gone ++ (none : Option (Loop String)).toList) agent := by
  rw [Option.toList_none, Option.toList_none, List.append_nil, List.append_nil]
  exact orderly

theorem perform (orderly : Orderly ports gone agent) {operation : Operation}
    {outcome : Outcome τ ρ} (performed : agent.perform operation = some outcome) :
    Orderly (ports ++ outcome.opened.toList) (gone ++ outcome.dismissed.toList)
      outcome.agent := by
  cases operation with
  | start others =>
      have starts := agent.start_starts others
      have telling (notices : List Notice) : Orderly ports gone (agent.telling notices) :=
        orderly.of_same rfl rfl
      simp only [Agent.perform] at performed
      generalize agent.start others = came at starts performed
      cases starts with
      | failed notices =>
          cases performed
          exact (telling notices).unopened
      | started notices listed bound installed =>
          cases performed
          exact ((telling notices).install installed).2
  | wait =>
      obtain ⟨⟨waited, later⟩, returned, rfl⟩ := Option.map_eq_some_iff.mp performed
      rw [Option.toList_none, List.append_nil]
      exact (orderly.wait returned).2
  | shutdown =>
      cases performed
      rw [Option.toList_none, List.append_nil]
      exact orderly.shutdown.2
  | init packageName =>
      cases performed
      have kept : (agent.init packageName).server = agent.server ∧
          (agent.init packageName).settings = agent.settings := by
        unfold Agent.init
        dsimp only
        split <;> exact ⟨rfl, rfl⟩
      exact (orderly.of_same kept.1 kept.2).unopened
  | record payload =>
      cases performed
      have kept : Orderly ports gone (agent.record payload).2 := orderly.of_same rfl rfl
      exact kept.unopened
  | visit deed =>
      cases performed
      exact (orderly.visit deed).unopened

end Orderly

theorem History.orderly {first agent : Agent τ ρ} {ports : List Nat} {gone : List (Loop String)}
    (history : History first ports gone agent) (vacant : first.server = none) :
    Orderly ports gone agent := by
  induction history with
  | start =>
      have closed : ∀ loop ∈ ([] : List (Loop String)), loop.IsClosed := by simp
      exact .of_none vacant closed
  | perform before operation performed ih => exact ih.perform performed

section Visits

variable {first agent : Agent τ ρ} {ports : List Nat} {gone : List (Loop String)}

theorem History.visit (history : History first ports gone agent) (deed : Deed) :
    History first ports gone (agent.visited deed) := by
  have visited := history.perform (.visit deed) rfl
  rw [Option.toList_none, Option.toList_none, List.append_nil, List.append_nil] at visited
  exact visited

theorem History.nudge {service : Service Monitor String}
    (history : History first ports gone (agent.update service)) (deed : Deed) :
    History first ports gone (agent.update (service.nudge monitorHandler deed.on)) :=
  history.visit deed

theorem History.deliver {service : Service Monitor String}
    (history : History first ports gone (agent.update service)) (number : Nat)
    (bytes : Text.Bytes) :
    History first ports gone
      (agent.update (service.nudge monitorHandler (·.deliver number bytes))) :=
  history.nudge (.change number
    (fun connection => { connection with arrived := connection.arrived ++ bytes }) fun _ cut => cut)

theorem History.finish {service : Service Monitor String}
    (history : History first ports gone (agent.update service)) (number : Nat) :
    History first ports gone
      (agent.update (service.nudge monitorHandler (·.finishSending number))) :=
  history.nudge (.change number
    (fun connection => { connection with ended := true }) fun _ cut => cut)

/-- A controller that asks the agent's server connects, sends its request and ends, so a history
tells of it. -/
theorem History.ask (history : History first ports gone agent) (client : Client) (token : String) :
    History first ports gone (agent.ask client token).2 := by
  unfold Agent.ask
  cases placed : agent.server with
  | none => exact history
  | some loop =>
      have same : agent.update (agent.serviceOf loop) = agent := by
        unfold update absorb serviceOf
        rw [← placed]
      have stays : History first ports gone (agent.update (agent.serviceOf loop)) := same ▸ history
      unfold Client.ask
      dsimp only
      cases client.refusesToConnect with
      | some reason => exact stays
      | none =>
          cases connected : (agent.serviceOf loop).loop.connect Connection.silent with
          | none =>
              simp only [Service.connect, connected]
              exact stays
          | some joined =>
              have greeted := stays.nudge .connect
              simp only [Deed.on, Service.nudge, connected] at greeted
              simp only [Service.connect, connected]
              split
              · exact greeted
              · exact greeted.finish _
              · split <;> exact (greeted.deliver _ _).finish _

end Visits

section Ports

variable {ports : List Nat} {gone : List (Loop String)} {agent later : Agent τ ρ}

theorem Orderly.listeners_eq (orderly : Orderly ports gone agent) :
    listeners gone agent = agent.server.toList.filter fun loop => loop.listening := by
  have shut : gone.filter (fun loop => loop.listening) = [] := by
    apply List.filter_eq_nil_iff.mpr
    intro loop member
    rw [(orderly.closed loop member).shut]
    decide
  rw [listeners, List.filter_append, shut, List.nil_append]

theorem Orderly.running_eq_listening (orderly : Orderly ports gone agent) {loop : Loop String}
    (placed : agent.server = some loop) : loop.running = loop.listening := by
  have sound : Sound .idle (agent.serviceOf loop).loop := orderly.sound loop placed
  exact sound.running_eq_listening (orderly.rests loop placed)

theorem Orderly.server_port_eq (orderly : Orderly ports gone agent) :
    agent.serverPort = ((listeners gone agent).head?).map fun loop => loop.port := by
  rw [orderly.listeners_eq, serverPort]
  cases placed : agent.server with
  | none => rfl
  | some loop =>
      have same := orderly.running_eq_listening placed
      cases opened : loop.listening <;> simp [Option.filter, same, opened]

/-- While a server of the agent is open, a start finds its port taken. -/
theorem Orderly.own_port_taken (orderly : Orderly ports gone agent) {port : Nat}
    (serves : agent.serverPort = some port) (others : Net.Network) :
    (agent.network others).isTaken ⟨agent.settings.server.address, port⟩ = true := by
  rw [orderly.server_port_eq, orderly.listeners_eq] at serves
  cases placed : agent.server with
  | none => simp [placed] at serves
  | some loop =>
      cases opened : loop.listening with
      | false => simp [placed, opened] at serves
      | true =>
          have own : loop.endpoint = ⟨agent.settings.server.address, port⟩ := by
            simp only [placed, Option.toList_some, List.filter_cons, opened, if_true,
              List.filter_nil, List.head?_cons, Option.map_some, Option.some.injEq] at serves
            rw [Loop.endpoint, orderly.settled loop placed, serves]
            rfl
          simp [network, placed, opened, Net.Network.isTaken, Net.Network.adding, own,
            Net.Endpoint.excludes]

theorem Orderly.wait_returns_iff (orderly : Orderly ports gone agent) :
    agent.wait.isSome = true ↔ agent.serverPort = none := by
  rw [orderly.server_port_eq, orderly.listeners_eq]
  unfold Agent.wait takeServer
  cases placed : agent.server with
  | none => simp
  | some loop =>
      have ended := (orderly.sound loop placed).has_ended_eq
      rw [orderly.running_eq_listening placed] at ended
      cases opened : loop.listening <;> simp [ended, opened]

/-- Servers come and go without the call log or the context being touched. -/
theorem Orderly.monitor_of_start (orderly : Orderly ports gone agent) (others : Net.Network) :
    (agent.start others).2.monitor = agent.monitor := by
  have starts := agent.start_starts others
  generalize agent.start others = came at starts
  cases starts with
  | failed => rfl
  | started notices listed bound installed =>
      have telling : Orderly ports gone (agent.telling notices) := orderly.of_same rfl rfl
      have later := congrArg (fun installed => installed.2.monitor) installed
      rw [← show _ = _ from later]
      unfold installServer
      cases placed : (agent.telling notices).server with
      | none => rfl
      | some loop => exact (telling.stopped placed).2.2

theorem Orderly.monitor_of_shutdown (orderly : Orderly ports gone agent) :
    agent.shutdown.2.monitor = agent.monitor := by
  unfold Agent.shutdown release takeServer
  cases placed : agent.server with
  | none => rfl
  | some loop => exact (orderly.stopped placed).2.2

theorem monitor_of_wait {waited : Option (Loop String)}
    (returned : agent.wait = some (waited, later)) : later.monitor = agent.monitor := by
  unfold wait takeServer at returned
  cases placed : agent.server with
  | none =>
      rw [placed] at returned
      cases returned
      rfl
  | some loop =>
      rw [placed] at returned
      dsimp only at returned
      split at returned <;> cases returned
      rfl

end Ports

/-- An agent that starts without a server, and whatever is done with it one after the other: starts
with any ports in use, calls recorded, waits that return, shutdowns, and whatever controllers do to
its server, which goes on until it waits again. Every server that was ever started has been let go
of and is closed, or is in its place. At most one is open, and the agent reports that one's port and
otherwise none.

A start finds the port of the agent's own open server in use. If it fails, the open server stays
open and reported; it fails only if all ports are in use, or if the network refuses a port. If it
does not fail, the server before has been stopped, and the new one is open, at the endpoint that the
network gave it, and no other one. A wait returns exactly if no server is open. After a shutdown
none is, since the shutdown has stopped the one that was. None of the three touches the call log. -/
theorem one_server_open {first agent : Agent τ ρ} {ports : List Nat} {gone : List (Loop String)}
    (vacant : first.server = none) (history : History first ports gone agent) :
    (gone ++ agent.server.toList).map (fun loop => loop.port) = ports ∧
    (∀ loop ∈ gone, loop.IsClosed) ∧
    (listeners gone agent).length ≤ 1 ∧
    (∀ port, agent.serverPort = some port ↔ ∃ loop ∈ listeners gone agent, loop.port = port) ∧
    (∀ others port, agent.serverPort = some port →
      (agent.network others).isTaken ⟨agent.settings.server.address, port⟩ = true) ∧
    (∀ others, match agent.start others with
      | (.error error, later) =>
          listeners gone later = listeners gone agent ∧
          later.serverPort = agent.serverPort ∧
          (error = .noPortsAvailable agent.settings.server.ports ∧
              (∀ port ∈ agent.settings.server.ports,
                InUse (agent.network others) agent.settings.server.address port) ∨
            ∃ port ∈ agent.settings.server.ports, ∃ refusal,
              error = .bindFailed port refusal ∧ refusal ≠ .addressInUse ∧
              (agent.network others).bind ⟨agent.settings.server.address, port⟩ =
                .error refusal)
      | (.ok (port, stopped), later) =>
          let loop := .bound port agent.settings.server.options
          agent.LetGo stopped ∧
          listeners (gone ++ stopped.toList) later = [loop] ∧
          later.serverPort = some port ∧
          ∃ asked ∈ agent.settings.server.ports,
            (agent.network others).bind ⟨agent.settings.server.address, asked⟩ =
              .ok loop.endpoint) ∧
    (agent.wait.isSome = true ↔ agent.serverPort = none) ∧
    (∀ waited later, agent.wait = some (waited, later) →
      agent.LetGo waited ∧ later.monitor = agent.monitor) ∧
    agent.LetGo agent.shutdown.1 ∧
    listeners (gone ++ agent.shutdown.1.toList) agent.shutdown.2 = [] ∧
    (∀ others, (agent.start others).2.monitor = agent.monitor) ∧
    agent.shutdown.2.monitor = agent.monitor := by
  have orderly := history.orderly vacant
  refine ⟨orderly.accounted, orderly.closed, ?_, ?_,
    fun others _ serves => orderly.own_port_taken serves others, ?_, orderly.wait_returns_iff,
    fun _ _ returned => ⟨(orderly.wait returned).1, monitor_of_wait returned⟩,
    orderly.shutdown.1, ?_, orderly.monitor_of_start, orderly.monitor_of_shutdown⟩
  · rw [orderly.listeners_eq]
    cases agent.server with
    | none => simp
    | some loop => exact List.length_filter_le _ _
  · intro port
    rw [orderly.server_port_eq, orderly.listeners_eq]
    cases agent.server with
    | none => simp
    | some loop => cases opened : loop.listening <;> simp [opened]
  · intro others
    have starts := agent.start_starts others
    generalize agent.start others = came at starts
    cases starts with
    | failed notices reason => exact ⟨rfl, rfl, reason⟩
    | @started port endpoint stopped later notices listed bound installed =>
        have telling : Orderly ports gone (agent.telling notices) := orderly.of_same rfl rfl
        obtain ⟨letGo, after⟩ := telling.install installed
        obtain ⟨-, placed, -⟩ := (agent.telling notices).install_server
          (.bound endpoint.port agent.settings.server.options)
        rw [installed] at placed
        have only : listeners (gone ++ stopped.toList) later = _ := after.listeners_eq
        rw [placed] at only
        refine ⟨⟨letGo.port, letGo.closed⟩, only, ?_, port, listed, ?_⟩
        · rw [after.server_port_eq, only]
          rfl
        · have own : endpoint = Loop.endpoint
              (.bound endpoint.port agent.settings.server.options : Loop String) := by
            rw [Loop.endpoint]
            exact congrArg (Net.Endpoint.mk · endpoint.port) (address_of_bind bound)
          rw [bound, ← own]
  · rw [orderly.shutdown.2.listeners_eq, agent.shutdown_server.2]
    rfl

/-- An agent with the usual settings and nothing in its log. -/
def lone : Agent Unit Unit :=
  ⟨.usual, "policies", ⟨⟨7, Clock.anchoredAt ⟨0⟩, [], false⟩, .unset⟩, .idle, (), none, []⟩

def crowded (ports : List Nat) : Net.Network :=
  .loopbackOnly (ports.map (⟨.loopback, ·⟩)) []

/-- The first port is in use, so the second is taken, and by the next start, which finds it in use
by the agent itself, the third; the server at the second has then been stopped. When the second is
in use again, too, no port is left. -/
theorem replaced_server_closed :
    ∃ gone agent, History lone [59702, 59703] gone agent ∧
      (gone ++ agent.server.toList).map (fun loop => loop.port) = [59702, 59703] ∧
      gone.length = 1 ∧ (∀ loop ∈ gone, loop.IsClosed) ∧
      agent.serverPort = some 59703 ∧ (listeners gone agent).length ≤ 1 ∧
      (agent.network (crowded [])).isTaken ⟨.loopback, 59703⟩ = true ∧
      (agent.start (crowded [59701, 59702])).1 =
        .error (.noPortsAvailable [59701, 59702, 59703]) ∧
      listeners (gone ++ agent.shutdown.1.toList) agent.shutdown.2 = [] := by
  have created : History lone [] [] lone := .start
  have started := created.perform (.start (crowded [59701])) rfl
  have replaced := started.perform (.start (crowded [59701])) rfl
  obtain ⟨accounted, closed, one, -, own, -, -, -, -, shut, -⟩ := one_server_open rfl replaced
  exact ⟨_, _, replaced, accounted, rfl, closed, rfl, one, own _ _ rfl, rfl, shut⟩

end CallMonitor.Agent
