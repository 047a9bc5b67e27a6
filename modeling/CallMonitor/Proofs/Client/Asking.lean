import CallMonitor.Client
import CallMonitor.Proofs.Server.Rest
import CallMonitor.Proofs.Wire.Rows

/-!
Client and server together. A client that asks a waiting server is its next peer, and the only one,
so the whole conversation is one exchange. Main statement: what a client of the call monitor gets
for any text, and what the monitor is afterwards, by the lengths of the two bodies alone.
-/

namespace CallMonitor.Client

open CallMonitor.Server CallMonitor.Text CallMonitor.Wire

section Conversation

variable {σ Req Resp : Type} {handler : Handler σ Req Resp} {service later : Service σ Req}
  {calls : List (Nat × Req)}

/-- Nothing comes of a peer that may still send what is missing. -/
theorem exchange_settled {decode : Bytes → Option Req} {limit number : Nat} {state after : σ}
    {answer : Bytes} {asked : List Req} {stays : Bool}
    (exchange : Exchange handler (service.readings decode limit) number state answer asked after
      stays) :
    readRequest decode limit (service.loop.connection number) ≠ .pending := by
  intro pending
  have unasked : ∀ request, ¬(service.readings decode limit).asks number request := by
    intro request read
    have complete : readRequest decode limit (service.loop.connection number) =
      .complete request := read
    rw [pending] at complete
    cases complete
  cases exchange with
  | answered read => exact unasked _ read
  | overlong read => exact unasked _ read
  | aborted read => exact unasked _ read
  | failed failure =>
      obtain ⟨error, failed⟩ := failure
      rw [pending] at failed
      cases failed

/-- A new peer of a waiting server gets the header before it has sent anything. -/
theorem greeted_of_run (idle : service.IsIdle) (timely : service.loop.options.readTimeout ≠ some 0)
    (run : Run handler service calls later) (rest : later.step handler = none)
    (one : later.loop.connections.length = service.loop.connections.length + 1)
    (silent : later.loop.heard service.loop.connections.length = ([], false)) :
    later.sentOn service.loop.connections.length = header := by
  obtain ⟨next, serving⟩ := run.serving idle timely
  obtain ⟨unsent, unended⟩ := Prod.mk.inj silent
  have calm := serving.calm _ (Nat.le_refl _)
  have pending : readRequest handler.decode service.loop.options.frameLimit
      (later.loop.connection service.loop.connections.length) = .pending := by
    simp [readRequest, unsent, unended, readFrame, WireError.cut, calm.whole, calm.timely]
  cases serving.at_rest timely rest with
  | idle _ session =>
      rw [one] at session
      obtain ⟨_, _, exchange, _⟩ := session.of_one_peer
      exact absurd pending (exchange_settled exchange)
  | @waiting number accepted _ greeted session =>
      have floor := session.base_le
      have own : number = service.loop.connections.length := by omega
      rw [← own]
      exact greeted
  | ended _ session =>
      rw [one] at session
      obtain ⟨_, _, exchange, _⟩ := session.of_one_peer
      exact absurd pending (exchange_settled exchange)

/-- What comes of the only peer of a server, once that peer sends no more. -/
theorem exchange_of_run (idle : service.IsIdle)
    (timely : service.loop.options.readTimeout ≠ some 0) (run : Run handler service calls later)
    (rest : later.step handler = none)
    (one : later.loop.connections.length = service.loop.connections.length + 1)
    (ended : (later.loop.connection service.loop.connections.length).ended = true) :
    ∃ answer asked, Exchange handler
        (later.peers handler.decode service.loop.options.frameLimit)
        service.loop.connections.length service.state answer asked later.state
        later.loop.listening ∧
      later.sentOn service.loop.connections.length = header ++ answer ∧
      (later.loop.listening = true → later.IsIdle) ∧
      (later.loop.listening = false → later.IsOver) := by
  obtain ⟨next, serving⟩ := run.serving idle timely
  have only : ∀ number, service.loop.connections.length ≤ number →
      number < later.loop.connections.length → (later.loop.connection number).ended = true := by
    intro number above below
    have own : number = service.loop.connections.length := by omega
    rw [own]
    exact ended
  obtain ⟨session, waits, closes⟩ := (serving.at_rest timely rest).session only
  rw [one] at session
  obtain ⟨answer, asked, exchange, got⟩ := session.of_one_peer
  exact ⟨answer, asked, exchange, got, waits, closes⟩

/-- A client that connects to a waiting server is its next peer, and has got the header. -/
theorem connect_of_idle (handler : Handler σ Req Resp) (idle : service.IsIdle)
    (timely : service.loop.options.readTimeout ≠ some 0) :
    ∃ calls later, service.connect handler = some (service.loop.connections.length, later) ∧
      Run handler service calls later ∧
      later.loop.connections.length = service.loop.connections.length + 1 ∧
      later.loop.heard service.loop.connections.length = ([], false) ∧
      later.sentOn service.loop.connections.length = header := by
  obtain ⟨loop, connected, longer⟩ : ∃ loop, service.loop.connect Connection.silent =
      some (service.loop.connections.length, loop) ∧
        loop.connections.length = service.loop.connections.length + 1 :=
    ⟨_, if_pos idle.listening, by simp⟩
  have joined : Run handler service [] (service.moved loop []) := Run.start.connect connected
  obtain ⟨calls, run, heard, length⟩ := joined.advance
  have one := length.trans longer
  have fresh : (service.moved loop []).loop.heard service.loop.connections.length =
      ([], false) := by
    have same := Loop.connection_connect connected service.loop.connections.length
    rw [service.loop.connection_beyond (Nat.le_refl _)] at same
    simp only [Loop.heard, Service.moved, same, Connection.silent]
  have silent := (congrFun heard _).trans fresh
  refine ⟨calls, (service.moved loop []).advance handler, ?_, run, one, silent, ?_⟩
  · rw [Service.connect, connected]
  · exact greeted_of_run idle timely run (Service.advance_rests _) one silent

/-- What comes of the only peer of a server when it ends. -/
theorem exchange_of_finish (idle : service.IsIdle)
    (timely : service.loop.options.readTimeout ≠ some 0) (run : Run handler service calls later)
    (one : later.loop.connections.length = service.loop.connections.length + 1) :
    let final := later.nudge handler (·.finishSending service.loop.connections.length)
    ∃ answer asked, Exchange handler
        (final.peers handler.decode service.loop.options.frameLimit)
        service.loop.connections.length service.state answer asked final.state
        final.loop.listening ∧
      final.sentOn service.loop.connections.length = header ++ answer ∧
      (final.loop.connection service.loop.connections.length).arrived =
        (later.loop.connection service.loop.connections.length).arrived ∧
      (final.loop.listening = true → final.IsIdle) ∧
      (final.loop.listening = false → final.IsOver) := by
  intro final
  have inside : service.loop.connections.length < later.loop.connections.length := by omega
  have ending : Run handler service calls
      (later.moved (later.loop.finishSending service.loop.connections.length) []) := run.finish
  obtain ⟨calls, finished, heard, length⟩ :=
    ending.nudge (·.finishSending service.loop.connections.length)
  have own : final.loop.heard service.loop.connections.length =
      ((later.loop.connection service.loop.connections.length).arrived, true) := by
    rw [congrFun heard, Loop.heard, Loop.finishSending, later.loop.connection_change_self inside]
  obtain ⟨arrived, ended⟩ := Prod.mk.inj own
  have still : final.loop.connections.length = service.loop.connections.length + 1 := by
    rw [← one, length]
    exact List.length_modify ..
  obtain ⟨answer, asked, exchange, got, waits, closes⟩ :=
    exchange_of_run idle timely finished (Service.advance_rests _) still ended
  exact ⟨answer, asked, exchange, got, arrived, waits, closes⟩

/-- A text that is too long for a frame is not sent. The server sees a peer that ends at once. -/
theorem ask_of_long (client : Client) (handler : Handler σ Req Resp) (idle : service.IsIdle)
    (timely : service.loop.options.readTimeout ≠ some 0) (timeout : client.timeout ≠ 0)
    {text : String} (long : bodyLimit < (Json.encodeString text).length) :
    ∃ later, client.ask handler service text =
        (.error (.frameTooLarge (Json.encodeString text).length bodyLimit), later) ∧
      later.state = service.state ∧ later.IsOver := by
  obtain ⟨calls, later, connected, run, one, silent, greeted⟩ :=
    connect_of_idle handler idle timely
  obtain ⟨answer, asked, exchange, got, arrived, waits, closes⟩ :=
    exchange_of_finish idle timely run one
  have nothing := arrived.trans (congrArg Prod.fst silent)
  generalize finished : later.nudge handler (·.finishSending service.loop.connections.length) =
    final at exchange nothing closes
  have unasked : ∀ request, ¬(final.peers handler.decode
      service.loop.options.frameLimit).asks service.loop.connections.length request := by
    intro request carried
    have read := read_frame_of_carries _ _ carried
    rw [nothing] at read
    cases read
  refine ⟨final, ?_, ?_⟩
  · have header_read := read_header_append []
    rw [List.append_nil] at header_read
    simp only [ask, refusesToConnect, timeout, if_false, connected, greeted, greet, header_read,
      requestFrame, frame_of_long long, finished]
  · obtain ⟨-, same, closed⟩ := exchange.of_unasked unasked
    exact ⟨same, closes closed⟩

/-- Any other text is sent, and the answer to it is read. -/
theorem ask_of_short (client : Client) (handler : Handler σ Req Resp) (idle : service.IsIdle)
    (timely : service.loop.options.readTimeout ≠ some 0) (timeout : client.timeout ≠ 0)
    {text : String} (short : (Json.encodeString text).length ≤ bodyLimit) :
    ∃ answer asked later, client.ask handler service text = (client.readRows answer, later) ∧
      Exchange handler (later.peers handler.decode service.loop.options.frameLimit)
        service.loop.connections.length service.state answer asked later.state
        later.loop.listening ∧
      (later.loop.connection service.loop.connections.length).arrived =
        encodeLength (Json.encodeString text).length ++ Json.encodeString text ∧
      (later.loop.listening = true → later.IsIdle) ∧
      (later.loop.listening = false → later.IsOver) := by
  obtain ⟨calls, greeter, connected, run, one, silent, greeted⟩ :=
    connect_of_idle handler idle timely
  obtain ⟨unsent, unended⟩ := Prod.mk.inj silent
  generalize written : encodeLength (Json.encodeString text).length ++ Json.encodeString text =
    request
  have sent : Run handler service calls (greeter.moved
      (greeter.loop.deliver service.loop.connections.length request) []) := run.send unended
  have inside : service.loop.connections.length < greeter.loop.connections.length := by omega
  obtain ⟨more, delivered, heard, length⟩ :=
    sent.nudge (·.deliver service.loop.connections.length request)
  have received : ((greeter.nudge handler
      (·.deliver service.loop.connections.length request)).loop.connection
        service.loop.connections.length).arrived = request := by
    have same := congrArg Prod.fst (congrFun heard service.loop.connections.length)
    rw [Loop.heard, Loop.heard, Loop.deliver, greeter.loop.connection_change_self inside, unsent,
      List.nil_append] at same
    exact same
  have still : (greeter.nudge handler (·.deliver service.loop.connections.length
      request)).loop.connections.length = service.loop.connections.length + 1 := by
    rw [← one, length]
    exact List.length_modify ..
  obtain ⟨answer, asked, exchange, got, arrived, waits, closes⟩ :=
    exchange_of_finish idle timely delivered still
  refine ⟨answer, asked, _, ?_, exchange, arrived.trans received, waits, closes⟩
  have header_read := read_header_append []
  rw [List.append_nil] at header_read
  simp only [ask, refusesToConnect, timeout, if_false, connected, greeted, greet, header_read,
    requestFrame, frame_of_short short, written]
  rw [got, read_header_append]

end Conversation

end CallMonitor.Client
