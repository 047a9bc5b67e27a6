import CallMonitor.Proofs.Server.Serving

/-!
The end of every run. A loop at rest waits for somebody or has ended; one that is let go on comes
to rest, and hears nothing that its peers have not sent. Main statement: a server whose peers have
sent what they like and then ended comes to rest, and has by then carried out a session with them,
one exchange for each of them in the order in which they connected.
-/

namespace CallMonitor.Server

open CallMonitor.Text CallMonitor.Wire

variable {σ Req Resp : Type} {handler : Handler σ Req Resp}

structure Service.IsOver (service : Service σ Req) : Prop where
  ended : service.loop.hasEnded = true
  silent : service.loop.listening = false
  lowered : service.loop.running = false

/-- How a server that nobody stops can be at rest: it waits for its next peer, or for more from the
peer whose turn it is, which has got the header and nothing else, or it has ended. -/
inductive AtRest (handler : Handler σ Req Resp) (options : Options) (start : σ) (base : Nat)
    (calls : List (Nat × Req)) (service : Service σ Req) : Prop
  | idle (idle : service.IsIdle)
      (session : Session handler start base
        (service.readings handler.decode options.frameLimit) service.loop.connections.length calls
        service.state true)
  | waiting {number : Nat} (accepted : number < service.loop.connections.length)
      (pending : readRequest handler.decode options.frameLimit
        (service.loop.connection number) = .pending)
      (greeted : service.sentOn number = header)
      (session : Session handler start base
        (service.readings handler.decode options.frameLimit) number calls service.state true)
  | ended (closed : service.IsOver)
      (session : Session handler start base
        (service.readings handler.decode options.frameLimit) service.loop.connections.length calls
        service.state false)

theorem Serving.at_rest {handler : Handler σ Req Resp} {options : Options} {start : σ}
    {base next : Nat} {calls : List (Nat × Req)} {service : Service σ Req}
    (serving : Serving handler options start base calls service next)
    (timely : options.readTimeout ≠ some 0) (rest : service.step handler = none) :
    AtRest handler options start base calls service := by
  have stage := serving.stage
  generalize place : service.loop.position = position at stage
  generalize listens : service.loop.listening = listening at stage
  generalize runs : service.loop.running = running at stage
  cases stage with
  | accepting session =>
      simp only [Service.step, place] at rest
      have queue := serving.queue
      cases waiting : service.loop.waiting with
      | cons number more => simp [waiting] at rest
      | nil =>
          have room := serving.room
          have all : next = service.loop.connections.length := by
            have length := congrArg List.length queue
            simp only [waiting, List.length_nil, List.length_range'] at length
            omega
          rw [all] at session
          exact .idle ⟨place, waiting, serving.unstopped, listens, runs⟩ session
  | arriving arrives unsent session =>
      rcases arrives with rfl | rfl | rfl <;>
        simp [Service.step, place, serving.unstopped, serving.sameOptions, timely,
          serving.transmit_eq session.base_le] at rest
  | @reading number greeted session =>
      simp only [Service.step, place, serving.sameOptions] at rest
      cases read : readRequest handler.decode options.frameLimit
        (service.loop.connection number) with
      | pending => exact .waiting serving.room read greeted session
      | failed error => simp [read] at rest
      | complete request => simp [read] at rest
  | handling greeted asked session =>
      simp only [Service.step, place] at rest
      split at rest <;> cases rest
  | answering greeted asked responds short noted session =>
      simp [Service.step, place, serving.transmit_eq session.base_le] at rest
  | leaving leaves session =>
      rcases leaves with rfl | rfl
      · simp [Service.step, place] at rest
      · simp only [Service.step, place] at rest
        split at rest <;> cases rest
  | closing session => simp [Service.step, place] at rest
  | lowering session => simp [Service.step, place] at rest
  | ended ends session =>
      have finished : service.loop.hasEnded = true := by
        rcases ends with rfl | rfl <;> simp [Loop.hasEnded, place]
      exact .ended ⟨finished, listens, runs⟩
        (session.extend_closed serving.room fun late above _ => serving.quiet late above)

/-- When peers send no more, what is read from them is told by the bytes they have sent. -/
theorem Service.peers_extend_readings (service : Service σ Req) (decode : Bytes → Option Req)
    (limit base bound : Nat)
    (ended : ∀ number, base ≤ number → number < bound →
      (service.loop.connection number).ended = true) :
    (service.peers decode limit).Extends (service.readings decode limit) base bound := by
  refine ⟨?_, ?_, fun _ _ _ => rfl⟩
  · intro number above below request asked
    have read : readRequest decode limit (service.loop.connection number) = .complete request :=
      asked
    rw [read_request_ended (ended number above below)] at read
    cases found : (readFrame decode limit (service.loop.connection number).arrived).1 with
    | error error => simp [found] at read
    | ok value =>
        simp only [found, Reading.complete.injEq] at read
        rw [read] at found
        exact carries_of_read_frame decode limit found
  · intro number above below failure request carried
    obtain ⟨error, failed⟩ := failure
    rw [read_request_ended (ended number above below), read_frame_of_carries decode limit
      carried] at failed
    cases failed

/-- A server at rest, whose peers send no more, has carried out a session with all of them. If it
is still open, it waits for the next one. -/
theorem AtRest.session {handler : Handler σ Req Resp} {options : Options} {start : σ}
    {base : Nat} {calls : List (Nat × Req)} {service : Service σ Req}
    (rest : AtRest handler options start base calls service)
    (ended : ∀ number, base ≤ number → number < service.loop.connections.length →
      (service.loop.connection number).ended = true) :
    Session handler start base (service.peers handler.decode options.frameLimit)
        service.loop.connections.length calls service.state service.loop.listening ∧
      (service.loop.listening = true → service.IsIdle) ∧
      (service.loop.listening = false → service.IsOver) := by
  have extended := service.peers_extend_readings handler.decode options.frameLimit base
    service.loop.connections.length ended
  cases rest with
  | idle idle session =>
      have listens := idle.listening
      refine ⟨?_, fun _ => idle, fun closed => ?_⟩
      · rw [listens]
        exact session.transfer extended
      · rw [listens] at closed
        cases closed
  | waiting accepted pending greeted session =>
      rw [read_request_ended (ended _ session.base_le accepted)] at pending
      split at pending <;> cases pending
  | ended closed session =>
      have silent := closed.silent
      refine ⟨?_, fun listens => ?_, fun _ => closed⟩
      · rw [silent]
        exact session.transfer extended
      · rw [silent] at listens
        cases listens

/-- What a server has heard on a connection: the bytes, and whether the peer sends no more. -/
def Loop.heard (loop : Loop Req) (number : Nat) : Bytes × Bool :=
  ((loop.connection number).arrived, (loop.connection number).ended)

theorem Service.transmit_heard {service later : Service σ Req} {number : Nat} {bytes : Bytes}
    {position : Position Req} (moved : service.transmit number bytes position = some later) :
    later.loop.heard = service.loop.heard ∧
      later.loop.connections.length = service.loop.connections.length := by
  unfold Service.transmit at moved
  dsimp only at moved
  split at moved
  · cases moved
    exact ⟨rfl, rfl⟩
  · split at moved
    · cases moved
    · cases moved
      refine ⟨?_, by simp [Service.moved, Loop.goto, Loop.send, Loop.change]⟩
      funext other
      rw [Loop.heard, service.connection_send]
      split <;> rfl

/-- A move of the loop adds nothing to what the server has heard. -/
theorem Service.step_heard {service later : Service σ Req}
    (moved : service.step handler = some later) :
    later.loop.heard = service.loop.heard ∧
      later.loop.connections.length = service.loop.connections.length := by
  unfold Service.step at moved
  dsimp only at moved
  split at moved
  case h_4 =>
    split at moved
    · cases moved
      exact ⟨rfl, rfl⟩
    · exact Service.transmit_heard moved
  case h_7 => exact Service.transmit_heard moved
  case h_8 | h_10 | h_11 =>
    cases moved
    exact ⟨rfl, rfl⟩
  case h_12 | h_13 => cases moved
  all_goals
    split at moved <;> cases moved <;> exact ⟨rfl, rfl⟩

theorem Service.advance_for_rests (count : Nat) (service : Service σ Req)
    (enough : service.patience ≤ count) :
    (service.advanceFor handler count).step handler = none := by
  -- Every move uses up patience, so a count that covers it is never used up first.
  induction count generalizing service with
  | zero =>
      cases moved : service.step handler with
      | none => exact moved
      | some later =>
          have less := Service.patience_step moved
          omega
  | succ count ih =>
      unfold Service.advanceFor
      cases moved : service.step handler with
      | none => exact moved
      | some later =>
          have less := Service.patience_step moved
          exact ih later (by omega)

theorem Service.advance_rests (service : Service σ Req) :
    (service.advance handler).step handler = none :=
  service.advance_for_rests service.patience (Nat.le_refl _)

/-- Letting the loop go on continues a run, in which nothing new is heard. -/
theorem Run.advance_for {start service : Service σ Req} {calls : List (Nat × Req)} (count : Nat)
    (run : Run handler start calls service) :
    ∃ more, Run handler start (calls ++ more) (service.advanceFor handler count) ∧
      (service.advanceFor handler count).loop.heard = service.loop.heard ∧
      (service.advanceFor handler count).loop.connections.length =
        service.loop.connections.length := by
  induction count generalizing service calls with
  | zero => exact ⟨[], by simpa [Service.advanceFor] using run, rfl, rfl⟩
  | succ count ih =>
      unfold Service.advanceFor
      cases moved : service.step handler with
      | none => exact ⟨[], by simpa using run, rfl, rfl⟩
      | some later =>
          obtain ⟨heard, length⟩ := Service.step_heard moved
          obtain ⟨more, reached, heardThen, lengthThen⟩ := ih (run.move moved)
          refine ⟨service.loop.handing ++ more, ?_, heardThen.trans heard,
            lengthThen.trans length⟩
          rw [← List.append_assoc]
          exact reached

theorem Run.advance {start service : Service σ Req} {calls : List (Nat × Req)}
    (run : Run handler start calls service) :
    ∃ more, Run handler start (calls ++ more) (service.advance handler) ∧
      (service.advance handler).loop.heard = service.loop.heard ∧
      (service.advance handler).loop.connections.length = service.loop.connections.length :=
  run.advance_for service.patience

/-- The same after something has been done to the loop from outside. -/
theorem Run.nudge {start service : Service σ Req} {calls : List (Nat × Req)}
    (change : Loop Req → Loop Req)
    (run : Run handler start calls (service.moved (change service.loop) [])) :
    ∃ more, Run handler start (calls ++ more) (service.nudge handler change) ∧
      (service.nudge handler change).loop.heard = (change service.loop).heard ∧
      (service.nudge handler change).loop.connections.length =
        (change service.loop).connections.length :=
  run.advance

/-- A server that has been bound to a port waits for its first peer. -/
theorem Service.bound_is_idle (state : σ) (port : Nat) (options : Options)
    (notices : List Notice) :
    (⟨state, Loop.bound port options, notices⟩ : Service σ Req).IsIdle :=
  ⟨rfl, rfl, rfl, rfl, rfl⟩

/-- A server without a timeout, any service on it and any limit to the length of a request; any
number of peers, who connect, send any bytes and end, while the loop moves, in any order. When the
loop is at rest, it has carried out a session with all peers in the order of their connections,
told from their bytes alone: each peer of the open server got the header and then one frame or
nothing, the handler was given each request that a peer made once and nothing else, and the first
peer that made none, on whose request the handler aborted or wanted to close, or whose response was
too long for a frame, closed the server. The loop always comes to rest, without hearing anything
more. -/
theorem run_carries_out_session (handler : Handler σ Req Resp) (state : σ) (port : Nat)
    (options : Options) (timeless : options.readTimeout = none) (notices : List Notice)
    {calls : List (Nat × Req)} {service : Service σ Req}
    (run : Run handler ⟨state, .bound port options, notices⟩ calls service)
    (ended : ∀ connection ∈ service.loop.connections, connection.ended = true) :
    (service.step handler = none →
      Session handler state 0 (service.peers handler.decode options.frameLimit)
          service.loop.connections.length calls service.state service.loop.listening ∧
        (service.loop.listening = true → service.IsIdle) ∧
        (service.loop.listening = false → service.IsOver)) ∧
      (∃ more, Run handler ⟨state, .bound port options, notices⟩ (calls ++ more)
          (service.advance handler) ∧
        (service.advance handler).step handler = none ∧
        (service.advance handler).loop.heard = service.loop.heard ∧
        (service.advance handler).loop.connections.length = service.loop.connections.length) := by
  have timely : options.readTimeout ≠ some 0 := by simp [timeless]
  have idle : (⟨state, .bound port options, notices⟩ : Service σ Req).IsIdle :=
    Service.bound_is_idle state port options notices
  constructor
  · intro rest
    obtain ⟨next, serving⟩ := run.serving idle timely
    refine (serving.at_rest timely rest).session fun number _ inside => ?_
    simp only [Loop.connection, List.getD_eq_getElem?_getD, List.getElem?_eq_getElem inside,
      Option.getD_some]
    exact ended _ (List.getElem_mem inside)
  · obtain ⟨more, reached, heard, length⟩ := run.advance
    exact ⟨more, reached, service.advance_rests, heard, length⟩

/-- A service that adds up the lengths of its requests and answers with the sum. The empty request
closes it. -/
def tally : Handler Nat Nat Nat where
  decode body := some body.length
  encode sum := [UInt8.ofNat sum]
  describe length := toString length
  respond sum length := (some (sum + length), sum + length, [])
  closes length := length == 0

/-- A local server that waits for its peers and takes requests of at most sixteen bytes. -/
def patientOptions : Options := ⟨.four 127 0 0 1, none, 16⟩

/-- The tally after two peers at once, of whom the first sends a request of two bytes and one byte
more, and the second only half a length. -/
def Loop.withTwoPeers : Loop Nat :=
  let first := { Connection.silent with arrived := [0, 0, 0, 2, 7, 7, 7], ended := true }
  let second := { Connection.silent with arrived := [0, 0], ended := true }
  { Loop.bound 80 patientOptions with connections := [first, second], waiting := [0, 1] }

theorem session_of_two_peers :
    ∃ calls, let service := (⟨0, .withTwoPeers, []⟩ : Service Nat Nat).advance tally
      Run tally ⟨0, .bound 80 patientOptions, []⟩ calls service ∧
        Session tally 0 0 (service.peers tally.decode 16) 2 calls 2 false := by
  have opened : Run tally ⟨0, .bound 80 patientOptions, []⟩ [] ⟨0, .bound 80 patientOptions, []⟩ :=
    .start
  have connected := (opened.connect rfl).connect rfl
  have sent := @Run.send _ _ _ tally _ _ _ 0 [0, 0, 0, 2, 7, 7, 7] connected rfl
  have sentBoth := @Run.send _ _ _ tally _ _ _ 1 [0, 0] sent rfl
  have finished := @Run.finish _ _ _ tally _ _ _ 0 sentBoth
  have heard : Run tally ⟨0, .bound 80 patientOptions, []⟩ [] ⟨0, .withTwoPeers, []⟩ :=
    @Run.finish _ _ _ tally _ _ _ 1 finished
  obtain ⟨calls, served, -⟩ := heard.advance
  refine ⟨calls, served, ?_⟩
  have carried := (run_carries_out_session tally 0 80 patientOptions rfl [] served
     (by decide)).1 (Service.advance_rests _)
  exact carried.1

end CallMonitor.Server
