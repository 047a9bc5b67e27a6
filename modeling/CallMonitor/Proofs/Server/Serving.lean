import CallMonitor.Proofs.Server.Session

/-!
The loop of a server carries out a session. While nobody stops the server and no time runs out,
what has been served so far is a session with the peers that have been accepted, in the order of
their connections; every move of the loop and everything that a peer does keeps this.

The invariant follows the loop's position. It has to survive that peers go on sending after their
exchange is over, so it speaks of what the loop has read, which later bytes do not change.
-/

namespace CallMonitor.Server

open CallMonitor.Text CallMonitor.Wire

variable {σ Req Resp : Type}

/-- Nothing has happened to a connection but what its peer has sent. -/
structure Connection.Calm (connection : Connection) : Prop where
  taking : connection.stalled = false
  timely : connection.overdue = false
  whole : connection.cut = false

theorem Connection.silent_calm : Connection.silent.Calm := ⟨rfl, rfl, rfl⟩

theorem Loop.connection_change (loop : Loop Req) (number other : Nat)
    (f : Connection → Connection) :
    (loop.change number f).connection other =
      if other = number ∧ number < loop.connections.length then f (loop.connection other)
      else loop.connection other := by
  simp only [Loop.change, Loop.connection, List.getD_eq_getElem?_getD, List.getElem?_modify]
  by_cases same : number = other
  · subst same
    by_cases inside : number < loop.connections.length <;> simp [inside]
  · simp [same, Ne.symm same]

theorem Loop.connection_change_self (loop : Loop Req) {number : Nat}
    (inside : number < loop.connections.length) (f : Connection → Connection) :
    (loop.change number f).connection number = f (loop.connection number) :=
  (loop.connection_change number number f).trans (if_pos ⟨rfl, inside⟩)

theorem Loop.connection_beyond (loop : Loop Req) {number : Nat}
    (beyond : loop.connections.length ≤ number) : loop.connection number = .silent := by
  simp [Loop.connection, List.getD_eq_getElem?_getD, beyond]

/-- A new connection looks as it did before it was there. -/
theorem Loop.connection_connect {loop later : Loop Req} {number : Nat}
    (connected : loop.connect Connection.silent = some (number, later)) (other : Nat) :
    later.connection other = loop.connection other := by
  unfold Loop.connect at connected
  split at connected
  · cases connected
    simp only [Loop.connection, List.getD_eq_getElem?_getD]
    rcases Nat.lt_trichotomy other loop.connections.length with inside | rfl | outside
    · rw [List.getElem?_append_left inside]
    · simp
    · rw [List.getElem?_append_right (Nat.le_of_lt outside)]
      have beyond : other - loop.connections.length ≠ 0 := by omega
      simp [beyond, Nat.le_of_lt outside]
  · cases connected

/-- What the server sends on one connection leaves the others as they are. -/
theorem Service.connection_send (service : Service σ Req) (number other : Nat) (bytes : Bytes)
    (position : Position Req) :
    (service.moved ((service.loop.send number bytes).goto position) []).loop.connection other =
      if other = number ∧ number < service.loop.connections.length then
        { service.loop.connection other with
          sent := (service.loop.connection other).sent ++ bytes }
      else service.loop.connection other :=
  service.loop.connection_change number other fun connection =>
    { connection with sent := connection.sent ++ bytes }

section Reading

variable {decode : Bytes → Option Req} {limit : Nat} {connection : Connection}

/-- What has been read from a connection stays, whatever its peer sends afterwards. -/
theorem read_request_deliver (calm : connection.Calm) (sending : connection.ended = false)
    (settled : readRequest decode limit connection ≠ .pending) (bytes : Bytes) :
    readRequest decode limit { connection with arrived := connection.arrived ++ bytes } =
      readRequest decode limit connection := by
  have enough : ∀ reason, (readFrame decode limit connection.arrived).1 ≠ .error (.io reason) := by
    intro reason cut
    apply settled
    simp [readRequest, cut, sending, calm.whole, calm.timely]
  unfold readRequest
  rw [read_frame_append decode limit connection.arrived bytes enough]

theorem read_request_finish (calm : connection.Calm)
    (settled : readRequest decode limit connection ≠ .pending) :
    readRequest decode limit { connection with ended := true } =
      readRequest decode limit connection := by
  unfold readRequest at settled ⊢
  cases ended : connection.ended with
  | true => rfl
  | false =>
      simp only [ended, calm.whole, calm.timely] at settled ⊢
      split at settled <;> simp_all

/-- When a peer sends no more, there is nothing to wait for. -/
theorem read_request_ended (ended : connection.ended = true) :
    readRequest decode limit connection =
      match (readFrame decode limit connection.arrived).1 with
      | .ok request => .complete request
      | .error error => .failed error := by
  unfold readRequest
  cases read : (readFrame decode limit connection.arrived).1 with
  | ok request => rfl
  | error error => cases error <;> simp [ended]

end Reading

/-- The peers of a server, told from what can be read from each of them. -/
def Service.readings (service : Service σ Req) (decode : Bytes → Option Req) (limit : Nat) :
    Peers Req where
  asks number request :=
    readRequest decode limit (service.loop.connection number) = .complete request
  fails number := ∃ error,
    readRequest decode limit (service.loop.connection number) = .failed error
  gets := service.sentOn

/-- How far the loop of an undisturbed server has come: what the session was up to the connection
that it serves, or with it, by the loop's position and by whether the server listens and runs. -/
inductive Stage (handler : Handler σ Req Resp) (start : σ) (base : Nat) (peers : Peers Req)
    (calls : List (Nat × Req)) (state : σ) : Nat → Position Req → Bool → Bool → Prop
  | accepting {next : Nat} (session : Session handler start base peers next calls state true) :
      Stage handler start base peers calls state next .accepting true true
  | arriving {number : Nat} {position : Position Req}
      (place : position = .accepted number ∨ position = .admitted number ∨
        position = .greeting number)
      (unsent : peers.gets number = [])
      (session : Session handler start base peers number calls state true) :
      Stage handler start base peers calls state (number + 1) position true true
  | reading {number : Nat} (greeted : peers.gets number = header)
      (session : Session handler start base peers number calls state true) :
      Stage handler start base peers calls state (number + 1) (.reading number) true true
  | handling {number : Nat} {request : Req} (greeted : peers.gets number = header)
      (asked : peers.asks number request)
      (session : Session handler start base peers number calls state true) :
      Stage handler start base peers calls state (number + 1) (.handling number request) true true
  | answering {number : Nat} {request : Req} {response : Resp} {before : σ}
      {earlier : List (Nat × Req)} {notices : List Notice}
      (greeted : peers.gets number = header) (asked : peers.asks number request)
      (responds : handler.respond before request = (some response, state, notices))
      (short : (handler.encode response).length ≤ bodyLimit)
      (noted : calls = earlier ++ [(number, request)])
      (session : Session handler start base peers number earlier before true) :
      Stage handler start base peers calls state (number + 1)
        (.answering number request
          (encodeLength (handler.encode response).length ++ handler.encode response)) true true
  | leaving {next : Nat} {result : Except WireError Bool} {position : Position Req}
      (place : position = .leaving result ∨ position = .deciding result)
      (session : Session handler start base peers next calls state (Loop.goesOn result)) :
      Stage handler start base peers calls state next position true true
  | closing {next : Nat} (session : Session handler start base peers next calls state false) :
      Stage handler start base peers calls state next .closing true true
  | lowering {next : Nat} {abort : Bool}
      (session : Session handler start base peers next calls state false) :
      Stage handler start base peers calls state next (.lowering abort) false true
  | ended {next : Nat} {position : Position Req}
      (place : position = .finished ∨ position = .aborted)
      (session : Session handler start base peers next calls state false) :
      Stage handler start base peers calls state next position false false

theorem Stage.transfer {handler : Handler σ Req Resp} {start state : σ} {base next : Nat}
    {peers later : Peers Req} {calls : List (Nat × Req)} {position : Position Req}
    {listening running : Bool}
    (stage : Stage handler start base peers calls state next position listening running)
    (extended : later.Extends peers base next) :
    Stage handler start base later calls state next position listening running := by
  cases stage with
  | accepting session => exact .accepting (session.transfer extended)
  | arriving place unsent session =>
      obtain ⟨gets, -, -, earlier⟩ := extended.last session.base_le
      exact .arriving place (gets.trans unsent) (session.transfer earlier)
  | reading greeted session =>
      obtain ⟨gets, -, -, earlier⟩ := extended.last session.base_le
      exact .reading (gets.trans greeted) (session.transfer earlier)
  | handling greeted asked session =>
      obtain ⟨gets, asks, -, earlier⟩ := extended.last session.base_le
      exact .handling (gets.trans greeted) (asks _ asked) (session.transfer earlier)
  | answering greeted asked responds short noted session =>
      obtain ⟨gets, asks, -, earlier⟩ := extended.last session.base_le
      exact .answering (gets.trans greeted) (asks _ asked) responds short noted
        (session.transfer earlier)
  | leaving place session => exact .leaving place (session.transfer extended)
  | closing session => exact .closing (session.transfer extended)
  | lowering session => exact .lowering (session.transfer extended)
  | ended place session => exact .ended place (session.transfer extended)

/-- What is kept while a server serves the peers from number `base` on: it has accepted those below
`next`, and the others wait in the order of their numbers and have got nothing yet. -/
structure Serving (handler : Handler σ Req Resp) (options : Options) (start : σ) (base : Nat)
    (calls : List (Nat × Req)) (service : Service σ Req) (next : Nat) : Prop where
  sameOptions : service.loop.options = options
  unstopped : service.loop.stopFlag = false
  calm : ∀ number, base ≤ number → (service.loop.connection number).Calm
  room : next ≤ service.loop.connections.length
  queue : service.loop.waiting = List.range' next (service.loop.connections.length - next)
  quiet : ∀ number, next ≤ number → service.sentOn number = []
  stage : Stage handler start base (service.readings handler.decode options.frameLimit) calls
    service.state next service.loop.position service.loop.listening service.loop.running

namespace Serving

variable {handler : Handler σ Req Resp} {options : Options} {start : σ} {base next : Nat}
  {calls : List (Nat × Req)} {service later : Service σ Req}

/-- A move of the loop that leaves the connections alone. -/
theorem keep (serving : Serving handler options start base calls service next)
    {more : List (Nat × Req)} {reached : Nat} (le : next ≤ reached)
    (connections : later.loop.connections = service.loop.connections)
    (sameOptions : later.loop.options = service.loop.options)
    (flag : later.loop.stopFlag = service.loop.stopFlag)
    (room : reached ≤ service.loop.connections.length)
    (queue : later.loop.waiting =
      List.range' reached (service.loop.connections.length - reached))
    (stage : Stage handler start base (service.readings handler.decode options.frameLimit) more
      later.state reached later.loop.position later.loop.listening later.loop.running) :
    Serving handler options start base more later reached := by
  have same : later.loop.connection = service.loop.connection := by
    funext number
    simp only [Loop.connection, connections]
  have sent : later.sentOn = service.sentOn := by
    funext number
    simp only [Service.sentOn, same]
  refine ⟨sameOptions.trans serving.sameOptions, flag.trans serving.unstopped, ?_, ?_, ?_, ?_, ?_⟩
  · rw [same]
    exact serving.calm
  · rw [connections]
    exact room
  · rw [connections]
    exact queue
  · rw [sent]
    exact fun number above => serving.quiet number (Nat.le_trans le above)
  · have readings : later.readings handler.decode options.frameLimit =
        service.readings handler.decode options.frameLimit := by
      simp only [Service.readings, same, sent]
    rw [readings]
    exact stage

/-- A peer that takes what it is sent is sent it at once. -/
theorem transmit_eq (serving : Serving handler options start base calls service next)
    {number : Nat} (own : base ≤ number) (bytes : Bytes) (position : Position Req) :
    service.transmit number bytes position =
      some (service.moved ((service.loop.send number bytes).goto position) []) := by
  have calm := serving.calm number own
  simp [Service.transmit, calm.whole, calm.taking]

theorem sent_on_send (serving : Serving handler options start base calls service next)
    {number : Nat} (accepted : number < next) (bytes : Bytes) (position : Position Req)
    (other : Nat) :
    (service.moved ((service.loop.send number bytes).goto position) []).sentOn other =
      if other = number then service.sentOn other ++ bytes else service.sentOn other := by
  have inside := Nat.lt_of_lt_of_le accepted serving.room
  rw [Service.sentOn, service.connection_send]
  by_cases same : other = number <;> simp [same, inside, Service.sentOn]

/-- Sending changes nothing that is read, and what the other peers get stays as it was. -/
theorem readings_send (serving : Serving handler options start base calls service next)
    {number : Nat} (accepted : number < next) (bytes : Bytes) (position : Position Req) :
    let later := service.moved ((service.loop.send number bytes).goto position) []
    (later.readings handler.decode options.frameLimit).Extends
      (service.readings handler.decode options.frameLimit) base number ∧
      (∀ request, (service.readings handler.decode options.frameLimit).asks number request →
        (later.readings handler.decode options.frameLimit).asks number request) := by
  intro later
  have read : ∀ other, readRequest handler.decode options.frameLimit
      (later.loop.connection other) =
        readRequest handler.decode options.frameLimit (service.loop.connection other) := by
    intro other
    rw [service.connection_send]
    split <;> rfl
  refine ⟨⟨?_, ?_, ?_⟩, ?_⟩
  · intro other _ _ request asked
    exact (read other).trans asked
  · intro other _ _ failure
    obtain ⟨error, failed⟩ := failure
    exact ⟨error, (read other).trans failed⟩
  · intro other _ below
    exact (serving.sent_on_send accepted bytes position other).trans
      (if_neg (Nat.ne_of_lt below))
  · intro request asked
    exact (read number).trans asked

/-- A move of the loop that sends to the peer whose turn it is. -/
theorem send (serving : Serving handler options start base calls service next)
    {number : Nat} (turn : number + 1 = next) (bytes : Bytes) (position : Position Req)
    (stage : Stage handler start base
      ((service.moved ((service.loop.send number bytes).goto position) []).readings
        handler.decode options.frameLimit)
      calls service.state next position service.loop.listening service.loop.running) :
    Serving handler options start base calls
      (service.moved ((service.loop.send number bytes).goto position) []) next := by
  have accepted : number < next := by omega
  refine ⟨serving.sameOptions, serving.unstopped, ?_, ?_, ?_, ?_, stage⟩
  · intro other above
    have calm := serving.calm other above
    rw [service.connection_send]
    split
    · exact ⟨calm.taking, calm.timely, calm.whole⟩
    · exact calm
  · simpa [Service.moved, Loop.send, Loop.goto, Loop.change] using serving.room
  · simpa [Service.moved, Loop.send, Loop.goto, Loop.change] using serving.queue
  · intro other above
    rw [serving.sent_on_send accepted bytes position other,
      if_neg (Nat.ne_of_gt (Nat.lt_of_lt_of_le accepted above))]
    exact serving.quiet other above

/-- The next waiting connection is the one after those that have been accepted. -/
theorem queue_head (serving : Serving handler options start base calls service next)
    {number : Nat} {rest : List Nat} (waiting : service.loop.waiting = number :: rest) :
    number = next ∧ next < service.loop.connections.length ∧
      rest = List.range' (next + 1) (service.loop.connections.length - (next + 1)) := by
  have queue := serving.queue
  rw [waiting] at queue
  have more : service.loop.connections.length - next ≠ 0 := by
    intro none
    simp [none] at queue
  obtain ⟨count, counted⟩ := Nat.exists_eq_succ_of_ne_zero more
  rw [counted, List.range'_succ, List.cons.injEq] at queue
  refine ⟨queue.1, by omega, ?_⟩
  rw [queue.2]
  congr 1
  omega

section Moves

variable {number : Nat}

/-- A peer whose turn has come gets the header, after two looks at the stop flag. -/
theorem step_arriving (serving : Serving handler options start base calls service (number + 1))
    (timely : options.readTimeout ≠ some 0)
    (place : service.loop.position = .accepted number ∨ service.loop.position = .admitted number ∨
      service.loop.position = .greeting number)
    (listens : service.loop.listening = true) (runs : service.loop.running = true)
    (unsent : service.sentOn number = [])
    (session : Session handler start base
      (service.readings handler.decode options.frameLimit) number calls service.state true)
    (moved : service.step handler = some later) :
    Serving handler options start base calls later (number + 1) := by
  rcases place with place | place | place
  · simp only [Service.step, place, serving.unstopped, Bool.false_eq_true, if_false,
      Option.some.injEq] at moved
    subst moved
    refine serving.keep (Nat.le_refl _) rfl rfl rfl serving.room serving.queue ?_
    simp only [Service.moved, Loop.goto, listens, runs]
    exact .arriving (.inr (.inl rfl)) unsent session
  · simp only [Service.step, place, serving.unstopped, Bool.false_eq_true, if_false,
      Option.some.injEq] at moved
    subst moved
    have flag : false = service.loop.stopFlag := serving.unstopped.symm
    refine serving.keep (Nat.le_refl _) rfl rfl flag serving.room serving.queue ?_
    simp only [Service.moved, listens, runs]
    exact .arriving (.inr (.inr rfl)) unsent session
  · simp only [Service.step, place, serving.sameOptions, timely, if_false,
      serving.transmit_eq session.base_le, Option.some.injEq] at moved
    subst moved
    have sent := serving.sent_on_send (Nat.lt_succ_self number) header (.reading number) number
    have extended := (serving.readings_send (Nat.lt_succ_self number) header
      (.reading number)).1
    rw [if_pos rfl, unsent, List.nil_append] at sent
    refine serving.send rfl header (.reading number) ?_
    rw [listens, runs]
    exact .reading sent (session.transfer extended)

/-- What can be read from a peer is its request, or its failure to make one. -/
theorem step_reading (serving : Serving handler options start base calls service (number + 1))
    (place : service.loop.position = .reading number)
    (listens : service.loop.listening = true) (runs : service.loop.running = true)
    (greeted : service.sentOn number = header)
    (session : Session handler start base
      (service.readings handler.decode options.frameLimit) number calls service.state true)
    (moved : service.step handler = some later) :
    Serving handler options start base calls later (number + 1) := by
  simp only [Service.step, place, serving.sameOptions] at moved
  cases read : readRequest handler.decode options.frameLimit (service.loop.connection number) with
  | pending => simp [read] at moved
  | failed error =>
      simp only [read, Option.some.injEq] at moved
      subst moved
      refine serving.keep (Nat.le_refl _) rfl rfl rfl serving.room serving.queue ?_
      simp only [Service.moved, Loop.goto, listens, runs]
      have exchanged := session.served (.failed ⟨error, read⟩)
        (greeted.trans (List.append_nil _).symm)
      rw [List.map_nil, List.append_nil] at exchanged
      exact .leaving (.inl rfl) exchanged
  | complete request =>
      simp only [read, Option.some.injEq] at moved
      subst moved
      refine serving.keep (Nat.le_refl _) rfl rfl rfl serving.room serving.queue ?_
      simp only [Service.moved, Loop.goto, listens, runs]
      exact .handling greeted read session

/-- The handler aborts, or it responds with something that fits a frame or does not. -/
theorem step_handling {request : Req}
    (serving : Serving handler options start base calls service (number + 1))
    (place : service.loop.position = .handling number request)
    (listens : service.loop.listening = true) (runs : service.loop.running = true)
    (greeted : service.sentOn number = header)
    (asked : (service.readings handler.decode options.frameLimit).asks number request)
    (session : Session handler start base
      (service.readings handler.decode options.frameLimit) number calls service.state true)
    (moved : service.step handler = some later) :
    Serving handler options start base (calls ++ [(number, request)]) later (number + 1) := by
  have greetedOnly := greeted.trans (List.append_nil _).symm
  simp only [Service.step, place] at moved
  rcases responds : handler.respond service.state request with ⟨_ | response, after, notices⟩
  · simp only [responds, Option.some.injEq] at moved
    subst moved
    refine serving.keep (Nat.le_refl _) rfl rfl rfl serving.room serving.queue ?_
    simp only [runs]
    exact .lowering (session.served (.aborted asked responds) greetedOnly)
  by_cases short : (handler.encode response).length ≤ bodyLimit
  · simp only [responds, frame_of_short short, Option.some.injEq] at moved
    subst moved
    refine serving.keep (Nat.le_refl _) rfl rfl rfl serving.room serving.queue ?_
    simp only [Loop.goto, listens, runs]
    exact .answering greeted asked responds short rfl session
  · have long := Nat.lt_of_not_le short
    simp only [responds, frame_of_long long, Option.some.injEq] at moved
    subst moved
    refine serving.keep (Nat.le_refl _) rfl rfl rfl serving.room serving.queue ?_
    simp only [Loop.goto, listens, runs]
    exact .leaving (.inl rfl) (session.served (.overlong asked responds long) greetedOnly)

/-- The response is sent, and with that the exchange is over. -/
theorem step_answering {request : Req} {response : Resp} {before : σ}
    {earlier : List (Nat × Req)} {notices : List Notice}
    (serving : Serving handler options start base calls service (number + 1))
    (place : service.loop.position = .answering number request
      (encodeLength (handler.encode response).length ++ handler.encode response))
    (listens : service.loop.listening = true) (runs : service.loop.running = true)
    (greeted : service.sentOn number = header)
    (asked : (service.readings handler.decode options.frameLimit).asks number request)
    (responds : handler.respond before request = (some response, service.state, notices))
    (short : (handler.encode response).length ≤ bodyLimit)
    (noted : calls = earlier ++ [(number, request)])
    (session : Session handler start base
      (service.readings handler.decode options.frameLimit) number earlier before true)
    (moved : service.step handler = some later) :
    Serving handler options start base calls later (number + 1) := by
  simp only [Service.step, place, serving.transmit_eq session.base_le, Option.some.injEq] at moved
  subst moved
  have sent := serving.sent_on_send (Nat.lt_succ_self number)
    (encodeLength (handler.encode response).length ++ handler.encode response)
    (.leaving (.ok (handler.closes request))) number
  have read := serving.readings_send (Nat.lt_succ_self number)
    (encodeLength (handler.encode response).length ++ handler.encode response)
    (.leaving (.ok (handler.closes request)))
  rw [if_pos rfl, greeted] at sent
  refine serving.send rfl _ _ ?_
  rw [listens, runs, noted]
  exact .leaving (.inl rfl)
    ((session.transfer read.1).served (.answered (read.2 request asked) responds short) sent)

/-- After an exchange the server goes on or closes, as the session says. -/
theorem step_leaving {result : Except WireError Bool}
    (serving : Serving handler options start base calls service next)
    (place : service.loop.position = .leaving result ∨ service.loop.position = .deciding result)
    (listens : service.loop.listening = true) (runs : service.loop.running = true)
    (session : Session handler start base (service.readings handler.decode options.frameLimit)
      next calls service.state (Loop.goesOn result))
    (moved : service.step handler = some later) :
    Serving handler options start base calls later next := by
  rcases place with place | place
  · simp only [Service.step, place, Option.some.injEq] at moved
    subst moved
    refine serving.keep (Nat.le_refl _) rfl rfl rfl serving.room serving.queue ?_
    simp only [Service.moved, listens, runs]
    exact .leaving (.inr rfl) session
  simp only [Service.step, place] at moved
  cases on : Loop.goesOn result with
  | true =>
      rw [on] at session
      simp only [on, if_true, Option.some.injEq] at moved
      subst moved
      refine serving.keep (Nat.le_refl _) rfl rfl rfl serving.room serving.queue ?_
      simp only [Service.moved, Loop.goto, listens, runs]
      exact .accepting session
  | false =>
      rw [on] at session
      simp only [on, Bool.false_eq_true, if_false, Option.some.injEq] at moved
      subst moved
      refine serving.keep (Nat.le_refl _) rfl rfl rfl serving.room serving.queue ?_
      simp only [Service.moved, Loop.goto, listens, runs]
      exact .closing session

end Moves

/-- Every move of the loop keeps what is kept while a server serves. -/
theorem step (serving : Serving handler options start base calls service next)
    (timely : options.readTimeout ≠ some 0) (moved : service.step handler = some later) :
    ∃ reached,
      Serving handler options start base (calls ++ service.loop.handing) later reached := by
  have stage := serving.stage
  generalize place : service.loop.position = position at stage
  generalize listens : service.loop.listening = listening at stage
  generalize runs : service.loop.running = running at stage
  simp only [Loop.handing, place]
  -- Only the moves from `accepting` and `handling` change how many peers have had their turn, or
  -- what the handler has been given.
  cases stage with
  | accepting session =>
      simp only [Service.step, place] at moved
      cases waiting : service.loop.waiting with
      | nil => simp [waiting] at moved
      | cons number rest =>
          simp only [waiting, Option.some.injEq] at moved
          subst moved
          obtain ⟨rfl, room, queue⟩ := serving.queue_head waiting
          rw [List.append_nil]
          refine ⟨number + 1, serving.keep (Nat.le_succ _) rfl rfl rfl room queue ?_⟩
          simp only [Service.moved, listens, runs]
          exact .arriving (.inl rfl) (serving.quiet number (Nat.le_refl _)) session
  | @arriving number _ arrives unsent session =>
      rw [← place] at arrives
      have reached := serving.step_arriving timely arrives listens runs unsent session moved
      refine ⟨number + 1, ?_⟩
      rcases arrives with stands | stands | stands
      all_goals
        rw [place] at stands
        subst stands
        simpa using reached
  | reading greeted session =>
      rw [List.append_nil]
      exact ⟨_, serving.step_reading place listens runs greeted session moved⟩
  | handling greeted asked session =>
      exact ⟨_, serving.step_handling place listens runs greeted asked session moved⟩
  | answering greeted asked responds short noted session =>
      rw [List.append_nil]
      exact ⟨_, serving.step_answering place listens runs greeted asked responds short noted session
        moved⟩
  | leaving leaves session =>
      rw [← place] at leaves
      have reached := serving.step_leaving leaves listens runs session moved
      refine ⟨next, ?_⟩
      rcases leaves with stands | stands
      all_goals
        rw [place] at stands
        subst stands
        simpa using reached
  | closing session =>
      simp only [Service.step, place, Option.some.injEq] at moved
      subst moved
      rw [List.append_nil]
      refine ⟨next, serving.keep (Nat.le_refl _) rfl rfl rfl serving.room serving.queue ?_⟩
      simp only [Service.moved, runs]
      exact .lowering session
  | @lowering _ abort session =>
      simp only [Service.step, place, Option.some.injEq] at moved
      subst moved
      rw [List.append_nil]
      refine ⟨next, serving.keep (Nat.le_refl _) rfl rfl rfl serving.room serving.queue ?_⟩
      simp only [Service.moved, listens]
      exact .ended (by cases abort <;> simp) session
  | ended ends session =>
      rcases ends with rfl | rfl <;> simp [Service.step, place] at moved

/-- What a peer does to its connection keeps what is kept, if it leaves the connection calm and
does not change what has been read from it and sent on it. -/
theorem change (serving : Serving handler options start base calls service next) (number : Nat)
    (f : Connection → Connection)
    (calm : ∀ connection : Connection, connection.Calm → (f connection).Calm)
    (sent : ∀ connection, (f connection).sent = connection.sent)
    (settled : base ≤ number → readRequest handler.decode options.frameLimit
        (service.loop.connection number) ≠ .pending →
      readRequest handler.decode options.frameLimit (f (service.loop.connection number)) =
        readRequest handler.decode options.frameLimit (service.loop.connection number)) :
    Serving handler options start base calls
      (service.moved (service.loop.change number f) []) next := by
  have changed : ∀ other,
      (service.moved (service.loop.change number f) []).loop.connection other =
        if other = number ∧ number < service.loop.connections.length
        then f (service.loop.connection other) else service.loop.connection other :=
    fun other => service.loop.connection_change number other f
  have gets : ∀ other, (service.moved (service.loop.change number f) []).sentOn other =
      service.sentOn other := by
    intro other
    simp only [Service.sentOn, changed]
    split
    · exact sent _
    · rfl
  have read : ∀ other, base ≤ other → readRequest handler.decode options.frameLimit
        (service.loop.connection other) ≠ .pending →
      readRequest handler.decode options.frameLimit
          ((service.moved (service.loop.change number f) []).loop.connection other) =
        readRequest handler.decode options.frameLimit (service.loop.connection other) := by
    intro other above nonpending
    rw [changed]
    split
    · rename_i own
      obtain ⟨rfl, -⟩ := own
      exact settled above nonpending
    · rfl
  refine ⟨serving.sameOptions, serving.unstopped, ?_, ?_, ?_, ?_, ?_⟩
  · intro other above
    rw [changed]
    split
    · exact calm _ (serving.calm other above)
    · exact serving.calm other above
  · simpa [Service.moved, Loop.change] using serving.room
  · simpa [Service.moved, Loop.change] using serving.queue
  · intro other above
    rw [gets]
    exact serving.quiet other above
  · refine serving.stage.transfer ⟨?_, ?_, fun other _ _ => gets other⟩
    · intro other above _ request asked
      have found : readRequest handler.decode options.frameLimit
        (service.loop.connection other) = .complete request := asked
      exact (read other above (by simp [found])).trans found
    · intro other above _ failure
      obtain ⟨error, failed⟩ := failure
      exact ⟨error, (read other above (by simp [failed])).trans failed⟩

theorem deliver (serving : Serving handler options start base calls service next) {number : Nat}
    (sending : (service.loop.connection number).ended = false) (bytes : Bytes) :
    Serving handler options start base calls
      (service.moved (service.loop.deliver number bytes) []) next :=
  serving.change number _ (fun _ calm => ⟨calm.taking, calm.timely, calm.whole⟩) (fun _ => rfl)
    fun own settled => read_request_deliver (serving.calm number own) sending settled bytes

theorem finish (serving : Serving handler options start base calls service next) (number : Nat) :
    Serving handler options start base calls
      (service.moved (service.loop.finishSending number) []) next :=
  serving.change number _ (fun _ calm => ⟨calm.taking, calm.timely, calm.whole⟩) (fun _ => rfl)
    fun own settled => read_request_finish (serving.calm number own) settled

/-- A new connection queues behind those that wait. -/
theorem connect (serving : Serving handler options start base calls service next) {number : Nat}
    {loop : Loop Req} (connected : service.loop.connect Connection.silent = some (number, loop)) :
    Serving handler options start base calls (service.moved loop []) next := by
  have same : loop.connection = service.loop.connection :=
    funext (Loop.connection_connect connected)
  have sent : (service.moved loop []).sentOn = service.sentOn := by
    funext other
    simp only [Service.sentOn, Service.moved, same]
  have readings : (service.moved loop []).readings handler.decode options.frameLimit =
      service.readings handler.decode options.frameLimit := by
    simp only [Service.readings, Service.moved, same]
    exact congrArg _ sent
  have calm := serving.calm
  have quiet := serving.quiet
  have stage := serving.stage
  rw [← same] at calm
  rw [← sent] at quiet
  rw [← readings] at stage
  unfold Loop.connect at connected
  split at connected
  · simp only [Option.some.injEq, Prod.mk.injEq] at connected
    obtain ⟨-, rfl⟩ := connected
    refine ⟨serving.sameOptions, serving.unstopped, calm, ?_, ?_, quiet, stage⟩
    · have room := serving.room
      simp only [Service.moved, List.length_append, List.length_singleton]
      omega
    · have room := serving.room
      have more : service.loop.connections.length + 1 - next =
          service.loop.connections.length - next + 1 := by omega
      have last : next + (service.loop.connections.length - next) =
          service.loop.connections.length := by omega
      simp only [Service.moved, List.length_append, List.length_singleton, serving.queue, more,
        List.range'_1_concat, last]
  · cases connected

end Serving

/-- A server that waits for its next peer and has none waiting. -/
structure Service.IsIdle (service : Service σ Req) : Prop where
  position : service.loop.position = .accepting
  waiting : service.loop.waiting = []
  unstopped : service.loop.stopFlag = false
  listening : service.loop.listening = true
  running : service.loop.running = true

/-- A server that waits starts a session with the peers that are still to come. -/
theorem Service.IsIdle.serving {service : Service σ Req} (idle : service.IsIdle)
    (handler : Handler σ Req Resp) :
    Serving handler service.loop.options service.state service.loop.connections.length [] service
      service.loop.connections.length := by
  refine ⟨rfl, idle.unstopped, ?_, Nat.le_refl _, ?_, ?_, ?_⟩
  · intro number beyond
    rw [service.loop.connection_beyond beyond]
    exact Connection.silent_calm
  · simp [idle.waiting]
  · intro number beyond
    simp only [Service.sentOn, service.loop.connection_beyond beyond, Connection.silent]
  · rw [idle.position, idle.listening, idle.running]
    exact .accepting .opened

/-- A run of a server carries out a session. -/
theorem Run.serving {handler : Handler σ Req Resp} {start service : Service σ Req}
    {calls : List (Nat × Req)} (run : Run handler start calls service) (idle : start.IsIdle)
    (timely : start.loop.options.readTimeout ≠ some 0) :
    ∃ next, Serving handler start.loop.options start.state start.loop.connections.length calls
      service next := by
  induction run with
  | start => exact ⟨_, idle.serving handler⟩
  | move before moved ih =>
      obtain ⟨next, serving⟩ := ih
      exact serving.step timely moved
  | connect before connected ih =>
      obtain ⟨next, serving⟩ := ih
      exact ⟨next, serving.connect connected⟩
  | send before sending ih =>
      obtain ⟨next, serving⟩ := ih
      exact ⟨next, serving.deliver sending _⟩
  | finish before ih =>
      obtain ⟨next, serving⟩ := ih
      exact ⟨next, serving.finish _⟩

end CallMonitor.Server
