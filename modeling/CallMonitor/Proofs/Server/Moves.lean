import CallMonitor.Server.Stop

/-!
What the loop of a server can do in one move, told once for everything that does not look at what
is asked and answered: `Move` has a case for each way on, and what keeps a loop from moving is told
by `Service.Waits`.
-/

namespace CallMonitor.Server

open CallMonitor.Text CallMonitor.Wire

variable {σ Req Resp : Type}

namespace Position

/-- The connection that has been accepted and is not yet in the slot. -/
def meets : Position Req → Option Nat
  | .accepted number | .admitted number => some number
  | _ => none

def serves : Position Req → Option Nat
  | .greeting number | .reading number | .handling number _ | .answering number _ _ => some number
  | _ => none

/-- How many moves are left at most once the stop flag is raised. -/
def toEnd : Position Req → Nat
  | .finished | .aborted => 0
  | .lowering _ => 1
  | .closing => 2
  | .accepted _ | .admitted _ => 3
  | .accepting => 4
  | .deciding _ => 5
  | .leaving _ => 6
  | .answering _ _ _ => 7
  | .handling _ _ => 8
  | .reading _ => 9
  | .greeting _ => 10

theorem to_end_le (position : Position Req) : position.toEnd ≤ 10 := by
  cases position <;> simp [toEnd]

theorem to_end_of_meets {position : Position Req} {number : Nat}
    (meets : position.meets = some number) : position.toEnd = 3 := by
  cases position with
  | accepted | admitted => rfl
  | _ => cases meets

theorem lt_to_end_of_serves {position : Position Req} {number : Nat}
    (serves : position.serves = some number) : 6 < position.toEnd := by
  cases position with
  | greeting | reading | handling | answering => simp [toEnd]
  | _ => cases serves

end Position

theorem Loop.has_ended_iff {loop : Loop Req} :
    loop.hasEnded = true ↔ loop.position.toEnd = 0 := by
  unfold Loop.hasEnded
  cases loop.position <;> simp [Position.toEnd]

/-- How a loop goes on. Where it serves a connection, it serves it further or leaves it, and comes
nearer to its end in both cases. -/
inductive Move (loop : Loop Req) : Loop Req → Prop
  | accept {number : Nat} {rest : List Nat} (place : loop.position = .accepting)
      (queue : loop.waiting = number :: rest) :
      Move loop { loop with waiting := rest, position := .accepted number }
  | pass {number : Nat} (place : loop.position = .accepted number)
      (unstopped : loop.stopFlag = false) :
      Move loop (loop.goto (.admitted number))
  | register {number : Nat} (place : loop.position = .admitted number)
      (unstopped : loop.stopFlag = false) :
      Move loop { loop with slot := some number, position := .greeting number }
  | halt {number : Nat} (place : loop.position.meets = some number)
      (stopped : loop.stopFlag = true) :
      Move loop (loop.goto .closing)
  | serve {number : Nat} {position : Position Req} (place : loop.position.serves = some number)
      (further : position.serves = some number ∨ ∃ result, position = .leaving result)
      (nearer : position.toEnd < loop.position.toEnd) :
      Move loop (loop.goto position)
  | send {number : Nat} {bytes : Bytes} {position : Position Req}
      (place : loop.position.serves = some number)
      (further : position.serves = some number ∨ ∃ result, position = .leaving result)
      (nearer : position.toEnd < loop.position.toEnd) :
      Move loop ((loop.send number bytes).goto position)
  | abort {number : Nat} (place : loop.position.serves = some number) :
      Move loop { loop with listening := false, position := .lowering true }
  | clear {result : Except WireError Bool} (place : loop.position = .leaving result) :
      Move loop { loop with slot := none, position := .deciding result }
  | goOn {result : Except WireError Bool} (place : loop.position = .deciding result) :
      Move loop (loop.goto .accepting)
  | giveUp {result : Except WireError Bool} (place : loop.position = .deciding result) :
      Move loop (loop.goto .closing)
  | close (place : loop.position = .closing) :
      Move loop { loop with listening := false, position := .lowering false }
  | lower {abort : Bool} (place : loop.position = .lowering abort) :
      Move loop { loop with
        running := false, position := if abort then .aborted else .finished }

theorem Service.transmit_move {service later : Service σ Req} {number : Nat} {bytes : Bytes}
    {position : Position Req} (place : service.loop.position.serves = some number)
    (further : position.serves = some number ∨ ∃ result, position = .leaving result)
    (nearer : position.toEnd < service.loop.position.toEnd)
    (moved : service.transmit number bytes position = some later) :
    Move service.loop later.loop := by
  unfold Service.transmit at moved
  dsimp only at moved
  split at moved
  · cases moved
    apply Move.serve place
    · exact .inr ⟨_, rfl⟩
    · exact Position.lt_to_end_of_serves place
  · split at moved
    · cases moved
    · cases moved
      exact .send place further nearer

theorem Service.step_move {handler : Handler σ Req Resp} {service later : Service σ Req}
    (moved : service.step handler = some later) : Move service.loop later.loop := by
  unfold Service.step at moved
  dsimp only at moved
  split at moved
  case h_1 place =>
    split at moved
    · cases moved
    · rename_i number rest queue
      cases moved
      exact .accept place queue
  case h_2 number place =>
    have meets : service.loop.position.meets = some number := by rw [place]; rfl
    split at moved
    · rename_i stopped
      cases moved
      exact .halt meets stopped
    · rename_i unstopped
      cases moved
      exact .pass place (Bool.not_eq_true _ ▸ unstopped)
  case h_3 number place =>
    have meets : service.loop.position.meets = some number := by rw [place]; rfl
    split at moved
    · rename_i stopped
      cases moved
      exact .halt meets stopped
    · rename_i unstopped
      cases moved
      exact .register place (Bool.not_eq_true _ ▸ unstopped)
  case h_4 number place =>
    have serves : service.loop.position.serves = some number := by rw [place]; rfl
    split at moved
    · cases moved
      exact .serve serves (.inr ⟨_, rfl⟩) (Position.lt_to_end_of_serves serves)
    · exact Service.transmit_move serves (.inl rfl) (by simp [place, Position.toEnd]) moved
  case h_5 number place =>
    have serves : service.loop.position.serves = some number := by rw [place]; rfl
    split at moved
    · cases moved
    · cases moved
      exact .serve serves (.inr ⟨_, rfl⟩) (Position.lt_to_end_of_serves serves)
    · cases moved
      exact .serve serves (.inl rfl) (by simp [place, Position.toEnd])
  case h_6 number request place =>
    have serves : service.loop.position.serves = some number := by rw [place]; rfl
    split at moved
    · cases moved
      exact .abort serves
    · cases moved
      split
      · exact .serve serves (.inr ⟨_, rfl⟩) (Position.lt_to_end_of_serves serves)
      · exact .serve serves (.inl rfl) (by simp [place, Position.toEnd])
  case h_7 number request response place =>
    have serves : service.loop.position.serves = some number := by rw [place]; rfl
    exact Service.transmit_move serves (.inr ⟨_, rfl⟩) (Position.lt_to_end_of_serves serves) moved
  case h_8 result place =>
    cases moved
    exact .clear place
  case h_9 result place =>
    split at moved
    · cases moved
      exact .goOn place
    · cases moved
      exact .giveUp place
  case h_10 place =>
    cases moved
    exact .close place
  case h_11 abort place =>
    cases moved
    exact .lower place
  case h_12 => cases moved
  case h_13 => cases moved

/-- Once the stop flag is raised, every move brings the loop nearer to its end. -/
theorem Move.nearer {loop later : Loop Req} (move : Move loop later)
    (stopped : loop.stopFlag = true) : later.position.toEnd < loop.position.toEnd := by
  cases move with
  | accept place queue => rw [place]; simp [Position.toEnd]
  | pass place unstopped => rw [stopped] at unstopped; cases unstopped
  | register place unstopped => rw [stopped] at unstopped; cases unstopped
  | halt place _ => rw [Position.to_end_of_meets place]; simp [Position.toEnd, Loop.goto]
  | serve place further nearer => exact nearer
  | send place further nearer => exact nearer
  | abort place =>
      have far := Position.lt_to_end_of_serves place
      exact Nat.lt_trans (by decide : 1 < 6) far
  | clear place => rw [place]; simp [Position.toEnd]
  | goOn place => rw [place]; simp [Position.toEnd, Loop.goto]
  | giveUp place => rw [place]; simp [Position.toEnd, Loop.goto]
  | close place => rw [place]; simp [Position.toEnd]
  | lower place => rw [place]; split <;> simp [Position.toEnd]

/-- A loop that waits for somebody else: for a peer to connect, or, on a connection that nobody has
shut down, for a peer to take what it is sent or to send its request. -/
inductive Service.Waits (handler : Handler σ Req Resp) (service : Service σ Req) : Prop
  | toAccept (place : service.loop.position = .accepting) (nobody : service.loop.waiting = [])
  | toGreet {number : Nat} (place : service.loop.position = .greeting number)
      (timely : service.loop.options.readTimeout ≠ some 0)
      (whole : (service.loop.connection number).cut = false)
      (stalled : (service.loop.connection number).stalled = true)
  | toRead {number : Nat} (place : service.loop.position = .reading number)
      (whole : (service.loop.connection number).cut = false)
      (pending : readRequest handler.decode service.loop.options.frameLimit
        (service.loop.connection number) = .pending)
  | toAnswer {number : Nat} {request : Req} {response : Bytes}
      (place : service.loop.position = .answering number request response)
      (whole : (service.loop.connection number).cut = false)
      (stalled : (service.loop.connection number).stalled = true)

theorem Service.transmit_eq_none_iff {service : Service σ Req} {number : Nat} {bytes : Bytes}
    {position : Position Req} :
    service.transmit number bytes position = none ↔
      (service.loop.connection number).cut = false ∧
        (service.loop.connection number).stalled = true := by
  unfold Service.transmit
  dsimp only
  split
  · rename_i cut
    simp [cut]
  · rename_i whole
    split
    · rename_i stalled
      simp [whole, stalled]
    · rename_i taking
      simp [taking]

theorem whole_of_pending {decode : Bytes → Option Req} {limit : Nat} {connection : Connection}
    (pending : readRequest decode limit connection = .pending) : connection.cut = false := by
  cases whole : connection.cut with
  | false => rfl
  | true =>
      unfold readRequest at pending
      simp only [whole, Bool.or_true, if_true] at pending
      split at pending <;> cases pending

/-- A loop that cannot move waits or has ended. -/
theorem Service.step_eq_none_iff {handler : Handler σ Req Resp} {service : Service σ Req} :
    service.step handler = none ↔ service.Waits handler ∨ service.loop.hasEnded = true := by
  constructor
  · intro rest
    unfold Service.step at rest
    dsimp only at rest
    -- Only to accept, to read or to write may the loop have to wait.
    split at rest
    case h_1 place =>
      split at rest
      · rename_i nobody
        exact .inl (.toAccept place nobody)
      · cases rest
    case h_4 place =>
      split at rest
      · cases rest
      · rename_i timely
        obtain ⟨whole, stalled⟩ := Service.transmit_eq_none_iff.mp rest
        exact .inl (.toGreet place timely whole stalled)
    case h_5 place =>
      split at rest
      · rename_i pending
        exact .inl (.toRead place (whole_of_pending pending) pending)
      · cases rest
      · cases rest
    case h_7 place =>
      obtain ⟨whole, stalled⟩ := Service.transmit_eq_none_iff.mp rest
      exact .inl (.toAnswer place whole stalled)
    case h_12 place => exact .inr (by simp [Loop.hasEnded, place])
    case h_13 place => exact .inr (by simp [Loop.hasEnded, place])
    all_goals first | cases rest | (split at rest <;> cases rest)
  · rintro (waits | ended)
    · cases waits with
      | toAccept place nobody => simp [Service.step, place, nobody]
      | toGreet place timely whole stalled =>
          simp only [Service.step, place, timely, if_false]
          exact Service.transmit_eq_none_iff.mpr ⟨whole, stalled⟩
      | toRead place whole pending => simp [Service.step, place, pending]
      | toAnswer place whole stalled =>
          simp only [Service.step, place]
          exact Service.transmit_eq_none_iff.mpr ⟨whole, stalled⟩
    · unfold Loop.hasEnded at ended
      split at ended
      · rename_i place
        simp [Service.step, place]
      · rename_i place
        simp [Service.step, place]
      · cases ended

end CallMonitor.Server
