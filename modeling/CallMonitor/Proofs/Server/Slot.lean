import CallMonitor.Proofs.Server.Stopping

/-!
The slot of a server. It holds a connection for as long as an exchange goes on: from before the
header is sent until the exchange is over, in whatever way it ends.

An abort of the handler is no such way. It takes the loop with it past the place at which the slot
is cleared, so the connection stays where it is, and its peer is told of no end until a stop cuts
it.
-/

namespace CallMonitor.Server

open CallMonitor.Text CallMonitor.Wire

variable {σ Req Resp : Type}

namespace Position

/-- Whether an exchange is going on. -/
def isUnderway : Position Req → Bool
  | .greeting _ | .reading _ | .handling _ _ | .answering _ _ _ | .leaving _ => true
  | _ => false

/-- Whether the handler has aborted. -/
def isPastAbort : Position Req → Bool
  | .lowering abort => abort
  | .aborted => true
  | _ => false

theorem underway_of_serves {position : Position Req} {number : Nat}
    (serves : position.serves = some number) : position.isUnderway = true := by
  cases position with
  | greeting | reading | handling | answering => rfl
  | _ => cases serves

theorem clear_of_meets {position : Position Req} {number : Nat}
    (meets : position.meets = some number) :
    (position.isUnderway || position.isPastAbort) = false := by
  cases position with
  | accepted | admitted => rfl
  | _ => cases meets

end Position

/-- The slot is filled where the loop stands in an exchange or behind an abort. -/
def Loop.SlotFits (loop : Loop Req) : Prop :=
  loop.slot.isSome = (loop.position.isUnderway || loop.position.isPastAbort)

namespace Loop.SlotFits

variable {loop later : Loop Req}

theorem goto (fits : loop.SlotFits) {position : Position Req}
    (same : (position.isUnderway || position.isPastAbort) =
      (loop.position.isUnderway || loop.position.isPastAbort)) :
    (loop.goto position).SlotFits := by
  rw [SlotFits, Loop.goto, same]
  exact fits

theorem send (fits : loop.SlotFits) (number : Nat) (bytes : Bytes) :
    (loop.send number bytes).SlotFits := fits

theorem serve (fits : loop.SlotFits) {number : Nat} {position : Position Req}
    (place : loop.position.serves = some number)
    (further : position.serves = some number ∨ ∃ result, position = .leaving result) :
    (loop.goto position).SlotFits := by
  have underway : position.isUnderway = true := by
    rcases further with serves | ⟨result, rfl⟩
    · exact Position.underway_of_serves serves
    · rfl
  apply fits.goto
  rw [underway, Position.underway_of_serves place]
  rfl

theorem move (fits : loop.SlotFits) (move : Move loop later) : later.SlotFits := by
  cases move with
  | accept place queue =>
      rw [SlotFits, place] at fits
      exact fits
  | pass place unstopped => exact fits.goto (by rw [place]; rfl)
  | register place unstopped => rfl
  | halt place stopped => exact fits.goto (Position.clear_of_meets place).symm
  | serve place further nearer => exact fits.serve place further
  | send place further nearer => exact (fits.send _ _).serve place further
  | abort place =>
      rw [SlotFits, Position.underway_of_serves place] at fits
      exact fits
  | clear place => rfl
  | goOn place => exact fits.goto (by rw [place]; rfl)
  | giveUp place => exact fits.goto (by rw [place]; rfl)
  | close place =>
      rw [SlotFits, place] at fits
      exact fits
  | @lower abort place =>
      rw [SlotFits, place] at fits
      rw [SlotFits, fits]
      cases abort <;> rfl

theorem turn {handler : Handler σ Req Resp} {mover : Mover} {scene next : Scene σ Req}
    (fits : scene.service.loop.SlotFits) (turn : Turn handler mover scene next) :
    next.service.loop.SlotFits := by
  rcases turn.loop_cases with move | untouched
  · exact fits.move move
  · rw [SlotFits, untouched.slot, untouched.position]
    exact fits

end Loop.SlotFits

/-- After any turns of loop, stop and peers, the slot holds a connection exactly if an exchange is
going on or the handler has aborted. So it is empty while the loop waits to accept, and when the
loop has ended in any other way. -/
theorem slot_filled_iff {handler : Handler σ Req Resp} {state : σ} {port : Nat} {options : Options}
    {notices : List Notice} {movers : List Mover} {scene : Scene σ Req}
    (turns : Turns handler (.opening state port options notices) movers scene) :
    scene.service.loop.slot.isSome = true ↔
      scene.service.loop.position.isUnderway = true ∨
        scene.service.loop.position.isPastAbort = true := by
  have fits : scene.service.loop.SlotFits := by
    induction turns with
    | none => rfl
    | more before turn ih => exact ih.turn turn
  rw [fits, Bool.or_eq_true]

/-- The tally with a handler that aborts on every request. -/
def abortingTally : Handler Nat Nat Nat := { tally with respond sum _ := (none, sum, []) }

/-- The loop has ended by an abort and nobody has cut the connection, which is still in the slot. -/
theorem slot_kept_past_abort :
    ∃ movers scene, Turns abortingTally (.opening 0 80 patientOptions []) movers scene ∧
      scene.service.loop.position = .aborted ∧ scene.service.loop.slot = some 0 ∧
      (scene.service.loop.connection 0).cut = false := by
  have opened : Turns abortingTally (.opening 0 80 patientOptions []) []
      (.opening 0 80 patientOptions []) := .none
  have asked := (opened.more (.connect rfl)).more
    (.change 0 (f := fun connection => { connection with arrived := [0, 0, 0, 1, 7] })
      fun _ cut => cut)
  have greeting := ((asked.more (.loop rfl)).more (.loop rfl)).more (.loop rfl)
  have handling := (greeting.more (.loop rfl)).more (.loop rfl)
  have aborted := (handling.more (.loop rfl)).more (.loop rfl)
  exact ⟨_, _, aborted, rfl, rfl, rfl⟩

end CallMonitor.Server
