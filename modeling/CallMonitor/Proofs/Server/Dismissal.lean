import CallMonitor.Proofs.Server.Stopping

/-!
Stopping a server at rest. Its loop waits for a peer or has ended, so no request is under way that
could still be answered: the stop closes the port and asks the service nothing. What the service's
state is does not come into it.
-/

namespace CallMonitor.Server

open CallMonitor.Text CallMonitor.Wire

variable {σ Req Resp : Type} {handler : Handler σ Req Resp}

theorem Service.rests_congr {service other : Service σ Req} (same : other.loop = service.loop)
    (rest : service.step handler = none) : other.step handler = none := by
  rw [Service.step_eq_none_iff] at rest ⊢
  rw [same]
  refine rest.imp_left fun waits => ?_
  cases waits with
  | toAccept place nobody => exact .toAccept (same ▸ place) (same ▸ nobody)
  | toGreet place timely whole stalled =>
      exact .toGreet (same ▸ place) (same ▸ timely) (same ▸ whole) (same ▸ stalled)
  | toRead place whole pending => exact .toRead (same ▸ place) (same ▸ whole) (same ▸ pending)
  | toAnswer place whole stalled =>
      exact .toAnswer (same ▸ place) (same ▸ whole) (same ▸ stalled)

/-- A loop at rest runs exactly as long as its port is open. -/
theorem Sound.running_eq_listening {stopper : Stopper} {service : Service σ Req}
    (sound : Sound stopper service.loop) (rest : service.step handler = none) :
    service.loop.running = service.loop.listening := by
  rw [Bool.eq_iff_iff, sound.runs, sound.listens]
  rcases Service.step_eq_none_iff.mp rest with waits | ended
  · cases waits with
    | toAccept place | toGreet place | toRead place | toAnswer place =>
        simp [place, Position.toEnd]
  · rw [Loop.has_ended_iff.mp ended]
    simp

theorem Sound.has_ended_eq {stopper : Stopper} {loop : Loop Req} (sound : Sound stopper loop) :
    loop.hasEnded = !loop.running := by
  rw [Bool.eq_iff_iff, Loop.has_ended_iff, Bool.not_eq_true', ← Bool.not_eq_true, sound.runs]
  omega

theorem Move.options {loop later : Loop Req} (move : Move loop later) :
    later.options = loop.options := by
  cases move <;> rfl

theorem Move.port {loop later : Loop Req} (move : Move loop later) : later.port = loop.port := by
  cases move <;> rfl

theorem Turns.port {first scene : Scene σ Req} {movers : List Mover}
    (turns : Turns handler first movers scene) :
    scene.service.loop.port = first.service.loop.port := by
  induction turns with
  | none => rfl
  | more _ turn ih =>
      rcases turn.loop_cases with move | untouched
      · exact move.port.trans ih
      · exact untouched.port.trans ih

theorem Service.advance_options (handler : Handler σ Req Resp) (service : Service σ Req) :
    (service.advance handler).loop.options = service.loop.options := by
  unfold Service.advance
  generalize service.patience = count
  induction count generalizing service with
  | zero => rfl
  | succ count ih =>
      unfold Service.advanceFor
      cases moved : service.step handler with
      | none => rfl
      | some later => exact (ih later).trans (Service.step_move moved).options

theorem Loop.connect_options {loop later : Loop Req} {connection : Connection} {number : Nat}
    (connected : loop.connect connection = some (number, later)) :
    later.options = loop.options := by
  unfold Loop.connect at connected
  split at connected
  · cases connected
    rfl
  · cases connected

theorem readable_of_pending {decode : Bytes → Option Req} {limit : Nat} {connection : Connection}
    (pending : readRequest decode limit connection = .pending) :
    ∃ reason, (readFrame decode limit connection.arrived).1 = .error (.io reason) := by
  unfold readRequest at pending
  split at pending
  · cases pending
  · rename_i reason read
    exact ⟨reason, read⟩
  · cases pending

theorem failed_of_cut {decode : Bytes → Option Req} {limit : Nat} {connection : Connection}
    {reason : SystemError} (short : (readFrame decode limit connection.arrived).1 =
      .error (.io reason)) (cut : connection.cut = true) :
    readRequest decode limit connection = .failed (.io reason) := by
  simp [readRequest, short, cut]

/-- A loop on its way to its end, on which no request will be taken: the stop flag is raised, no
request has been read, and the connection from which one might be read has been cut. -/
structure Service.IsWinding (handler : Handler σ Req Resp) (service : Service σ Req) : Prop where
  flagged : service.loop.stopFlag = true
  unasked : ∀ number request, service.loop.position ≠ .handling number request
  ungreeted : ∀ number, service.loop.position = .greeting number →
    (service.loop.connection number).cut = true
  unread : ∀ number, service.loop.position = .reading number →
    ∃ error, readRequest handler.decode service.loop.options.frameLimit
      (service.loop.connection number) = .failed error

namespace Service.IsWinding

variable {service later : Service σ Req}

/-- Nothing more is to be said of a loop that serves nobody. -/
theorem of_away (flagged : service.loop.stopFlag = true)
    (away : service.loop.position.serves = none) : service.IsWinding handler := by
  refine ⟨flagged, ?_, ?_, ?_⟩
  · intro number request place
    rw [place] at away
    cases away
  · intro number place
    rw [place] at away
    cases away
  · intro number place
    rw [place] at away
    cases away

theorem transmit {number : Nat} {bytes : Bytes} {next : Position Req}
    (flagged : service.loop.stopFlag = true)
    (away : (service.loop.connection number).cut = true ∨ next.serves = none)
    (moved : service.transmit number bytes next = some later) :
    later.IsWinding handler ∧ later.state = service.state := by
  unfold Service.transmit at moved
  dsimp only at moved
  split at moved
  · cases moved
    exact ⟨of_away flagged rfl, rfl⟩
  · rename_i whole
    split at moved
    · cases moved
    · cases moved
      exact ⟨of_away flagged (away.resolve_left whole), rfl⟩

/-- A move on the way to the end asks the service nothing. -/
theorem step (winding : service.IsWinding handler) (moved : service.step handler = some later) :
    later.IsWinding handler ∧ later.state = service.state := by
  have flagged := winding.flagged
  unfold Service.step at moved
  dsimp only at moved
  split at moved
  case h_1 place =>
    split at moved <;> cases moved
    exact ⟨of_away flagged rfl, rfl⟩
  case h_2 number place =>
    rw [if_pos flagged] at moved
    cases moved
    exact ⟨of_away flagged rfl, rfl⟩
  case h_3 number place =>
    rw [if_pos flagged] at moved
    cases moved
    exact ⟨of_away flagged rfl, rfl⟩
  case h_4 number place =>
    split at moved
    · cases moved
      exact ⟨of_away flagged rfl, rfl⟩
    · exact transmit flagged (.inl (winding.ungreeted number place)) moved
  case h_5 number place =>
    obtain ⟨error, failed⟩ := winding.unread number place
    rw [failed] at moved
    cases moved
    exact ⟨of_away flagged rfl, rfl⟩
  case h_6 number request place => exact absurd place (winding.unasked number request)
  case h_7 number request response place => exact transmit flagged (.inr rfl) moved
  case h_8 result place =>
    cases moved
    exact ⟨of_away flagged rfl, rfl⟩
  case h_9 result place =>
    split at moved <;> cases moved <;> exact ⟨of_away flagged rfl, rfl⟩
  case h_10 place =>
    cases moved
    exact ⟨of_away flagged rfl, rfl⟩
  case h_11 abort place =>
    cases moved
    refine ⟨of_away flagged ?_, rfl⟩
    cases abort <;> rfl
  case h_12 => cases moved
  case h_13 => cases moved

theorem advance_for (winding : service.IsWinding handler) (count : Nat) :
    (service.advanceFor handler count).state = service.state := by
  induction count generalizing service with
  | zero => rfl
  | succ count ih =>
      unfold Service.advanceFor
      cases moved : service.step handler with
      | none => rfl
      | some later =>
          obtain ⟨further, same⟩ := winding.step moved
          exact (ih further).trans same

end Service.IsWinding

/-- What a stop does to the loop before it waits for the loop's end. -/
theorem Sound.joining {loop : Loop Req} (sound : Sound .idle loop) :
    Sound .joining loop.raiseFlag.cutSlot.wake := by
  have severed := sound.raise_flag.cut_slot
  unfold Loop.wake
  split
  · have waking : Sound .waking loop.raiseFlag.cutSlot :=
      severed.onward (by decide) (fun _ _ => severed.cut_of_serves rfl) (by simp) (by simp)
    exact waking.knock
  · rename_i halted
    refine severed.onward (by decide) (fun _ _ => severed.cut_of_serves rfl) ?_ (by simp)
    intro _ far
    exact absurd (severed.runs.mpr (by omega)) halted

/-- What a stop leaves of a loop as it was. -/
structure Loop.Halting (loop later : Loop Req) : Prop where
  flagged : later.stopFlag = true
  position : later.position = loop.position
  options : later.options = loop.options
  arrived : ∀ number, (later.connection number).arrived = (loop.connection number).arrived

theorem Loop.halting_cut (loop : Loop Req) : loop.Halting loop.raiseFlag.cutSlot := by
  unfold Loop.cutSlot
  split
  · exact ⟨rfl, rfl, rfl, fun _ => rfl⟩
  · refine ⟨rfl, rfl, rfl, fun number => ?_⟩
    rw [Loop.connection_change]
    split <;> rfl

theorem Loop.Halting.knock {loop later : Loop Req} (halting : loop.Halting later) :
    loop.Halting later.knock := by
  unfold Loop.knock Loop.connect
  split
  · exact halting
  · rename_i connected
    split at connected
    · cases connected
      refine ⟨halting.flagged, halting.position, halting.options, fun number => ?_⟩
      rw [← halting.arrived]
      simp only [Loop.connection, List.getD_eq_getElem?_getD]
      rcases Nat.lt_trichotomy number later.connections.length with inside | rfl | outside
      · rw [List.getElem?_append_left inside]
      · simp [Connection.silent]
      · have beyond : number - later.connections.length ≠ 0 := by omega
        rw [List.getElem?_append_right (Nat.le_of_lt outside)]
        simp [beyond, Nat.le_of_lt outside]
    · cases connected

theorem Loop.halting_wake (loop : Loop Req) : loop.Halting loop.raiseFlag.cutSlot.wake := by
  unfold Loop.wake
  split
  · exact loop.halting_cut.knock
  · exact loop.halting_cut

/-- A stop finds a loop at rest without a request to answer. -/
theorem Service.winding_of_rest {service : Service σ Req} (sound : Sound .idle service.loop)
    (rest : service.step handler = none) :
    (service.moved service.loop.raiseFlag.cutSlot.wake []).IsWinding handler := by
  have halting := service.loop.halting_wake
  have cut : ∀ {number}, service.loop.position.serves = some number →
      (service.loop.raiseFlag.cutSlot.wake.connection number).cut = true := by
    intro number serves
    exact sound.joining.cut_of_serves rfl (halting.position ▸ serves)
  have position : (service.moved service.loop.raiseFlag.cutSlot.wake []).loop.position =
    service.loop.position := halting.position
  rcases Service.step_eq_none_iff.mp rest with waits | ended
  · cases waits with
    | toAccept place nobody =>
        exact .of_away halting.flagged (by rw [position, place]; rfl)
    | @toGreet number place =>
        refine ⟨halting.flagged, ?_, ?_, ?_⟩
        · simp [position, place]
        · rw [position, place]
          rintro other ⟨⟩
          exact cut (by rw [place]; rfl)
        · simp [position, place]
    | @toRead number place whole pending =>
        refine ⟨halting.flagged, ?_, ?_, ?_⟩
        · simp [position, place]
        · simp [position, place]
        · rw [position, place]
          rintro other ⟨⟩
          obtain ⟨reason, short⟩ := readable_of_pending pending
          rw [← halting.arrived, ← halting.options] at short
          exact ⟨_, failed_of_cut short (cut (by rw [place]; rfl))⟩
    | @toAnswer number request response place =>
        refine ⟨halting.flagged, ?_, ?_, ?_⟩ <;> simp [position, place]
  · have away : service.loop.position.serves = none := by
      have zero := Loop.has_ended_iff.mp ended
      cases serves : service.loop.position.serves with
      | none => rfl
      | some number =>
          have far := Position.lt_to_end_of_serves serves
          omega
    exact .of_away halting.flagged (position ▸ away)

/-- A server that has been stopped: its port is closed and its loop has ended. -/
structure Loop.IsClosed (loop : Loop Req) : Prop where
  shut : loop.listening = false
  ended : loop.hasEnded = true

theorem Service.stop_closes (handler : Handler σ Req Resp) {service : Service σ Req}
    (sound : Sound .idle service.loop) :
    (service.stop handler).loop.IsClosed ∧
      (service.stop handler).loop.port = service.loop.port := by
  have start : Turns handler ⟨.idle, service⟩ [] ⟨.idle, service⟩ := .none
  obtain ⟨movers, turns⟩ := start.stop sound
  have stopped := turns.sound sound
  have ended := stopped.ended rfl
  have listens := stopped.listens
  rw [ended] at listens
  exact ⟨⟨by simpa using listens, Loop.has_ended_iff.mpr ended⟩, turns.port⟩

/-- A server at rest is stopped without its service being asked anything. -/
theorem Service.stop_keeps_state {service : Service σ Req} (sound : Sound .idle service.loop)
    (rest : service.step handler = none) :
    (service.stop handler).state = service.state :=
  (service.winding_of_rest sound rest).advance_for _

end CallMonitor.Server
