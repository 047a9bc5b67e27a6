import CallMonitor.Server.Handler

/-!
A server as a machine. Its loop accepts one connection after the other, reads one request from
each, answers it, and goes on until it is asked to close, an exchange fails, or it is stopped.
Every move of the loop is one step, and `step` is `none` where the loop waits for somebody else
or has ended; so whatever the loop's peers and its stopper do may come between any two steps.

The slot holds the connection of the running exchange, so that a stopper can cut it.
-/

namespace CallMonitor.Server

open CallMonitor.Text CallMonitor.Wire

structure Connection where
  arrived : Bytes
  ended : Bool
  /-- The peer takes nothing of what is sent to it. -/
  stalled : Bool
  sent : Bytes
  /-- The request has not arrived in time. -/
  overdue : Bool
  /-- The connection has been shut down; no read or write on it waits any more. -/
  cut : Bool
  deriving DecidableEq, Repr

def Connection.silent : Connection := ⟨[], false, false, [], false, false⟩

inductive Position (Req : Type)
  | accepting
  /-- A connection is accepted; the stop flag is to be looked at. -/
  | accepted (connection : Nat)
  /-- No stop was seen; the connection is to be put into the slot. -/
  | admitted (connection : Nat)
  | greeting (connection : Nat)
  | reading (connection : Nat)
  | handling (connection : Nat) (request : Req)
  | answering (connection : Nat) (request : Req) (response : Bytes)
  /-- The exchange is over; the slot is to be cleared. -/
  | leaving (result : Except WireError Bool)
  /-- The slot is clear; whether to go on is to be decided. -/
  | deciding (result : Except WireError Bool)
  | closing
  /-- The listener is closed; the running flag is to be lowered. -/
  | lowering (abort : Bool)
  | finished
  | aborted
  deriving Repr

/-- A server: its loop, and what the loop shares with peers and stoppers. -/
structure Loop (Req : Type) where
  port : Nat
  options : Options
  position : Position Req
  connections : List Connection
  /-- Connections that wait to be accepted, the longest waiting first. -/
  waiting : List Nat
  /-- The connection that a stopper would cut. -/
  slot : Option Nat
  stopFlag : Bool
  running : Bool
  listening : Bool
  joined : Bool
  deriving Repr

/-- A server and the state that it serves, with the notices given so far. -/
structure Service (σ Req : Type) where
  state : σ
  loop : Loop Req
  notices : List Notice

namespace Loop

variable {Req : Type}

def bound (port : Nat) (options : Options) : Loop Req where
  port := port
  options := options
  position := .accepting
  connections := []
  waiting := []
  slot := none
  stopFlag := false
  running := true
  listening := true
  joined := false

def connection (loop : Loop Req) (number : Nat) : Connection :=
  loop.connections.getD number .silent

def change (loop : Loop Req) (number : Nat) (f : Connection → Connection) : Loop Req :=
  { loop with connections := loop.connections.modify number f }

def send (loop : Loop Req) (number : Nat) (bytes : Bytes) : Loop Req :=
  loop.change number fun connection => { connection with sent := connection.sent ++ bytes }

def goto (loop : Loop Req) (position : Position Req) : Loop Req :=
  { loop with position := position }

/-- The notice that ends an exchange after which the loop does not go on. -/
def farewell (loop : Loop Req) : Except WireError Bool → Notice
  | .ok _ => .closeAsked loop.port
  | .error error =>
      if loop.stopFlag then .interrupted loop.port else .exchangeFailed loop.port error

def goesOn : Except WireError Bool → Bool
  | .ok close => !close
  | .error _ => false

end Loop

inductive Reading (Req : Type)
  | pending
  | failed (error : WireError)
  | complete (request : Req)
  deriving DecidableEq, Repr

/-- Reads a request from what has arrived on a connection. A frame that is not complete is waited
for, unless the peer sends no more, the time is up or the connection has been cut. -/
def readRequest {Req : Type} (decode : Bytes → Option Req) (limit : Nat)
    (connection : Connection) : Reading Req :=
  match (readFrame decode limit connection.arrived).1 with
  | .ok request => .complete request
  | .error (.io reason) =>
      if connection.ended || connection.cut then .failed (.io reason)
      else if connection.overdue then .failed (.io .timedOut)
      else .pending
  | .error error => .failed error

namespace Service

variable {σ Req Resp : Type}

def moved (service : Service σ Req) (loop : Loop Req) (notices : List Notice) : Service σ Req :=
  { service with loop := loop, notices := service.notices ++ notices }

/-- Sends bytes and moves on, or fails. A peer that takes nothing is waited for until the
connection is cut. -/
def transmit (service : Service σ Req) (number : Nat) (bytes : Bytes)
    (next : Position Req) : Option (Service σ Req) :=
  let connection := service.loop.connection number
  if connection.cut then
    some (service.moved (service.loop.goto (.leaving (.error (.io .brokenPipe)))) [])
  else if connection.stalled then none
  else some (service.moved ((service.loop.send number bytes).goto next) [])

/-- One move of the loop; `none` where it waits or has ended. -/
def step (handler : Handler σ Req Resp) (service : Service σ Req) : Option (Service σ Req) :=
  let loop := service.loop
  match loop.position with
  | .accepting =>
      match loop.waiting with
      | [] => none
      | number :: rest =>
          some (service.moved { loop with waiting := rest, position := .accepted number } [])
  | .accepted number =>
      if loop.stopFlag then some (service.moved (loop.goto .closing) [.stopSeen loop.port])
      else some (service.moved (loop.goto (.admitted number)) [])
  | .admitted number =>
      if loop.stopFlag then some (service.moved (loop.goto .closing) [.stopSeen loop.port])
      else
        some (service.moved { loop with slot := some number, position := .greeting number } [])
  | .greeting number =>
      if loop.options.readTimeout = some 0 then
        some (service.moved (loop.goto (.leaving (.error (.io .zeroTimeout)))) [])
      else service.transmit number header (.reading number)
  | .reading number =>
      match readRequest handler.decode loop.options.frameLimit (loop.connection number) with
      | .pending => none
      | .failed error => some (service.moved (loop.goto (.leaving (.error error))) [])
      | .complete request =>
          some (service.moved (loop.goto (.handling number request))
            [.requested (handler.describe request)])
  | .handling number request =>
      match handler.respond service.state request with
      | (none, state, notices) =>
          some { state, loop := { loop with listening := false, position := .lowering true },
                 notices := service.notices ++ notices }
      | (some response, state, notices) =>
          let position :=
            match frame (handler.encode response) with
            | .error error => .leaving (.error error)
            | .ok bytes => .answering number request bytes
          some { state, loop := loop.goto position, notices := service.notices ++ notices }
  | .answering number request response =>
      service.transmit number response (.leaving (.ok (handler.closes request)))
  | .leaving result =>
      some (service.moved { loop with slot := none, position := .deciding result } [])
  | .deciding result =>
      if Loop.goesOn result then some (service.moved (loop.goto .accepting) [])
      else some (service.moved (loop.goto .closing) [loop.farewell result])
  | .closing =>
      some (service.moved { loop with listening := false, position := .lowering false }
        [.listenerClosed loop.port])
  | .lowering abort =>
      some (service.moved
        { loop with running := false, position := if abort then .aborted else .finished } [])
  | .finished | .aborted => none

/-- How many steps the loop can take from a position without accepting a connection. -/
def stepsAhead : Position Req → Nat
  | .accepting | .finished | .aborted => 0
  | .lowering _ => 1
  | .closing => 2
  | .deciding _ => 3
  | .leaving _ => 4
  | .answering _ _ _ => 5
  | .handling _ _ => 6
  | .reading _ => 7
  | .greeting _ => 8
  | .admitted _ => 9
  | .accepted _ => 10

/-- How many steps the loop can take before it waits or has ended. -/
def patience (service : Service σ Req) : Nat :=
  11 * service.loop.waiting.length + stepsAhead service.loop.position

/-- Takes steps until the loop waits or has ended, or a number of steps has been taken. -/
def advanceFor (handler : Handler σ Req Resp) : Nat → Service σ Req → Service σ Req
  | 0, service => service
  | count + 1, service =>
      match service.step handler with
      | none => service
      | some next => advanceFor handler count next

def advance (handler : Handler σ Req Resp) (service : Service σ Req) : Service σ Req :=
  advanceFor handler service.patience service

theorem patience_transmit {service next : Service σ Req} {number : Nat} {bytes : Bytes}
    {position : Position Req} (moved : service.transmit number bytes position = some next)
    (above : 4 < stepsAhead service.loop.position)
    (ahead : stepsAhead position < stepsAhead service.loop.position) :
    next.patience < service.patience := by
  unfold transmit at moved
  dsimp only at moved
  split at moved
  · cases moved
    have low : stepsAhead (Position.leaving (.error (.io .brokenPipe)) : Position Req) = 4 := rfl
    simp only [patience, Service.moved, Loop.goto, low]
    omega
  · split at moved
    · cases moved
    · cases moved
      simp only [patience, Service.moved, Loop.goto, Loop.send, Loop.change]
      omega

/-- Every step uses up some of the loop's patience, so letting the loop go on comes to an end. -/
theorem patience_step {handler : Handler σ Req Resp} {service next : Service σ Req}
    (moved : service.step handler = some next) : next.patience < service.patience := by
  unfold step at moved
  dsimp only at moved
  split at moved
  case h_1 position =>
    split at moved
    · cases moved
    · rename_i number rest waiting
      cases moved
      simp only [patience, Service.moved, stepsAhead, position, waiting, List.length_cons]
      omega
  case h_2 position =>
    split at moved <;> cases moved <;>
      simp [patience, Service.moved, Loop.goto, stepsAhead, position]
  case h_3 position =>
    split at moved <;> cases moved <;>
      simp [patience, Service.moved, Loop.goto, stepsAhead, position]
  case h_4 position =>
    split at moved
    · cases moved
      simp [patience, Service.moved, Loop.goto, stepsAhead, position]
    · exact patience_transmit moved (by simp [position, stepsAhead])
        (by simp [position, stepsAhead])
  case h_5 position =>
    split at moved <;> cases moved <;>
      simp [patience, Service.moved, Loop.goto, stepsAhead, position]
  case h_6 position =>
    split at moved
    · cases moved
      simp [patience, stepsAhead, position]
    · cases moved
      simp only [patience, Loop.goto, position]
      split <;> simp [stepsAhead]
  case h_7 position =>
    exact patience_transmit moved (by simp [position, stepsAhead])
      (by simp [position, stepsAhead])
  case h_8 position =>
    cases moved
    simp [patience, Service.moved, stepsAhead, position]
  case h_9 position =>
    split at moved <;> cases moved <;>
      simp [patience, Service.moved, Loop.goto, stepsAhead, position]
  case h_10 position =>
    cases moved
    simp [patience, Service.moved, stepsAhead, position]
  case h_11 abort position =>
    cases moved
    cases abort <;> simp [patience, Service.moved, stepsAhead, position]
  case h_12 => cases moved
  case h_13 => cases moved

end Service

end CallMonitor.Server
