import CallMonitor.Server.Loop

/-!
What happens to a server from outside: peers connect, send and leave, time passes, and somebody
stops it. A stop raises the flag, cuts the connection in the slot, looks whether the loop is
running, wakes it in that case by making a connection, and waits for the loop's end. Each of these
is a step of its own.
-/

namespace CallMonitor.Server

open CallMonitor.Text

namespace Loop

variable {Req : Type}

/-- A peer connects, if somebody listens. Returns the connection's number. -/
def connect (loop : Loop Req) (connection : Connection) : Option (Nat × Loop Req) :=
  if loop.listening then
    let number := loop.connections.length
    some (number, { loop with
      connections := loop.connections ++ [connection], waiting := loop.waiting ++ [number] })
  else none

def deliver (loop : Loop Req) (number : Nat) (bytes : Bytes) : Loop Req :=
  loop.change number fun connection => { connection with arrived := connection.arrived ++ bytes }

def finishSending (loop : Loop Req) (number : Nat) : Loop Req :=
  loop.change number fun connection => { connection with ended := true }

def expire (loop : Loop Req) (number : Nat) : Loop Req :=
  if loop.options.readTimeout.isSome then
    loop.change number fun connection => { connection with overdue := true }
  else loop

def hasEnded (loop : Loop Req) : Bool :=
  match loop.position with
  | .finished | .aborted => true
  | _ => false

def hasAborted (loop : Loop Req) : Bool :=
  match loop.position with
  | .aborted => true
  | _ => false

def raiseFlag (loop : Loop Req) : Loop Req := { loop with stopFlag := true }

def cutSlot (loop : Loop Req) : Loop Req :=
  match loop.slot with
  | none => loop
  | some number => loop.change number fun connection => { connection with cut := true }

/-- Makes a connection on which nothing will be sent, if somebody listens. -/
def knock (loop : Loop Req) : Loop Req :=
  match loop.connect { Connection.silent with ended := true } with
  | none => loop
  | some (_, loop) => loop

def wake (loop : Loop Req) : Loop Req :=
  if loop.running then loop.knock else loop

/-- Takes note of the loop's end: the loop after that, and the notice of an abort not yet noted. -/
def join (loop : Loop Req) : Loop Req × List Notice :=
  ({ loop with joined := true },
    if loop.hasAborted && !loop.joined then [.serverAborted] else [])

end Loop

inductive Stopper
  | idle
  /-- The flag is raised; the slot is to be cut. -/
  | flagged
  /-- The slot is cut; the running flag is to be looked at. -/
  | severed
  /-- The loop has been seen running; it is to be woken. -/
  | waking
  | joining
  | returned
  deriving DecidableEq, Repr

/-- One step of a stop; `none` where it waits for the loop's end or has returned. -/
def Stopper.step {σ Req : Type} (stopper : Stopper) (service : Service σ Req) :
    Option (Stopper × Service σ Req) :=
  let loop := service.loop
  match stopper with
  | .idle => some (.flagged, service.moved loop.raiseFlag [])
  | .flagged => some (.severed, service.moved loop.cutSlot [])
  | .severed => some (if loop.running then .waking else .joining, service)
  | .waking => some (.joining, service.moved loop.knock [])
  | .joining =>
      if loop.hasEnded then
        let (loop, notices) := loop.join
        some (.returned, service.moved loop notices)
      else none
  | .returned => none

namespace Service

variable {σ Req Resp : Type}

/-- Changes the loop from outside and lets it go on. -/
def nudge (handler : Handler σ Req Resp) (service : Service σ Req)
    (change : Loop Req → Loop Req) : Service σ Req :=
  (service.moved (change service.loop) []).advance handler

/-- A peer connects, and the loop goes on. Nobody answers if nobody listens. -/
def connect (handler : Handler σ Req Resp) (service : Service σ Req) :
    Option (Nat × Service σ Req) :=
  match service.loop.connect Connection.silent with
  | none => none
  | some (number, loop) => some (number, (service.moved loop []).advance handler)

def join (service : Service σ Req) : Service σ Req :=
  let (loop, notices) := service.loop.join
  service.moved loop notices

/-- Stops a server: the steps of a stop one after the other, with the loop going on before the
last. -/
def stop (handler : Handler σ Req Resp) (service : Service σ Req) : Service σ Req :=
  (service.nudge handler fun loop => loop.raiseFlag.cutSlot.wake).join

def sentOn (service : Service σ Req) (number : Nat) : Bytes :=
  (service.loop.connection number).sent

end Service

end CallMonitor.Server
