import CallMonitor.Server.Stop

/-!
The controller's side of an exchange: it waits for the stream header, sends one request, and
reads one list of rows. Every query is a connection of its own.
-/

namespace CallMonitor

open CallMonitor.Text CallMonitor.Wire

structure Client where
  endpoint : Net.Endpoint
  /-- How long to wait for a connection and for each read, in milliseconds. -/
  timeout : Nat
  responseLimit : Nat
  deriving DecidableEq, Repr

namespace Client

def usualTimeout : Nat := 10000

/-- The longest response unless told otherwise: whatever a frame can hold. -/
def usualResponseLimit : Nat := bodyLimit

def ofEndpoint (endpoint : Net.Endpoint) : Client := ⟨endpoint, usualTimeout, usualResponseLimit⟩

/-- Where a conversation stands after some bytes from the server. -/
inductive Progress
  /-- More bytes are needed for the header. -/
  | greeting
  /-- The header is complete and the request is to be sent; these bytes came after the header. -/
  | requesting (request : Bytes) (after : Bytes)
  | failed (error : WireError)
  deriving DecidableEq, Repr

def requestFrame (text : String) : Except WireError Bytes :=
  frame (Json.encodeString text)

def refusesToConnect (client : Client) : Option SystemError :=
  if client.timeout = 0 then some .zeroTimeout else none

def greet (text : String) (stream : Bytes) (ended : Bool) : Progress :=
  match readHeader stream with
  | (.error (.io reason), _) => if ended then .failed (.io reason) else .greeting
  | (.error error, _) => .failed error
  | (.ok (), after) =>
      match requestFrame text with
      | .error error => .failed error
      | .ok request => .requesting request after

def readRows (client : Client) (stream : Bytes) : Except WireError (List Row) :=
  (readFrame Row.decodeAll client.responseLimit stream).1

/-- A peer whose bytes are known beforehand: those it sends at once, and those it sends when it has
got a request. -/
structure Peer where
  greeting : Bytes
  reply : Bytes
  deriving DecidableEq, Repr

/-- A peer that sends no whole header ends the stream after it. -/
def Peer.afterRequest (peer : Peer) : Bytes :=
  if peer.greeting.length < header.length then [] else peer.reply

/-- What a conversation with a peer came to: the request that the peer got, if it got one, and the
rows. -/
structure Talk where
  request : Option Bytes
  rows : Except WireError (List Row)

def talk (client : Client) (text : String) (peer : Option Peer) : Talk :=
  match client.refusesToConnect, peer with
  | some reason, _ => ⟨none, .error (.io reason)⟩
  | none, none => ⟨none, .error (.io .connectionRefused)⟩
  | none, some peer =>
      match greet text peer.greeting true with
      | .greeting => ⟨none, .error .cut⟩
      | .failed error => ⟨none, .error error⟩
      | .requesting request rest => ⟨some request, client.readRows (rest ++ peer.afterRequest)⟩

/-- Asks a server. The server's loop goes on whenever the client has connected or sent. -/
def ask {σ Req Resp : Type} (client : Client) (handler : Server.Handler σ Req Resp)
    (service : Server.Service σ Req) (text : String) :
    Except WireError (List Row) × Server.Service σ Req :=
  match client.refusesToConnect with
  | some reason => (.error (.io reason), service)
  | none =>
      match service.connect handler with
      | none => (.error (.io .connectionRefused), service)
      | some (number, service) =>
          match greet text (service.sentOn number) true with
          | .greeting => (.error .cut, service)
          | .failed error => (.error error, service.nudge handler (·.finishSending number))
          | .requesting request _ =>
              let service := service.nudge handler (·.deliver number request)
              let service := service.nudge handler (·.finishSending number)
              match readHeader (service.sentOn number) with
              | (.error error, _) => (.error error, service)
              | (.ok (), stream) => (client.readRows stream, service)

end Client

end CallMonitor
