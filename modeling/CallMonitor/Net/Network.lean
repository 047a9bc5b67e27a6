import CallMonitor.Files
import CallMonitor.Net.Address

/-!
The network as a program sees it that wants to listen: which endpoints the system refuses, and
which ports are taken. Port zero asks for any free port.
-/

namespace CallMonitor.Net

/-- The endpoints at which somebody listens, and those at which nobody may. -/
structure Network where
  /-- Why the system refuses an endpoint, whoever listens there. -/
  refusal : Endpoint → Option SystemError
  listening : List Endpoint
  /-- The ports handed out to those who ask for any, the first ones first. -/
  spare : List Nat

/-- Two listeners exclude each other on one port if one address covers the other. -/
def Endpoint.excludes (a b : Endpoint) : Bool :=
  a.port == b.port &&
    (a.address == b.address || a.address == Address.every || b.address == Address.every)

def Address.isLocal : Address → Bool
  | four 127 _ _ _ => true
  | four 0 0 0 0 => true
  | _ => false

namespace Network

def loopbackOnly (listening : List Endpoint) (spare : List Nat) : Network where
  refusal endpoint := if endpoint.address.isLocal then none else some .addressUnavailable
  listening := listening
  spare := spare

def isTaken (network : Network) (endpoint : Endpoint) : Bool :=
  network.listening.any fun other => endpoint.excludes other

def adding (network : Network) (endpoint : Endpoint) : Network :=
  { network with listening := endpoint :: network.listening }

def freePort (network : Network) (address : Address) : Option Nat :=
  network.spare.find? fun port => !network.isTaken ⟨address, port⟩

/-- The endpoint at which a listener ends up that asks for an endpoint. A refusal comes before a
port that is taken. -/
def bind (network : Network) (endpoint : Endpoint) : Except SystemError Endpoint :=
  match network.refusal endpoint with
  | some reason => .error reason
  | none =>
      if endpoint.port = 0 then
        match network.freePort endpoint.address with
        | none => .error .addressInUse
        | some port => .ok ⟨endpoint.address, port⟩
      else if network.isTaken endpoint then .error .addressInUse
      else .ok endpoint

end Network

end CallMonitor.Net
