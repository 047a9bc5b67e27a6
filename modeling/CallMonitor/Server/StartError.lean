import CallMonitor.Files
import CallMonitor.Text.Quoted

/-!
Why a server could not be started. A port that is taken is no error by itself: the next port is
tried.
-/

namespace CallMonitor.Server

open CallMonitor.Text

inductive StartError
  /-- The system refused to listen, for a reason other than a taken port. -/
  | bindFailed (port : Nat) (reason : SystemError)
  | spawnFailed (port : Nat) (reason : SystemError)
  /-- The server ended before it reported how its start went. -/
  | handshakeLost (port : Nat)
  | noPortsAvailable (ports : List Nat)
  deriving DecidableEq, Repr

namespace StartError

def message : StartError → String
  | bindFailed port reason =>
      "Failed to bind monitor server on port " ++ toString port ++ ": " ++ reason.message
  | spawnFailed port reason =>
      "Failed to spawn server thread for port " ++ toString port ++ ": " ++ reason.message
  | handshakeLost port =>
      "Server thread for port " ++ toString port ++
        " exited before completing the startup handshake"
  | noPortsAvailable ports =>
      "No available ports among " ++ bracketed (ports.map toString)

def causes : StartError → List String
  | bindFailed _ reason | spawnFailed _ reason => [reason.message]
  | handshakeLost _ | noPortsAvailable _ => []

end StartError

end CallMonitor.Server
