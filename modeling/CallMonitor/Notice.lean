import CallMonitor.Log.Entry
import CallMonitor.Policy.Table
import CallMonitor.Server.StartError
import CallMonitor.Wire.Frame

/-!
Notices: what the monitor tells about its own working, beside the call log. Each has a level, a
target and a text; which ones reach anybody is decided elsewhere.
-/

namespace CallMonitor

inductive Level
  | error
  | warn
  | info
  | debug
  | trace
  deriving DecidableEq, Repr

namespace Level

def word : Level → String
  | error => "ERROR"
  | warn => "WARN"
  | info => "INFO"
  | debug => "DEBUG"
  | trace => "TRACE"

def all : List Level := [error, warn, info, debug, trace]

def depth : Level → Nat
  | error => 1
  | warn => 2
  | info => 3
  | debug => 4
  | trace => 5

end Level

inductive Notice
  | starting (port : Nat)
  | started (port : Nat) (endpoint : String)
  | portTaken (port : Nat)
  /-- A request has been read; its text is for diagnostics. -/
  | requested (request : String)
  | timeTold (time : String)
  | unknownCommand (token : String)
  | closeAsked (port : Nat)
  | stopSeen (port : Nat)
  /-- An exchange failed because the server is being stopped. -/
  | interrupted (port : Nat)
  | exchangeFailed (port : Nat) (error : Wire.WireError)
  | listenerClosed (port : Nat)
  | serverAborted
  /-- A server is about to be started on the first free of several ports. -/
  | choosing
  | chosen (port processId : Nat)
  | launchFailed (error : Server.StartError)
  /-- The host has given its context while no server runs. -/
  | serverMissing
  | agentStopped (port : Nat)
  | policyUnusable (method : String) (error : Policy.PolicyError)
  | inputFailed (reason : SystemError)
  | lineSkipped (line : String)
  deriving DecidableEq, Repr

namespace Notice

def recorderTarget : String := "callwatch"

def level : Notice → Level
  | starting _ | choosing => .trace
  | started _ _ | portTaken _ | requested _ | timeTold _ | closeAsked _ | stopSeen _
  | interrupted _ | listenerClosed _ | chosen _ _ | agentStopped _ => .debug
  | serverAborted | serverMissing | policyUnusable _ _ | inputFailed _ | lineSkipped _ => .warn
  | unknownCommand _ | exchangeFailed _ _ | launchFailed _ => .error

def target : Notice → String
  | starting _ | started _ _ | portTaken _ | requested _ | timeTold _ | unknownCommand _
  | closeAsked _ | stopSeen _ | interrupted _ | exchangeFailed _ _ | listenerClosed _
  | serverAborted => Log.serverTag
  | choosing | chosen _ _ | launchFailed _ | serverMissing | agentStopped _
  | policyUnusable _ _ => Log.agentTag
  | inputFailed _ | lineSkipped _ => recorderTarget

def text : Notice → String
  | starting port => "tryStart(port:" ++ toString port ++ "): entering"
  | started port endpoint => "tryStart(port:" ++ toString port ++ "): SUCCESS " ++ endpoint
  | portTaken port =>
      "tryStart(port:" ++ toString port ++ "): FAILURE address already in use"
  | requested request => "onRequest(" ++ request ++ ")"
  | timeTold time => "getTime: " ++ time
  | unknownCommand token =>
      "! Unexpected command from controller. The command: " ++ token
  | closeAsked port => "shouldClose(): true / port:" ++ toString port
  | stopSeen port => "stop requested / port:" ++ toString port
  | interrupted port => "connection interrupted by stop / port:" ++ toString port
  | exchangeFailed port error =>
      "! Closing monitor server on port " ++ toString port ++ ": " ++ error.message
  | listenerClosed port => "server socket closed / port:" ++ toString port
  | serverAborted => "Server thread panicked: Any \x7b .. \x7d"
  | choosing => "startMonitorServer(): entering"
  | chosen port processId =>
      "startMonitorServer(): SUCCESS portUsed: " ++ toString port ++ " PID: " ++
        toString processId
  | launchFailed error => "! Monitor server could not be started: " ++ error.message
  | serverMissing =>
      "! init(): the monitor server is not running, call logs will not reach the controller"
  | agentStopped port => "Monitor server on port " ++ toString port ++ " stopped"
  | policyUnusable method error =>
      "Policy lookup for " ++ method ++ " failed, allowing: " ++ error.message
  | inputFailed reason => "stdin read failed: " ++ reason.message
  | lineSkipped line => "Skipping line carrying a reserved log tag: " ++ line

end Notice

end CallMonitor
