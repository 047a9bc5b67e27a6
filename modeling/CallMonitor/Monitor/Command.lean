/-!
The four commands that a controller sends. A command travels as its token.
-/

namespace CallMonitor.Monitor

inductive Command
  /-- Whether the monitor is alive, and in which process and package. -/
  | checkConnection
  /-- All entries of the call log, which is left empty. -/
  | getLogs
  | getTime
  | close
  deriving DecidableEq, Repr

namespace Command

def token : Command → String
  | checkConnection => "checkConnection"
  | getLogs => "getLogs"
  | getTime => "getTime"
  | close => "close"

def all : List Command := [checkConnection, getLogs, getTime, close]

def ofToken? (text : String) : Option Command :=
  all.find? fun command => command.token == text

def index (command : Command) : Nat := all.idxOf command

theorem of_token_token (command : Command) : ofToken? command.token = some command := by
  cases command <;> decide

theorem token_of_of_token {text : String} {command : Command}
    (found : ofToken? text = some command) : command.token = text := by
  have := List.find?_some found
  simpa using this

end Command

end CallMonitor.Monitor
