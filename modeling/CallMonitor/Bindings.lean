import CallMonitor.Agent.Basic
import CallMonitor.Failure

/-!
The library as programs in other languages see it: one object, the agent, and two functions. A
failure reaches them as a kind and a text.
-/

namespace CallMonitor.Bindings

/-- The kinds of failures that other languages tell apart. -/
inductive Kind
  | settings
  | server
  | policy
  | system
  | other
  deriving DecidableEq, Repr

structure Error where
  kind : Kind
  detail : String
  deriving DecidableEq, Repr

namespace Error

/-- A failure's kind and text. Failures without a kind of their own keep their whole text. -/
def ofFailure : Failure → Error
  | .settings problem => ⟨.settings, problem.message⟩
  | .server error => ⟨.server, error.message⟩
  | .policy error => ⟨.policy, error.message⟩
  | .system reason => ⟨.system, reason.message⟩
  | failure => ⟨.other, failure.message⟩

def message (error : Error) : String :=
  match error.kind with
  | .settings => "Config error: " ++ error.detail
  | .server => "Server error: " ++ error.detail
  | .policy => "Policy error: " ++ error.detail
  | .system => "IO error: " ++ error.detail
  | .other => error.detail

end Error

def libraryName : String := "callwatch-core"

def version : String := "0.1.0"

/-- The number of rules of the policy at a path, as a number of 32 bits. -/
def validatePolicyFile (path : String) (state : PathState) : Except Error Nat :=
  match Policy.Table.load path state with
  | .error error => .error (.ofFailure (.policy error))
  | .ok table => .ok (table.size % 4294967296)

def readSettings (path : Option String) (home : Option String) (tree : FileTree) :
    Except Settings.Problem Settings :=
  match path with
  | some path => Settings.loadFrom tree path
  | none => Settings.load tree home

def makeAgent (path : Option String) (home : Option String) (tree : FileTree) (monitor : Monitor)
    (others : Net.Network) : Except Error (Agent Unit Unit) :=
  match readSettings path home tree with
  | .error problem => .error (.ofFailure (.settings problem))
  | .ok settings =>
      match Agent.create settings home monitor Hook.idle () with
      | .error problem => .error (.ofFailure (.settings problem))
      | .ok agent => .ok (agent.launch others)

end CallMonitor.Bindings
