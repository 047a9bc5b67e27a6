import CallMonitor.Agent.Basic

/-!
The world around a command: files, the terminal, and the network. Commands are written over these
actions in any monad, so that they run on the machine itself and on a closed world of values alike.
-/

namespace CallMonitor.Cli

open CallMonitor.Text CallMonitor.Wire

/-- An agent without a hook, as commands use it. -/
abbrev PlainAgent := Agent Unit Unit

structure Surroundings (m : Type → Type) where
  home : m (Option String)
  /-- The filter for notices, if the user has set one. -/
  filter : m (Option String)
  styled : m Bool
  look : String → m PathState
  write : String → Bytes → m (Except SystemError Unit)
  makeDirectories : String → m (Except SystemError Unit)
  print : String → m Unit
  /-- Prints what is no output. -/
  complain : String → m Unit
  tell : Notice → m Unit
  resolve : String → m (Except SystemError (List Net.Address))
  ask : Client → String → m (Except WireError (List Row))
  /-- The monitor of this process before its first call. -/
  monitor : m Monitor
  /-- The network, as far as those find it who want to listen at one of these endpoints. -/
  network : List Net.Endpoint → m Net.Network
  /-- Runs an agent's server until it has ended. The lines of the input are recorded meanwhile if
  that is wanted. What the agent tells is shown as the first argument says. -/
  serve : (List Notice → m Unit) → Bool → PlainAgent → m PlainAgent

namespace Surroundings

variable {m : Type → Type} [Monad m]

def addresses (world : Surroundings m) (host : String) :
    m (Except SystemError (List Net.Address)) :=
  match Net.Address.parse host with
  | some address => pure (.ok [address])
  | none => world.resolve host

def saveSettings (world : Surroundings m) (settings : Settings) (path : String) :
    m (Except Settings.Problem Unit) :=
  match settings.toText with
  | .error problem => pure (.error problem)
  | .ok text => do
      let written ← world.write path (encodeUtf8 text)
      pure (written.mapError (.notWritten path))

/-- Makes the directory for settings and policies, unless something stands in its place. -/
def ensureDirectory (world : Surroundings m) (home : Option String) :
    m (Except Settings.Problem Unit) :=
  match Settings.directoryIn home with
  | .error problem => pure (.error problem)
  | .ok directory => do
      if (← world.look directory).found then pure (.ok ())
      else
        let made ← world.makeDirectories directory
        pure (made.mapError (.noDirectory directory))

def settings (world : Surroundings m) (path : Option String) :
    m (Except Settings.Problem Settings) :=
  match path with
  | some path => do
      let state ← world.look path
      pure (Settings.ofState path state)
  | none => do
      match Settings.usualPlace (← world.home) with
      | .error problem => pure (.error problem)
      | .ok path =>
          let state ← world.look path
          pure (Settings.ofUsualState path state)

end Surroundings

end CallMonitor.Cli
