import CallMonitor.Settings.Document

/-!
Where settings and policies are kept: in a directory of the user's home unless told otherwise.
-/

namespace CallMonitor.Settings

open CallMonitor.Text

def inside (directory name : String) : String :=
  if FileTree.endsInSlash directory then directory ++ name else directory ++ "/" ++ name

def directoryIn (home : Option String) : Except Problem String :=
  match home with
  | none => .error .noHome
  | some home => .ok (inside home ".callwatch")

def usualPlace (home : Option String) : Except Problem String :=
  (directoryIn home).map (inside · "config.toml")

def usualPolicyPlace (home : Option String) : Except Problem String :=
  (directoryIn home).map (inside · "api_policies.txt")

def policyPlace (settings : Settings) (home : Option String) : Except Problem String :=
  match settings.policyFile with
  | some path => .ok path
  | none => usualPolicyPlace home

def ofState (path : String) (state : PathState) : Except Problem Settings :=
  match state.readText with
  | .error reason => .error (.unreadable path reason)
  | .ok text => ofText text

/-- The settings at their usual place, by what stands there. Nothing there means the defaults. -/
def ofUsualState (path : String) (state : PathState) : Except Problem Settings :=
  if state.found then ofState path state else .ok usual

def loadFrom (tree : FileTree) (path : String) : Except Problem Settings :=
  ofState path (tree.look path)

def load (tree : FileTree) (home : Option String) : Except Problem Settings :=
  match usualPlace home with
  | .error problem => .error problem
  | .ok path => ofUsualState path (tree.look path)

def save (settings : Settings) (tree : FileTree) (path : String) : Except Problem FileTree :=
  match settings.toText with
  | .error problem => .error problem
  | .ok text =>
      match tree.write path (encodeUtf8 text) with
      | .error reason => .error (.notWritten path reason)
      | .ok tree => .ok tree

/-- Makes the directory for settings and policies, unless something stands in its place. -/
def ensureDirectory (tree : FileTree) (home : Option String) : Except Problem (String × FileTree) :=
  match directoryIn home with
  | .error problem => .error problem
  | .ok directory =>
      if (tree.look directory).found then .ok (directory, tree)
      else
        match tree.makeDirectories directory with
        | .error reason => .error (.noDirectory directory reason)
        | .ok tree => .ok (directory, tree)

end CallMonitor.Settings
