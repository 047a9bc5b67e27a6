import CallMonitor.Text.Split
import CallMonitor.Text.Utf8

/-!
Files as a value: what stands at a path, and a tree of files and directories in which paths are
looked up, written and removed. There are no links, so a path names one place.
-/

namespace CallMonitor

open CallMonitor.Text

inductive SystemError
  | notFound
  | notADirectory
  | isADirectory
  | nameTooLong
  | connectionRefused
  | addressInUse
  | addressUnavailable
  | brokenPipe
  | timedOut
  | zeroTimeout
  | streamEnded
  | notUtf8
  | badPath
  | other (text : String)
  deriving DecidableEq, Repr

def SystemError.message : SystemError → String
  | notFound => "No such file or directory (os error 2)"
  | notADirectory => "Not a directory (os error 20)"
  | isADirectory => "Is a directory (os error 21)"
  | nameTooLong => "File name too long (os error 36)"
  | connectionRefused => "Connection refused (os error 111)"
  | addressInUse => "Address already in use (os error 98)"
  | addressUnavailable => "Cannot assign requested address (os error 99)"
  | brokenPipe => "Broken pipe (os error 32)"
  | timedOut => "Resource temporarily unavailable (os error 11)"
  | zeroTimeout => "cannot set a 0 duration timeout"
  | streamEnded => "failed to fill whole buffer"
  | notUtf8 => "stream did not contain valid UTF-8"
  | badPath => "file name contained an unexpected NUL byte"
  | other text => text

inductive PathState
  | absent
  | directory
  | file (contents : Bytes)
  /-- The path cannot be followed to its end. -/
  | unreachable (error : SystemError)
  deriving DecidableEq, Repr

namespace PathState

def found : PathState → Bool
  | directory | file _ => true
  | absent | unreachable _ => false

def read : PathState → Except SystemError Bytes
  | absent => .error .notFound
  | directory => .error .isADirectory
  | file contents => .ok contents
  | unreachable error => .error error

def readText (state : PathState) : Except SystemError String :=
  match state.read with
  | .error error => .error error
  | .ok bytes =>
      match decodeUtf8 bytes with
      | none => .error .notUtf8
      | some text => .ok text

end PathState

inductive FileEntry
  | directory
  | file (contents : Bytes)
  deriving DecidableEq, Repr

/-- A place in a tree: the names from the root down. -/
abbrev Place := List String

/-- Files and directories by place. The root is always a directory; relative paths start from
`current`. -/
structure FileTree where
  current : Place
  entries : List (Place × FileEntry)
  deriving Repr

namespace FileTree

def empty : FileTree := ⟨[], []⟩

def entryAt (tree : FileTree) (place : Place) : Option FileEntry :=
  if place = [] then some .directory else tree.entries.lookup place

def put (tree : FileTree) (place : Place) (entry : FileEntry) : FileTree :=
  { tree with entries := (place, entry) :: tree.entries.filter fun item => item.1 ≠ place }

def removeBelow (tree : FileTree) (place : Place) : FileTree :=
  { tree with entries := tree.entries.filter fun item => !place.isPrefixOf item.1 }

def nameLimit : Nat := 255

/-- Goes down from a place by the steps of a path. The last step need not exist. -/
def follow (tree : FileTree) (place : Place) : List String → Except SystemError Place
  | [] => .ok place
  | step :: rest =>
      match tree.entryAt place with
      | none => .error .notFound
      | some (.file _) => .error .notADirectory
      | some .directory =>
          if step = "." then follow tree place rest
          else if step = ".." then follow tree place.dropLast rest
          else if step.utf8ByteSize > nameLimit then .error .nameTooLong
          else follow tree (place ++ [step]) rest

/-- The steps of a path: its pieces between slashes, empty ones left out. -/
def steps (path : String) : List String :=
  ((splitOn '/' path.toList).filter fun step => !step.isEmpty).map String.ofList

def endsInSlash (path : String) : Bool := path.toList.getLast? == some '/'

/-- The place that a path names. A path that ends in a slash names a directory or nothing. -/
def locate (tree : FileTree) (path : String) : Except SystemError Place :=
  if path.isEmpty then .error .notFound
  else if path.toList.contains '\x00' then .error .badPath
  else
    let start := if path.toList.head? = some '/' then [] else tree.current
    match tree.follow start (steps path) with
    | .error error => .error error
    | .ok place =>
        match endsInSlash path, tree.entryAt place with
        | true, some (.file _) => .error .notADirectory
        | _, _ => .ok place

def look (tree : FileTree) (path : String) : PathState :=
  match tree.locate path with
  | .error .notFound => .absent
  | .error error => .unreachable error
  | .ok place =>
      match tree.entryAt place with
      | none => .absent
      | some .directory => .directory
      | some (.file contents) => .file contents

def parentReady (tree : FileTree) (place : Place) : Except SystemError Unit :=
  match tree.entryAt place.dropLast with
  | none => .error .notFound
  | some (.file _) => .error .notADirectory
  | some .directory => .ok ()

/-- Writes a file, replacing what it held. The directory must be there. -/
def write (tree : FileTree) (path : String) (contents : Bytes) :
    Except SystemError FileTree :=
  match tree.locate path with
  | .error error => .error error
  | .ok place =>
      match tree.entryAt place with
      | some .directory => .error .isADirectory
      | some (.file _) => .ok (tree.put place (.file contents))
      | none =>
          if endsInSlash path then .error .isADirectory
          else
            match tree.parentReady place with
            | .error error => .error error
            | .ok () => .ok (tree.put place (.file contents))

def makePlaces (tree : FileTree) (done : Place) : List String → Except SystemError FileTree
  | [] => .ok tree
  | step :: rest =>
      let place := done ++ [step]
      match tree.entryAt place with
      | some (.file _) => .error .notADirectory
      | some .directory => makePlaces tree place rest
      | none => makePlaces (tree.put place .directory) place rest

def makeDirectories (tree : FileTree) (path : String) : Except SystemError FileTree :=
  let start := if path.toList.head? = some '/' then [] else tree.current
  tree.makePlaces [] (start ++ steps path)

def parent (path : String) : String :=
  let names := "/".intercalate (steps path).dropLast
  if path.toList.head? = some '/' then "/" ++ names else names

/-- Puts a file in a path's place, whatever stood there, and makes the directories above it. What
cannot be done is left undone. -/
def place (tree : FileTree) (path : String) (contents : Bytes) : FileTree :=
  let tree := (tree.makeDirectories (parent path)).toOption.getD tree
  let cleared :=
    match tree.locate path with
    | .error _ => tree
    | .ok place => tree.removeBelow place
  (cleared.write path contents).toOption.getD tree

/-- Removes what stands at a path, a directory with all it holds. -/
def remove (tree : FileTree) (path : String) : FileTree :=
  match tree.locate path with
  | .error _ => tree
  | .ok place => tree.removeBelow place

end FileTree

end CallMonitor
