import CallMonitor.Toml.Value

/-!
TOML documents: lines with pairs and lines with headers. A header in single brackets names a
table, which may be named only once; one in double brackets adds a table to those of its key.
-/

namespace CallMonitor.Toml

inductive Line
  | pair (path : List String) (key : String) (item : Item)
  | header (path : List String) (key : String)
  | listHeader (path : List String) (key : String)

/-- A header after its first bracket, up to the end of its brackets. -/
def readHeader : Reader Line
  | '[' :: rest =>
      match readKey rest with
      | some ((path, key), ']' :: ']' :: rest) => some (.listHeader path key, rest)
      | _ => none
  | text =>
      match readKey text with
      | some ((path, key), ']' :: rest) => some (.header path key, rest)
      | _ => none

def readLine (text : List Char) : Option (Line × List Char) :=
  let line :=
    match text with
    | '[' :: rest => readHeader rest
    | _ => (readPair (readValue (depthLimit - 1)) text).map fun ((path, key, item), rest) =>
        (.pair path key item, rest)
  line.bind fun (line, rest) => (takeLineRest rest).map fun rest => (line, rest)

/-- The lines of a document. A comment may end the document. -/
def readLines : (fuel : Nat) → List Char → Option (List Line)
  | 0, _ => none
  | fuel + 1, text =>
      match skipGap text with
      | [] => some []
      | '#' :: rest => (takeLineRest ('#' :: rest)).bind (readLines fuel)
      | '\n' :: rest => readLines fuel rest
      | '\r' :: rest => (takeLineEnd ('\r' :: rest)).bind (readLines fuel)
      | start =>
          match readLine start with
          | none => none
          | some (line, rest) => (readLines fuel rest).map (line :: ·)

inductive Place
  | root
  | table (path : List String) (key : String)
  | lastTable (path : List String) (key : String)

def addAt (entries : Entries) (place : Place) (path : List String) (key : String) (item : Item) :
    Option Entries :=
  match place with
  | .root => entries.addDotted path key item
  | .table under name =>
      entries.changeUnder (fun parent =>
        match parent.lookup name with
        | some (.table origin inner) => (Entries.addDotted inner path key item).map fun inner =>
            parent.put name (.table origin inner)
        | _ => none) under
  | .lastTable under name =>
      entries.changeUnder (fun parent =>
        match parent.lookup name with
        | some (.tables tables) =>
            match tables.getLast? with
            | none => none
            | some last => (Entries.addDotted last path key item).map fun inner =>
                parent.put name (.tables (tables.dropLast ++ [inner]))
        | _ => none) under

/-- Makes the table that a header names. Only a table that other headers passed through may be
there already. -/
def openTable (parent : Entries) (key : String) : Option Entries :=
  match parent.lookup key with
  | none => some (parent ++ [(key, .table .header [])])
  | some (.table .implied inner) => some (parent.put key (.table .header inner))
  | some _ => none

def addTable (parent : Entries) (key : String) : Option Entries :=
  match parent.lookup key with
  | none => some (parent ++ [(key, .tables [[]])])
  | some (.tables tables) => some (parent.put key (.tables (tables ++ [[]])))
  | some _ => none

def collect : Entries → Place → List Line → Option Entries
  | entries, _, [] => some entries
  | entries, place, .pair path key item :: rest =>
      (addAt entries place path key item).bind fun entries => collect entries place rest
  | entries, _, .header path key :: rest =>
      (entries.changeUnder (openTable · key) path).bind fun entries =>
        collect entries (.table path key) rest
  | entries, _, .listHeader path key :: rest =>
      (entries.changeUnder (addTable · key) path).bind fun entries =>
        collect entries (.lastTable path key) rest

def skipMark : List Char → List Char
  | c :: rest => if c = Text.byteOrderMark then rest else c :: rest
  | [] => []

def parse (text : String) : Option Entries :=
  let chars := skipMark text.toList
  (readLines (chars.length + 1) chars).bind (collect [] .root)

end CallMonitor.Toml
