import CallMonitor.Settings.Basic
import CallMonitor.Toml.Document
import CallMonitor.Toml.Write

/-!
Settings as TOML documents. A document may leave out any section and any setting, and may hold
others, which are not looked at; a setting of the wrong kind refuses the whole document. A section
may also be a list of its settings in order.
-/

namespace CallMonitor

open CallMonitor.Toml

namespace Settings

inductive Section
  | named (entries : Entries)
  | ordered (items : List Item)

/-- The section that an item is, if it is one. A moment in its place says nothing. -/
def Section.ofItem : Item → Option Section
  | .table _ entries => some (.named entries)
  | .list items => some (.ordered items)
  | .tables tables => some (.ordered (tables.map (.table .header)))
  | .moment _ => some (.named [])
  | _ => none

/-- A section of a document; an absent one says nothing. -/
def sectionAt (document : Entries) (name : String) : Option Section :=
  match document.lookup name with
  | none => some (.named [])
  | some item => Section.ofItem item

def Section.item (part : Section) (index : Nat) (name : String) : Option Item :=
  match part with
  | named entries => entries.lookup name
  | ordered items => items[index]?

/-- A setting that is present is read; one that is absent has its default. -/
def Section.setting {α : Type} (part : Section) (index : Nat) (name : String)
    (read : Item → Option α) (usual : α) : Option α :=
  match part.item index name with
  | none => some usual
  | some item => read item

def readText : Item → Option String
  | .text text => some text
  | _ => none

def readNumber (largest : Nat) : Item → Option Nat
  | .integer n => if 0 ≤ n ∧ n ≤ largest then some n.toNat else none
  | _ => none

def largestPort : Nat := 65535

def readPorts : Item → Option (List Nat)
  | .list items => items.mapM (readNumber largestPort)
  | _ => none

def readAddress (item : Item) : Option Net.Address :=
  (readText item).bind Net.Address.parse

def largestNumber : Nat := 18446744073709551615

def readServer (part : Section) : Option ServerSettings := do
  let usual := ServerSettings.usual
  let ports ← part.setting 0 "ports" readPorts usual.ports
  let address ← part.setting 1 "bind_address" readAddress usual.address
  let readTimeout ← part.setting 2 "read_timeout_ms"
    (fun item => (readNumber largestNumber item).map some) usual.readTimeout
  let frameLimit ← part.setting 3 "max_frame_bytes" (readNumber largestNumber) usual.frameLimit
  some ⟨ports, address, readTimeout, frameLimit⟩

def ofEntries (document : Entries) : Option Settings := do
  let server ← (sectionAt document "server").bind readServer
  let policyFile ← (sectionAt document "policy").bind fun part =>
    part.setting 0 "file" (fun item => (readText item).map some) none
  let level ← (sectionAt document "logging").bind fun part =>
    part.setting 0 "level" readText usualLevel
  some ⟨server, policyFile, level⟩

def ofText (text : String) : Except Problem Settings :=
  match (Toml.parse text).bind ofEntries with
  | none => .error .malformed
  | some settings => .ok settings

def optionalLine {α : Type} (key : String) (write : α → Option String) :
    Option α → Option (List String)
  | none => some []
  | some value => (write value).map fun written => [writePair key written]

/-- Settings as a document, if every number fits. -/
def toText (settings : Settings) : Except Problem String :=
  let server := settings.server
  let written : Option String := do
    let timeout ← optionalLine "read_timeout_ms" writeNumber server.readTimeout
    let frameLimit ← writeNumber server.frameLimit
    let file ← optionalLine "file" (fun path => some (writeText path)) settings.policyFile
    some <| "\n".intercalate [
      writeSection "server" (
        [writePair "ports" (writeList (server.ports.map toString)),
          writePair "bind_address" (writeText server.address.toText)] ++ timeout ++
        [writePair "max_frame_bytes" frameLimit]),
      writeSection "policy" file,
      writeSection "logging" [writePair "level" (writeText settings.level)]]
  match written with
  | none => .error .unwritable
  | some text => .ok text

end Settings

end CallMonitor
