import CallMonitor.Json.Value
import CallMonitor.Json.Write
import CallMonitor.Log.Entry
import CallMonitor.Policy.Verdict

/-!
The JSON bodies that frames carry: texts, rows of three columns, lists of rows, log entries and
verdicts, each with its encoder and its decoder.
-/

namespace CallMonitor.Wire

open CallMonitor.Json CallMonitor.Text

/-- One row of an answer: three columns, each a text or absent. -/
structure Row where
  first : Option String
  second : Option String
  third : Option String
  deriving DecidableEq, Repr

namespace Row

def blank : Row := ⟨none, none, none⟩

def full (a b c : String) : Row := ⟨some a, some b, some c⟩

def single (a : String) : Row := ⟨some a, none, none⟩

def columns (row : Row) : List (Option String) := [row.first, row.second, row.third]

def ofEntry (entry : Log.Entry) : Row := full entry.processId entry.timestamp entry.payload

def encodeColumn : Option String → Bytes
  | none => nullWord
  | some text => encodeString text

def encode (row : Row) : Bytes := encodeList (row.columns.map encodeColumn)

def read : Reader Row := fun bytes => do
  let rest ← expect 0x5B bytes
  let (first, rest) ← readNullable rest
  let rest ← expect 0x2C rest
  let (second, rest) ← readNullable rest
  let rest ← expect 0x2C rest
  let (third, rest) ← readNullable rest
  let rest ← expect 0x5D rest
  some (⟨first, second, third⟩, rest)

def decode : Bytes → Option Row := readWholeText read

def encodeAll (rows : List Row) : Bytes := encodeList (rows.map encode)

def decodeAll : Bytes → Option (List Row) := readWholeText (readList read)

end Row

def decodeText : Bytes → Option String := readWholeText readString

def encodeEntry (entry : Log.Entry) : Bytes :=
  encodeObject [("process_id", encodeString entry.processId),
    ("timestamp", encodeString entry.timestamp), ("payload", encodeString entry.payload)]

structure EntryParts where
  processId : Option String
  timestamp : Option String
  payload : Option String

/-- Reads a member of a log entry. A part may be given only once; other members are skipped. -/
def readEntryMember (name : String) (parts : EntryParts) : Reader EntryParts := fun bytes =>
  if name = "process_id" then
    if parts.processId.isSome then none
    else (readString bytes).map fun read => ({ parts with processId := some read.1 }, read.2)
  else if name = "timestamp" then
    if parts.timestamp.isSome then none
    else (readString bytes).map fun read => ({ parts with timestamp := some read.1 }, read.2)
  else if name = "payload" then
    if parts.payload.isSome then none
    else (readString bytes).map fun read => ({ parts with payload := some read.1 }, read.2)
  else (skipAny bytes).map fun rest => (parts, rest)

def readEntry : Reader Log.Entry := fun bytes =>
  match skipSpace bytes with
  | 0x5B :: rest => do
      let (processId, rest) ← readString rest
      let rest ← expect 0x2C rest
      let (timestamp, rest) ← readString rest
      let rest ← expect 0x2C rest
      let (payload, rest) ← readString rest
      let rest ← expect 0x5D rest
      some (⟨processId, timestamp, payload⟩, rest)
  | start => do
      let (parts, rest) ← readObject readEntryMember ⟨none, none, none⟩ start
      match parts with
      | ⟨some processId, some timestamp, some payload⟩ =>
          some (⟨processId, timestamp, payload⟩, rest)
      | _ => none

def decodeEntry : Bytes → Option Log.Entry := readWholeText readEntry

def encodeVerdict (verdict : Policy.Verdict) : Bytes := encodeString verdict.word

/-- Reads a verdict: its word, or an object whose only member has the word as name and holds
nothing. -/
def readVerdict : Reader Policy.Verdict := fun bytes =>
  match skipSpace bytes with
  | 0x7B :: rest => do
      let (word, rest) ← readString rest
      let verdict ← Policy.Verdict.ofWord? word
      let rest ← expect 0x3A rest
      let rest ← expectWord nullWord (skipSpace rest)
      let rest ← expect 0x7D rest
      some (verdict, rest)
  | start => do
      let (word, rest) ← readString start
      let verdict ← Policy.Verdict.ofWord? word
      some (verdict, rest)

def decodeVerdict : Bytes → Option Policy.Verdict := readWholeText readVerdict

end CallMonitor.Wire
