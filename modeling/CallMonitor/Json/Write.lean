import CallMonitor.Text.Utf8

/-!
Writing JSON. The compact form, used on the wire, has no white space; the spread form, used for
people, gives every item a line and indents by two spaces.
-/

namespace CallMonitor.Json

open CallMonitor.Text

def hexByte (n : Nat) : UInt8 := UInt8.ofNat (if n < 10 then 0x30 + n else 0x57 + n)

/-- One character inside a string. The quote, the backslash and controls are escaped, five
controls by a letter; all else is written as it is. -/
def encodeChar (c : Char) : Bytes :=
  if c = '\x22' then [0x5C, 0x22]
  else if c = '\\' then [0x5C, 0x5C]
  else if c = '\x08' then [0x5C, 0x62]
  else if c = '\x0c' then [0x5C, 0x66]
  else if c = '\n' then [0x5C, 0x6E]
  else if c = '\r' then [0x5C, 0x72]
  else if c = '\t' then [0x5C, 0x74]
  else if c.toNat < 0x20 then
    [0x5C, 0x75, 0x30, 0x30, hexByte (c.toNat / 16), hexByte (c.toNat % 16)]
  else String.utf8EncodeChar c

def encodeString (text : String) : Bytes :=
  [0x22] ++ text.toList.flatMap encodeChar ++ [0x22]

def encodeItems : List Bytes → Bytes
  | [] => []
  | [item] => item
  | item :: next :: rest => item ++ [0x2C] ++ encodeItems (next :: rest)

def encodeList (items : List Bytes) : Bytes := [0x5B] ++ encodeItems items ++ [0x5D]

def encodeObject (members : List (String × Bytes)) : Bytes :=
  [0x7B] ++ encodeItems (members.map fun member => encodeString member.1 ++ [0x3A] ++ member.2) ++
    [0x7D]

inductive Document
  | null
  | number (n : Nat)
  | text (text : String)
  | list (items : List Document)
  | object (members : List (String × Document))

def stringText (text : String) : String :=
  (decodeUtf8 (encodeString text)).getD ""

def newLine (depth : Nat) : String := "\n" ++ String.ofList (List.replicate (2 * depth) ' ')

def block (depth : Nat) (opening closing : String) (items : List String) : String :=
  if items.isEmpty then opening ++ closing
  else
    opening ++ newLine (depth + 1) ++ String.intercalate ("," ++ newLine (depth + 1)) items ++
      newLine depth ++ closing

mutual

/-- The spread form of a document that stands at a depth of nesting. -/
def Document.spread (depth : Nat) : Document → String
  | .null => "null"
  | .number n => toString n
  | .text text => stringText text
  | .list items => block depth "[" "]" (spreadItems (depth + 1) items)
  | .object members => block depth "\x7b" "\x7d" (spreadMembers (depth + 1) members)

def spreadItems (depth : Nat) : List Document → List String
  | [] => []
  | item :: rest => item.spread depth :: spreadItems depth rest

def spreadMembers (depth : Nat) : List (String × Document) → List String
  | [] => []
  | (name, value) :: rest =>
      (stringText name ++ ": " ++ value.spread depth) :: spreadMembers depth rest

end

end CallMonitor.Json
