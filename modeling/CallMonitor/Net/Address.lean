import CallMonitor.Text.Split

/-!
Internet addresses and their written form. Reading is strict: four decimal numbers without
leading zeros, or eight hexadecimal groups of which one run may be left out and the last two may
be written as four decimal numbers. Writing leaves out the longest run of zero groups.
-/

namespace CallMonitor.Net

open CallMonitor.Text

/-- An address of version 4, as four numbers below 256, or of version 6, as eight below 65536. -/
inductive Address
  | four (a b c d : Nat)
  | six (groups : List Nat)
  deriving DecidableEq, Repr

def digitValue (c : Char) : Option Nat :=
  if '0' ≤ c ∧ c ≤ '9' then some (c.toNat - 0x30)
  else if 'a' ≤ c ∧ c ≤ 'f' then some (c.toNat - 0x57)
  else if 'A' ≤ c ∧ c ≤ 'F' then some (c.toNat - 0x37)
  else none

def isDigitIn (base : Nat) (c : Char) : Bool :=
  match digitValue c with
  | none => false
  | some value => decide (value < base)

def numberOf (base : Nat) (digits : List Char) : Nat :=
  digits.foldl (fun value c => value * base + (digitValue c).getD 0) 0

def readOctet (text : List Char) : Option (Nat × List Char) :=
  let digits := text.takeWhile (isDigitIn 10)
  let value := numberOf 10 digits
  if digits = [] ∨ 3 < digits.length ∨ 255 < value then none
  else if digits.head? = some '0' ∧ 1 < digits.length then none
  else some (value, text.dropWhile (isDigitIn 10))

def readGroup (text : List Char) : Option (Nat × List Char) :=
  let digits := text.takeWhile (isDigitIn 16)
  if digits = [] ∨ 4 < digits.length then none
  else some (numberOf 16 digits, text.dropWhile (isDigitIn 16))

def takeMark (mark : Char) : List Char → Option (List Char)
  | [] => none
  | c :: rest => if c = mark then some rest else none

def readFour (text : List Char) : Option ((Nat × Nat × Nat × Nat) × List Char) := do
  let (a, rest) ← readOctet text
  let (b, rest) ← (takeMark '.' rest).bind readOctet
  let (c, rest) ← (takeMark '.' rest).bind readOctet
  let (d, rest) ← (takeMark '.' rest).bind readOctet
  some ((a, b, c, d), rest)

/-- What stands before the group at an index: nothing before the first, a colon before others. -/
def afterColon (index : Nat) (text : List Char) : Option (List Char) :=
  if index = 0 then some text else takeMark ':' text

/-- Groups, at most `room` of them, and whether the last two were written as four decimal numbers.
Reading stops where no further group can be read. -/
def readGroups : (room index : Nat) → List Char → List Nat × Bool × List Char
  | 0, _, text => ([], false, text)
  | room + 1, index, text =>
      match if room = 0 then none else (afterColon index text).bind readFour with
      | some ((a, b, c, d), rest) => ([a * 256 + b, c * 256 + d], true, rest)
      | none =>
          match (afterColon index text).bind readGroup with
          | none => ([], false, text)
          | some (group, rest) =>
              let (groups, dotted, rest) := readGroups room (index + 1) rest
              (group :: groups, dotted, rest)

/-- Eight groups, or fewer around a double colon that stands for at least one zero group. -/
def readSix (text : List Char) : Option (List Nat × List Char) :=
  let (head, dotted, rest) := readGroups 8 0 text
  if head.length = 8 then some (head, rest)
  else if dotted then none
  else
    match (takeMark ':' rest).bind (takeMark ':') with
    | none => none
    | some rest =>
        let (tail, _, rest) := readGroups (7 - head.length) 0 rest
        some (head ++ List.replicate (8 - head.length - tail.length) 0 ++ tail, rest)

namespace Address

def parse (text : String) : Option Address :=
  match readFour text.toList with
  | some ((a, b, c, d), []) => some (four a b c d)
  | _ =>
      match readSix text.toList with
      | some (groups, []) => some (six groups)
      | _ => none

structure Run where
  start : Nat
  length : Nat

/-- The longest run of zeros among groups from an index on, the first one if several are equally
long; `current` is the run that the groups before leave open. -/
def longestRun (index : Nat) (current longest : Run) : List Nat → Run
  | [] => longest
  | group :: rest =>
      if group = 0 then
        let current : Run :=
          if current.length = 0 then ⟨index, 1⟩ else ⟨current.start, current.length + 1⟩
        longestRun (index + 1) current
          (if longest.length < current.length then current else longest) rest
      else longestRun (index + 1) ⟨0, 0⟩ longest rest

def writeGroups (groups : List Nat) : String :=
  String.intercalate ":" (groups.map fun group => String.ofList (Nat.toDigits 16 group))

def writeFour (a b c d : Nat) : String :=
  String.intercalate "." ([a, b, c, d].map toString)

def writeSix (groups : List Nat) : String :=
  let run := longestRun 0 ⟨0, 0⟩ ⟨0, 0⟩ groups
  if run.length < 2 then writeGroups groups
  else
    writeGroups (groups.take run.start) ++ "::" ++
      writeGroups (groups.drop (run.start + run.length))

/-- The written form of an address. A version 4 address inside version 6 shows its four numbers. -/
def toText : Address → String
  | four a b c d => writeFour a b c d
  | six [0, 0, 0, 0, 0, 65535, high, low] =>
      "::ffff:" ++ writeFour (high / 256) (high % 256) (low / 256) (low % 256)
  | six groups => writeSix groups

def loopback : Address := four 127 0 0 1

def every : Address := four 0 0 0 0

end Address

structure Endpoint where
  address : Address
  port : Nat
  deriving DecidableEq, Repr

/-- The written form of an endpoint. A version 6 address stands in brackets. -/
def Endpoint.toText (endpoint : Endpoint) : String :=
  match endpoint.address with
  | .four a b c d => Address.writeFour a b c d ++ ":" ++ toString endpoint.port
  | .six groups => "[" ++ (Address.six groups).toText ++ "]:" ++ toString endpoint.port

end CallMonitor.Net
