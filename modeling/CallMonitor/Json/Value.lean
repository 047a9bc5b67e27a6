import CallMonitor.Json.Scan

/-!
Whole JSON texts: values that are read over without being kept, lists, objects, and the rule that
nothing but white space may follow.
-/

namespace CallMonitor.Json

open CallMonitor.Text

def skipDigits (bytes : Bytes) : Option Bytes :=
  match bytes.head? with
  | some byte => if isDigit byte then some (bytes.dropWhile isDigit) else none
  | none => none

def skipExponent (bytes : Bytes) : Option Bytes :=
  match bytes with
  | mark :: rest =>
      if mark = 0x65 ∨ mark = 0x45 then
        match rest with
        | sign :: digits =>
            if sign = 0x2B ∨ sign = 0x2D then skipDigits digits else skipDigits rest
        | [] => none
      else some bytes
  | [] => some bytes

def skipFraction (bytes : Bytes) : Option Bytes :=
  match bytes with
  | point :: rest => if point = 0x2E then skipDigits rest else some bytes
  | [] => some bytes

def skipNumber (bytes : Bytes) : Option Bytes :=
  let unsigned := if bytes.head? = some 0x2D then bytes.drop 1 else bytes
  match readWhole unsigned with
  | none => none
  | some (_, rest) => (skipFraction rest).bind skipExponent

/-- A string whose text is not wanted, after its opening quote. Escapes must be well formed but
need not denote characters, and the bytes need not be UTF-8. -/
def skipContent : (fuel : Nat) → Bytes → Option Bytes
  | 0, _ => none
  | _, [] => none
  | fuel + 1, byte :: rest =>
      if byte = 0x22 then some rest
      else if byte = 0x5C then
        match rest with
        | [] => none
        | letter :: after =>
            if letter = 0x75 then (readUnit after).bind fun read => skipContent fuel read.2
            else if (letterEscape letter).isSome then skipContent fuel after
            else none
      else if byte < 0x20 then none
      else skipContent fuel rest

mutual

def skipValue : (fuel : Nat) → Bytes → Option Bytes
  | 0, _ => none
  | fuel + 1, bytes =>
      match skipSpace bytes with
      | [] => none
      | byte :: rest =>
          if byte = 0x22 then skipContent rest.length.succ rest
          else if byte = 0x5B then
            match skipSpace rest with
            | 0x5D :: after => some after
            | start => skipItems fuel start
          else if byte = 0x7B then
            match skipSpace rest with
            | 0x7D :: after => some after
            | start => skipMembers fuel start
          else if byte = 0x6E then expectWord [0x75, 0x6C, 0x6C] rest
          else if byte = 0x74 then expectWord [0x72, 0x75, 0x65] rest
          else if byte = 0x66 then expectWord [0x61, 0x6C, 0x73, 0x65] rest
          else skipNumber (byte :: rest)

/-- The items of a list from the first one on, with the closing bracket. -/
def skipItems : (fuel : Nat) → Bytes → Option Bytes
  | 0, _ => none
  | fuel + 1, bytes =>
      match skipValue fuel bytes with
      | none => none
      | some rest =>
          match skipSpace rest with
          | 0x2C :: after => skipItems fuel after
          | 0x5D :: after => some after
          | _ => none

/-- The members of an object from the first one on, with the closing brace. -/
def skipMembers : (fuel : Nat) → Bytes → Option Bytes
  | 0, _ => none
  | fuel + 1, bytes =>
      match expect 0x22 bytes with
      | none => none
      | some content =>
          match (skipContent content.length.succ content).bind (expect 0x3A) with
          | none => none
          | some value =>
              match skipValue fuel value with
              | none => none
              | some rest =>
                  match skipSpace rest with
                  | 0x2C :: after => skipMembers fuel after
                  | 0x7D :: after => some after
                  | _ => none

end

/-- Reads over a value. Two rounds for every byte are enough. -/
def skipAny (bytes : Bytes) : Option Bytes := skipValue (2 * bytes.length + 1) bytes

/-- The items of a list from the first one on, with the closing bracket. -/
def readItems {α : Type} (item : Reader α) : (fuel : Nat) → Bytes → Option (List α × Bytes)
  | 0, _ => none
  | fuel + 1, bytes =>
      match item bytes with
      | none => none
      | some (value, rest) =>
          match skipSpace rest with
          | 0x2C :: after =>
              (readItems item fuel after).map fun read => (value :: read.1, read.2)
          | 0x5D :: after => some ([value], after)
          | _ => none

def readList {α : Type} (item : Reader α) (bytes : Bytes) : Option (List α × Bytes) :=
  match expect 0x5B bytes with
  | none => none
  | some rest =>
      match skipSpace rest with
      | 0x5D :: after => some ([], after)
      | start => readItems item start.length start

/-- The members of an object from the first one on, with the closing brace. Each member's value is
read by `member`, which is told the name and what the members before have left. -/
def foldMembers {σ : Type} (member : String → σ → Reader σ) :
    (fuel : Nat) → σ → Bytes → Option (σ × Bytes)
  | 0, _, _ => none
  | fuel + 1, state, bytes =>
      match readString bytes with
      | none => none
      | some (name, rest) =>
          match (expect 0x3A rest).bind (member name state) with
          | none => none
          | some (state, rest) =>
              match skipSpace rest with
              | 0x2C :: after => foldMembers member fuel state after
              | 0x7D :: after => some (state, after)
              | _ => none

def readObject {σ : Type} (member : String → σ → Reader σ) (start : σ) (bytes : Bytes) :
    Option (σ × Bytes) :=
  match expect 0x7B bytes with
  | none => none
  | some rest =>
      match skipSpace rest with
      | 0x7D :: after => some (start, after)
      | content => foldMembers member content.length start content

def readWholeText {α : Type} (reader : Reader α) (bytes : Bytes) : Option α :=
  match reader bytes with
  | none => none
  | some (value, rest) => if skipSpace rest = [] then some value else none

end CallMonitor.Json
