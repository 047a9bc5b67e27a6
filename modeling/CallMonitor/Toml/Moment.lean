import CallMonitor.Calendar
import CallMonitor.Toml.Scan

/-!
Dates and times in TOML documents: a date, a time, or both with or without an offset from
universal time. A value of this kind is kept as its text.
-/

namespace CallMonitor.Toml

/-- A date: year, month and day, which the calendar must have. -/
def readDate (text : List Char) : Option (Date × List Char) := do
  let (year, rest) ← takeDigits 10 4 text
  let rest ← takeWord ['-'] rest
  let (month, rest) ← takeDigits 10 2 rest
  let rest ← takeWord ['-'] rest
  let (day, rest) ← takeDigits 10 2 rest
  if (⟨year, month, day⟩ : Date).isValid ∧ 1 ≤ month then some (⟨year, month, day⟩, rest) else none

def skipSecondFraction : List Char → Option (List Char)
  | '.' :: rest =>
      if (rest.takeWhile isDigit).isEmpty then none else some (rest.dropWhile isDigit)
  | text => some text

/-- A time of day. The sixtieth second of a minute is allowed for leap seconds. -/
def skipTime (text : List Char) : Option (List Char) := do
  let (hour, rest) ← takeDigits 10 2 text
  let rest ← takeWord [':'] rest
  let (minute, rest) ← takeDigits 10 2 rest
  let rest ← takeWord [':'] rest
  let (second, rest) ← takeDigits 10 2 rest
  if hour < 24 ∧ minute < 60 ∧ second ≤ 60 then skipSecondFraction rest else none

def skipOffset : List Char → Option (List Char)
  | [] => some []
  | c :: rest =>
      if c = 'Z' ∨ c = 'z' then some rest
      else if c = '+' ∨ c = '-' then do
        let (hour, rest) ← takeDigits 10 2 rest
        let rest ← takeWord [':'] rest
        let (minute, rest) ← takeDigits 10 2 rest
        if hour < 24 ∧ minute < 60 then some rest else none
      else some (c :: rest)

def startsTime (text : List Char) : Bool :=
  match text with
  | a :: b :: ':' :: _ => isDigit a && isDigit b
  | _ => false

def startsDate (text : List Char) : Bool :=
  match text with
  | a :: b :: c :: d :: '-' :: _ => isDigit a && isDigit b && isDigit c && isDigit d
  | _ => false

/-- What may follow a date: a mark or a space, a time and an offset. A space that no time follows
is not part of the value. -/
def skipTimeOfDate : List Char → Option (List Char)
  | [] => some []
  | c :: rest =>
      if (c = 'T' ∨ c = 't' ∨ c = ' ') ∧ startsTime rest then
        (skipTime rest).bind skipOffset
      else some (c :: rest)

/-- A date, a time, or both; `none` inside if none of them starts here. -/
def readMoment (text : List Char) : Option (Option (String × List Char)) :=
  let read (rest : Option (List Char)) := rest.map fun rest =>
    some (String.ofList (text.take (text.length - rest.length)), rest)
  if startsDate text then read ((readDate text).bind fun (_, rest) => skipTimeOfDate rest)
  else if startsTime text then read (skipTime text)
  else some none

end CallMonitor.Toml
