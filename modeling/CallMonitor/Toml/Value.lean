import CallMonitor.Toml.Item
import CallMonitor.Toml.Moment
import CallMonitor.Toml.Number
import CallMonitor.Toml.Quoted

/-!
Keys and values of TOML documents. Lists and tables between braces hold values in turn, down to
a fixed depth.
-/

namespace CallMonitor.Toml

def isBare (c : Char) : Bool :=
  decide ('a' ≤ c ∧ c ≤ 'z') || decide ('A' ≤ c ∧ c ≤ 'Z') || isDigit c || c == '_' || c == '-'

def readKeyPart (text : List Char) : Option (String × List Char) :=
  match text with
  | [] => none
  | c :: _ =>
      if c = '\x22' ∨ c = '\x27' then readShortString text
      else
        let bare := text.takeWhile isBare
        if bare.isEmpty then none else some (String.ofList bare, text.drop bare.length)

/-- The parts of a key after the first, each after a point; white space may stand around them. -/
def readKeyParts : (fuel : Nat) → List Char → Option (List String × List Char)
  | 0, _ => none
  | fuel + 1, text =>
      match readKeyPart (skipGap text) with
      | none => none
      | some (part, rest) =>
          match skipGap rest with
          | '.' :: rest => (readKeyParts fuel rest).map fun (parts, rest) => (part :: parts, rest)
          | rest => some ([part], rest)

/-- The number of parts from which on a key, and of brackets from which on a nesting, is refused. -/
def depthLimit : Nat := 80

/-- A key: the parts on the way and the last part. White space around it is taken too. -/
def readKey (text : List Char) : Option ((List String × String) × List Char) :=
  match readKeyParts text.length text with
  | none => none
  | some (parts, rest) =>
      match parts.getLast? with
      | none => none
      | some last => if parts.length < depthLimit then some ((parts.dropLast, last), rest) else none

/-- The values of a list from the first one on, with the closing bracket. White space, line ends
and comments may stand around values, and a comma after the last one. -/
def readListFrom (value : Reader Item) : (fuel : Nat) → Reader (List Item)
  | 0, _ => none
  | fuel + 1, text =>
      match skipLines text with
      | none => none
      | some (']' :: rest) => some ([], rest)
      | some start =>
          match value start with
          | none => none
          | some (item, rest) =>
              match skipLines rest with
              | some (']' :: rest) => some ([item], rest)
              | some (',' :: rest) =>
                  (readListFrom value fuel rest).map fun (items, rest) => (item :: items, rest)
              | _ => none

def readPair (value : Reader Item) (text : List Char) :
    Option ((List String × String × Item) × List Char) :=
  match readKey text with
  | some ((path, key), '=' :: rest) =>
      (value (skipGap rest)).map fun (item, rest) => ((path, key, item), skipGap rest)
  | _ => none

def readBraces (value : Reader Item) : (fuel : Nat) → Entries → Reader Entries
  | 0, _, _ => none
  | fuel + 1, entries, text =>
      match readPair value text with
      | none => none
      | some ((path, key, item), rest) =>
          match entries.addDotted path key item with
          | none => none
          | some entries =>
              match rest with
              | '}' :: rest => some (entries, rest)
              | ',' :: rest => readBraces value fuel entries rest
              | _ => none

def readScalar (text : List Char) : Option (Item × List Char) :=
  match text with
  | [] => none
  | c :: _ =>
      if c = '\x22' ∨ c = '\x27' then (readString text).map fun (s, rest) => (.text s, rest)
      else if c = 't' then
        (takeWord ['t', 'r', 'u', 'e'] text).map fun rest => (.boolean true, rest)
      else if c = 'f' then
        (takeWord ['f', 'a', 'l', 's', 'e'] text).map fun rest => (.boolean false, rest)
      else
        match readMoment text with
        | none => none
        | some (some (written, rest)) => some (.moment written, rest)
        | some none =>
            match readFloat text with
            | some (written, rest) => some (.float written, rest)
            | none => (readInteger text).map fun (n, rest) => (.integer n, rest)

def readValue : (depth : Nat) → Reader Item
  | 0, text => readScalar text
  | depth + 1, text =>
      match text with
      | '[' :: rest =>
          (readListFrom (readValue depth) rest.length rest).map fun (items, rest) =>
            (.list items, rest)
      | '{' :: rest =>
          match skipGap rest with
          | '}' :: rest => some (.table .braces [], rest)
          | start =>
              (readBraces (readValue depth) start.length [] start).map fun (entries, rest) =>
                (.table .braces entries, rest)
      | _ => readScalar text

end CallMonitor.Toml
