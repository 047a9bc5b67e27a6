/-!
What a TOML document holds: values under keys, in tables. A table remembers how it came to be,
because that decides what may still be added to it.
-/

namespace CallMonitor.Toml

inductive Origin
  | header
  /-- Passed through by a header that names a table inside it. -/
  | implied
  /-- Passed through by a dotted key. -/
  | dotted
  | braces
  deriving DecidableEq, Repr

inductive Item
  | text (text : String)
  | integer (n : Int)
  /-- A number with a fraction or an exponent, as written. -/
  | float (written : String)
  | boolean (b : Bool)
  /-- A date, a time or both, as written. -/
  | moment (written : String)
  | list (items : List Item)
  | table (origin : Origin) (entries : List (String × Item))
  /-- Tables that were named one after the other by a header in double brackets. -/
  | tables (tables : List (List (String × Item)))
  deriving Repr

abbrev Entries := List (String × Item)

namespace Entries

def put (entries : Entries) (key : String) (item : Item) : Entries :=
  match entries with
  | [] => [(key, item)]
  | (other, old) :: rest =>
      if other = key then (key, item) :: rest else (other, old) :: put rest key item

/-- Adds a value under a dotted key. Tables on the way are made if missing. Only tables that
dotted keys made can be the last on the way, and none on the way may have been named by a header
or written between braces. -/
def addDotted (entries : Entries) : (path : List String) → (key : String) → Item → Option Entries
  | [], key, item => if (entries.lookup key).isSome then none else some (entries ++ [(key, item)])
  | step :: rest, key, item =>
      match entries.lookup step with
      | none => (addDotted [] rest key item).map fun inner =>
          entries ++ [(step, .table .dotted inner)]
      | some (.table .dotted inner) => (addDotted inner rest key item).map fun inner =>
          entries.put step (.table .dotted inner)
      | some (.table .implied inner) =>
          if rest = [] then none
          else (addDotted inner rest key item).map fun inner =>
            entries.put step (.table .implied inner)
      | some (.tables tables) =>
          match rest, tables.getLast? with
          | _ :: _, some last => (addDotted last rest key item).map fun inner =>
              entries.put step (.tables (tables.dropLast ++ [inner]))
          | _, _ => none
      | _ => none

/-- Changes the table that holds the last key of a header's path. Tables on the way are made if
missing; of several tables under one key the last one is meant. -/
def changeUnder (entries : Entries) (change : Entries → Option Entries) :
    (path : List String) → Option Entries
  | [] => change entries
  | step :: rest =>
      match entries.lookup step with
      | none => (changeUnder [] change rest).map fun inner =>
          entries ++ [(step, .table .implied inner)]
      | some (.table .braces _) => none
      | some (.table origin inner) => (changeUnder inner change rest).map fun inner =>
          entries.put step (.table origin inner)
      | some (.tables tables) =>
          match tables.getLast? with
          | none => none
          | some last => (changeUnder last change rest).map fun inner =>
              entries.put step (.tables (tables.dropLast ++ [inner]))
      | some _ => none

end Entries

end CallMonitor.Toml
