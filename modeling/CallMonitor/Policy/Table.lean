import CallMonitor.Files
import CallMonitor.Policy.Line
import CallMonitor.Text.Quoted

/-!
Policy tables: rules in the order in which they were first stated, one per identity. A rule
stated again keeps its place and takes the new verdict. The first rule that speaks about a query
decides it.
-/

namespace CallMonitor.Policy

open CallMonitor.Text

inductive PolicyError
  | unreadable (path : String) (reason : SystemError)
  /-- The last field of a rule line is no verdict. Lines are counted from one. -/
  | invalidVerdict (line : Nat) (word : String)
  deriving DecidableEq, Repr

namespace PolicyError

def message : PolicyError → String
  | unreadable path reason =>
      "Failed to read policy file " ++ path ++ ": " ++ reason.message
  | invalidVerdict line word =>
      "Invalid verdict " ++ quote word ++ " on policy line " ++ toString line

def causes : PolicyError → List String
  | unreadable _ reason => [reason.message]
  | invalidVerdict _ _ => []

end PolicyError

structure Table where
  rules : List Rule
  deriving DecidableEq, Repr

namespace Table

/-- The table without rules, under which every call is allowed. -/
def empty : Table := ⟨[]⟩

/-- Puts a rule in the place of the one with its identity, or at the end. -/
def place (rule : Rule) : List Rule → List Rule
  | [] => [rule]
  | first :: rest =>
      if first.identity = rule.identity then { first with verdict := rule.verdict } :: rest
      else first :: place rule rest

def insert (table : Table) (rule : Rule) : Table :=
  ⟨place rule table.rules⟩

def size (table : Table) : Nat := table.rules.length

def isEmpty (table : Table) : Bool := table.rules.isEmpty

def insertAll (table : Table) (rules : List Rule) : Table :=
  rules.foldl insert table

/-- Reads lines into a table; `number` is the first line's. The first rule line without a verdict
ends the reading. -/
def readLines (table : Table) (number : Nat) : List (List Char) → Except PolicyError Table
  | [] => .ok table
  | line :: rest =>
      match ruleOfLine line with
      | .error word => .error (.invalidVerdict number word)
      | .ok none => readLines table (number + 1) rest
      | .ok (some rule) => readLines (table.insert rule) (number + 1) rest

def parse (text : String) : Except PolicyError Table :=
  readLines empty 1 (lines text.toList)

def find? (table : Table) (query : Query) : Option Rule :=
  table.rules.find? fun rule => rule.affects query

def lookup (table : Table) (query : Query) : Verdict :=
  match table.find? query with
  | none => Verdict.fallback
  | some rule => rule.verdict

/-- The table stated by what stands at a path. Nothing there states no rules. -/
def load (path : String) (state : PathState) : Except PolicyError Table :=
  if state.found then
    match state.readText with
    | .error reason => .error (.unreadable path reason)
    | .ok text => parse text
  else .ok empty

end Table

/-- The verdict under the policy at a path. A policy that cannot be read allows every call. -/
def verdictUnder (path : String) (state : PathState) (query : Query) : Verdict :=
  match Table.load path state with
  | .error _ => Verdict.fallback
  | .ok table => table.lookup query

end CallMonitor.Policy
