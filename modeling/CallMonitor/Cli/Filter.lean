import CallMonitor.Notice
import CallMonitor.Text.Blank

/-!
Which notices are shown. A filter is written as directives between commas, each a level, the start
of a target, or both with an equals sign between them; a text after a slash must occur in every
notice shown. Of several directives that concern a target the one with the longest start counts.
-/

namespace CallMonitor.Cli

open CallMonitor.Text

/-- How many levels are shown of notices whose target starts with a text. -/
structure Directive where
  /-- The start of the target; a directive for all targets has none. -/
  target : Option String
  depth : Nat
  deriving DecidableEq, Repr

/-- A filter: its directives and the text that every notice must hold. -/
structure Filter where
  directives : List Directive
  needle : Option String
  deriving DecidableEq, Repr

namespace Filter

def fullDepth : Nat := 5

def lower (c : Char) : Char :=
  if 'A' ≤ c ∧ c ≤ 'Z' then Char.ofNat (c.toNat + 32) else c

def depthOf? (text : String) : Option Nat :=
  let word := String.ofList (text.toList.map lower)
  if word = "off" then some 0
  else
    (Level.all.find? fun level => String.ofList (level.word.toList.map lower) == word).map
      Level.depth

def readDirective (text : List Char) : Option Directive :=
  match (splitOn '=' text).map String.ofList with
  | [single] =>
      match depthOf? single with
      | some depth => some ⟨none, depth⟩
      | none => some ⟨some single, fullDepth⟩
  | [target, level] =>
      let level := String.ofList (trim level.toList)
      if level.isEmpty then some ⟨some target, fullDepth⟩
      else (depthOf? level).map fun depth => ⟨some target, depth⟩
  | _ => none

def place (directive : Directive) : List Directive → List Directive
  | [] => [directive]
  | first :: rest =>
      if first.target = directive.target then directive :: rest else first :: place directive rest

def Directive.weight (directive : Directive) : Nat :=
  (directive.target.map String.utf8ByteSize).getD 0

def readDirectives (text : List Char) : List Directive :=
  ((splitOn ',' text).filterMap fun piece =>
    let piece := trim piece
    if piece.isEmpty then none else readDirective piece).foldl (fun all one => place one all) []

/-- The filter that a text writes. Without directives only errors are shown; a text with more than
one slash is not looked at. -/
def parse (text : String) : Filter :=
  let usual : List Directive := [⟨none, Level.error.depth⟩]
  let directives (part : List Char) : List Directive :=
    match readDirectives part with
    | [] => usual
    | all => all.mergeSort fun a b => Directive.weight a ≤ Directive.weight b
  match splitOn '/' text.toList with
  | [part] => ⟨directives part, none⟩
  | [part, needle] => ⟨directives part, some (String.ofList needle)⟩
  | _ => ⟨usual, none⟩

def Directive.concerns (directive : Directive) (target : String) : Bool :=
  match directive.target with
  | none => true
  | some start => start.toList.isPrefixOf target.toList

def shows (filter : Filter) (notice : Notice) : Bool :=
  let deep :=
    match filter.directives.reverse.find? fun one => Directive.concerns one notice.target with
    | none => false
    | some directive => decide (notice.level.depth ≤ directive.depth)
  let holds :=
    match filter.needle with
    | none => true
    | some needle => occursIn needle.toList notice.text.toList
  deep && holds

end Filter

end CallMonitor.Cli
