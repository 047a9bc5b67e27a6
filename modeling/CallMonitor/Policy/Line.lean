import CallMonitor.Policy.Rule

/-!
The written form of a rule: method, matchers and verdict in one line, separated by tabs. Blank
lines, lines that start with a number sign, and lines with fewer than two fields say nothing.
-/

namespace CallMonitor.Policy

open CallMonitor.Text

/-- The fields of a line: the pieces between tabs, less the blank ones at the end. -/
def lineFields (line : List Char) : List (List Char) :=
  dropEndWhile allBlank (splitOn '\t' line)

/-- What a line says: nothing, or a method, matchers and the word in its last field. The method
and the matchers are as written; the word is without the white space around it. -/
def readLine (line : List Char) : Option (List Char × List (List Char) × List Char) :=
  if allBlank line = true ∨ '\t' ∉ line ∨ line.head? = some '#' then none
  else
    match lineFields line with
    | [] => none
    | method :: rest =>
        match rest.getLast? with
        | none => none
        | some last => some (method, rest.dropLast, trim last)

/-- The rule that a line states, if it states one; otherwise the word that is no verdict. -/
def ruleOfLine (line : List Char) : Except String (Option Rule) :=
  match readLine line with
  | none => .ok none
  | some (method, matchers, word) =>
      match Verdict.ofWord? (String.ofList word) with
      | none => .error (String.ofList word)
      | some verdict =>
          .ok (some (Rule.make (String.ofList method) (matchers.map String.ofList) verdict))

def Rule.toLine (rule : Rule) : String :=
  String.intercalate "\t" (rule.method :: rule.matchers ++ [rule.verdict.word])

end CallMonitor.Policy
