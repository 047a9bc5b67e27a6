import CallMonitor.Policy.Verdict
import CallMonitor.Text.Blank
import CallMonitor.Text.Split

/-!
One policy rule: a method, the texts its resources must contain, and a verdict. The method is
kept without white space, so that signatures compare however they are laid out.
-/

namespace CallMonitor.Policy

open CallMonitor.Text

structure Query where
  method : String
  resources : List String
  deriving DecidableEq, Repr

/-- A rule. Method and matchers are its identity; the verdict is what it says. -/
structure Rule where
  method : String
  matchers : List String
  verdict : Verdict
  deriving DecidableEq, Repr

def normalMethod (method : String) : String :=
  String.ofList (strip method.toList)

namespace Rule

/-- The rule for a method however its signature is laid out. -/
def make (method : String) (matchers : List String) (verdict : Verdict) : Rule :=
  ⟨normalMethod method, matchers, verdict⟩

def identity (rule : Rule) : String × List String := (rule.method, rule.matchers)

/-- Whether a rule speaks about a query: the methods agree up to white space, and every matcher
occurs in the resources run together, wherever one resource ends and the next begins. -/
def affects (rule : Rule) (query : Query) : Bool :=
  decide (rule.method = normalMethod query.method) &&
    rule.matchers.all fun matcher =>
      occursIn matcher.toList (query.resources.flatMap String.toList)

/-- A rule in one line, for people: method, matchers in brackets if there are any, verdict. -/
def summary (rule : Rule) : String :=
  match rule.matchers with
  | [] => rule.method ++ " -> " ++ rule.verdict.word
  | matchers =>
      rule.method ++ " [" ++ String.intercalate ", " matchers ++ "] -> " ++ rule.verdict.word

end Rule

end CallMonitor.Policy
