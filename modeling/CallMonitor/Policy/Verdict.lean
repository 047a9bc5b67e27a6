/-!
What a policy decides about a call. A call that no rule speaks about is allowed.
-/

namespace CallMonitor.Policy

inductive Verdict
  | allow
  | deny
  /-- The call's result is replaced by a made-up one. -/
  | mock
  deriving DecidableEq, Repr, Inhabited

namespace Verdict

/-- The word that stands for a verdict in policy files and on the wire. -/
def word : Verdict → String
  | allow => "Allow"
  | deny => "Deny"
  | mock => "Mock"

def all : List Verdict := [allow, deny, mock]

/-- The verdict that a word stands for; case and white space matter. -/
def ofWord? (text : String) : Option Verdict :=
  all.find? fun verdict => verdict.word == text

def fallback : Verdict := allow

theorem of_word_word (verdict : Verdict) : ofWord? verdict.word = some verdict := by
  cases verdict <;> decide

theorem word_of_of_word {text : String} {verdict : Verdict} (found : ofWord? text = some verdict) :
    verdict.word = text := by
  have := List.find?_some found
  simpa using this

end Verdict

end CallMonitor.Policy
