import CallMonitor.Failure

/-!
How the program reports a failure at its end: what it was doing, and below that the chain of
causes, numbered if there are several.
-/

namespace CallMonitor.Cli

open CallMonitor.Text

/-- A failure that ends the program: a headline and its causes, the nearest first. -/
structure Report where
  headline : String
  causes : List String
  deriving DecidableEq, Repr

namespace Report

def under (headline : String) (message : String) (causes : List String) : Report :=
  ⟨headline, message :: causes⟩

def ofFailure (failure : Failure) : Report := ⟨failure.message, failure.causes⟩

/-- A cause behind its label; further lines of it are indented as far. -/
def writeCause (label indent cause : String) : String :=
  "\n" ++ label ++ replaceAll "\n" ("\n" ++ indent) cause

def numberLabel (number : Nat) : String :=
  let digits := toString number
  String.ofList (List.replicate (5 - digits.length) ' ') ++ digits ++ ": "

def writeCauses : List String → String
  | [] => ""
  | [cause] => "\n\nCaused by:" ++ writeCause "    " "    " cause
  | causes =>
      "\n\nCaused by:" ++ String.join ((causes.zip (List.range causes.length)).map
        fun (cause, number) => writeCause (numberLabel number) "       " cause)

def write (report : Report) : String :=
  "Error: " ++ report.headline ++ writeCauses report.causes ++ "\n"

end Report

end CallMonitor.Cli
