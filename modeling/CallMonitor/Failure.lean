import CallMonitor.Settings.Basic

/-!
Every way in which the library can fail, with the text of each failure and the chain of its
causes.
-/

namespace CallMonitor

inductive Failure
  | settings (problem : Settings.Problem)
  | server (error : Server.StartError)
  | wire (error : Wire.WireError)
  | policy (error : Policy.PolicyError)
  | system (reason : SystemError)
  deriving DecidableEq, Repr

namespace Failure

/-- The text of what failed, without saying which part of the library it is from. -/
def detail : Failure → String
  | settings problem => problem.message
  | server error => error.message
  | wire error => error.message
  | policy error => error.message
  | system reason => reason.message

def area : Failure → String
  | settings _ => "Config error"
  | server _ => "Server error"
  | wire _ => "Protocol error"
  | policy _ => "Policy error"
  | system _ => "I/O error"

def message (failure : Failure) : String := failure.area ++ ": " ++ failure.detail

def causes (failure : Failure) : List String :=
  failure.detail ::
    match failure with
    | settings problem => problem.causes
    | server error => error.causes
    | wire error => error.causes
    | policy error => error.causes
    | system _ => []

end Failure

end CallMonitor
