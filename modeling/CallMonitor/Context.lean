import CallMonitor.Text.Quoted

/-!
The host application, of which the monitor knows the package name once the host has given it.
-/

namespace CallMonitor

open CallMonitor.Text

/-- The package name given by the host, if it has given one. -/
structure Context where
  given : Option String
  deriving DecidableEq, Repr

namespace Context

def unset : Context := ⟨none⟩

def unavailable : String := "package name unavailable: context not set"

def set (_ : Context) (packageName : String) : Context := ⟨some packageName⟩

def packageName (context : Context) : String := context.given.getD unavailable

def describe (context : Context) : String :=
  "ContextSlot \x7b package_name: " ++ quote context.packageName ++ " \x7d"

end Context

end CallMonitor
