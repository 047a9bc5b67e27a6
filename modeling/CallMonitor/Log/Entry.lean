import CallMonitor.Text.Split

/-!
Log entries, and the two tags under which the monitor itself writes diagnostics. An entry whose
payload carries a tag would be the monitor logging about itself, which the call log refuses.
-/

namespace CallMonitor.Log

open CallMonitor.Text

def serverTag : String := "CallWatch_server"

def agentTag : String := "CallWatch_agent"

def isTagged (payload : String) : Bool :=
  occursIn serverTag.toList payload.toList || occursIn agentTag.toList payload.toList

/-- One recorded call: who made it, when, and what it was. -/
structure Entry where
  processId : String
  timestamp : String
  payload : String
  deriving DecidableEq, Repr

def Entry.isTagged (entry : Entry) : Bool := Log.isTagged entry.payload

/-- The call log was given, or holds, a payload with a reserved tag. Whoever asked is aborted. -/
structure SelfReference where
  payload : String
  deriving DecidableEq, Repr

def SelfReference.message (abort : SelfReference) : String :=
  "Attempt to log a message whose payload contains " ++ serverTag ++ " or " ++ agentTag ++
    ". The message payload: " ++ abort.payload

def checkPayload (payload : String) : Except SelfReference Unit :=
  if isTagged payload then .error ⟨payload⟩ else .ok ()

def checkEntries : List Entry → Except SelfReference Unit
  | [] => .ok ()
  | entry :: rest => if entry.isTagged then .error ⟨entry.payload⟩ else checkEntries rest

end CallMonitor.Log
