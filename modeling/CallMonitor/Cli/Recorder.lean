import CallMonitor.Agent.Basic

/-!
Recording lines of input as payloads. Empty lines and lines with a reserved tag are left out, and
the first line that is no text ends the recording.
-/

namespace CallMonitor.Cli

open CallMonitor.Text

inductive LineUse
  | leaveOut
  | skip (line : String)
  | keep (payload : String)
  | giveUp
  deriving DecidableEq, Repr

def carriesTag (line : String) : Bool :=
  occursIn Log.serverTag.toList line.toList || occursIn Log.agentTag.toList line.toList

def lineUse (bytes : Bytes) : LineUse :=
  match decodeUtf8 bytes with
  | none => .giveUp
  | some line =>
      if line.isEmpty then .leaveOut
      else if carriesTag line then .skip line
      else .keep line

/-- Records one line after the other. If the log refuses a payload, the recording is aborted. -/
def recordEach {τ ρ : Type} (agent : Agent τ ρ) :
    List Bytes → Except Log.SelfReference Unit × Agent τ ρ
  | [] => (.ok (), agent)
  | line :: rest =>
      match lineUse line with
      | .leaveOut => recordEach agent rest
      | .skip text => recordEach (agent.tell (.lineSkipped text)) rest
      | .keep payload =>
          match agent.record payload with
          | (.error abort, agent) => (.error abort, agent)
          | (.ok (), agent) => recordEach agent rest
      | .giveUp => (.ok (), agent.tell (.inputFailed .notUtf8))

def recordLines {τ ρ : Type} (agent : Agent τ ρ) (input : Bytes) :
    Except Log.SelfReference Unit × Agent τ ρ :=
  recordEach agent (byteLines input)

end CallMonitor.Cli
