import CallMonitor.Monitor.Answer
import CallMonitor.Net.Network

/-!
What a server needs to know of the service it offers: how requests and responses look on the
wire, what answers a request, and which request is the last one.
-/

namespace CallMonitor.Server

open CallMonitor.Text

/-- A service over a state. Answering may abort, and leaves a state in either case. -/
structure Handler (σ Req Resp : Type) where
  decode : Bytes → Option Req
  encode : Resp → Bytes
  /-- A request as diagnostics show it. -/
  describe : Req → String
  respond : σ → Req → Option Resp × σ × List Notice
  closes : Req → Bool

structure Options where
  address : Net.Address
  /-- How long a request may take to arrive, in milliseconds. -/
  readTimeout : Option Nat
  frameLimit : Nat
  deriving DecidableEq, Repr

def Options.usualFrameLimit : Nat := 16777216

def monitorHandler : Handler Monitor String (List Wire.Row) where
  decode := Wire.decodeText
  encode := Wire.Row.encodeAll
  describe := quote
  respond monitor token :=
    let reply := monitor.answer token
    (reply.outcome.toOption, reply.monitor, reply.notices)
  closes := Monitor.asksToClose

end CallMonitor.Server
