import CallMonitor.Proofs.Wire.Framing
import CallMonitor.Server.Stop
import Mathlib.Data.Nat.Init

/-!
A session: what the peers of a server get from it and do to its state, one exchange after the
other. It is told without a loop, a queue or a slot, from what each peer has sent alone.

A run of a server is any order in which its loop moves and its peers connect, send and end. It
keeps the requests that the handler has been given. Nobody stops the server, and no time runs out.
-/

namespace CallMonitor.Server

open CallMonitor.Text CallMonitor.Wire

variable {σ Req Resp : Type}

/-- The peers of a server by the numbers of their connections: the request that a peer makes,
whether it fails to make one, and what it gets. -/
structure Peers (Req : Type) where
  asks : Nat → Req → Prop
  fails : Nat → Prop
  gets : Nat → Bytes

/-- One peer's exchange with a service in some state: what the peer gets after the header, the
requests that the handler is given, the state afterwards, and whether the server stays open. -/
inductive Exchange (handler : Handler σ Req Resp) (peers : Peers Req) (number : Nat) (state : σ) :
    Bytes → List Req → σ → Bool → Prop
  /-- A request gets one frame with the response to it. -/
  | answered {request : Req} {response : Resp} {after : σ} {notices : List Notice}
      (asked : peers.asks number request)
      (responds : handler.respond state request = (some response, after, notices))
      (short : (handler.encode response).length ≤ bodyLimit) :
      Exchange handler peers number state
        (encodeLength (handler.encode response).length ++ handler.encode response) [request] after
        (!handler.closes request)
  /-- A response that is too long for a frame is not sent, and the server closes. -/
  | overlong {request : Req} {response : Resp} {after : σ} {notices : List Notice}
      (asked : peers.asks number request)
      (responds : handler.respond state request = (some response, after, notices))
      (long : bodyLimit < (handler.encode response).length) :
      Exchange handler peers number state [] [request] after false
  /-- A request on which the handler aborts gets nothing, and the server closes. -/
  | aborted {request : Req} {after : σ} {notices : List Notice}
      (asked : peers.asks number request)
      (aborts : handler.respond state request = (none, after, notices)) :
      Exchange handler peers number state [] [request] after false
  /-- A peer that makes no request gets nothing, and the server closes. The handler is not asked. -/
  | failed (failure : peers.fails number) : Exchange handler peers number state [] [] state false

theorem Exchange.of_unasked {handler : Handler σ Req Resp} {peers : Peers Req} {number : Nat}
    {state after : σ} {answer : Bytes} {asked : List Req} {stays : Bool}
    (exchange : Exchange handler peers number state answer asked after stays)
    (unasked : ∀ request, ¬peers.asks number request) :
    answer = [] ∧ after = state ∧ stays = false := by
  cases exchange with
  | answered read => exact absurd read (unasked _)
  | overlong read => exact absurd read (unasked _)
  | aborted read => exact absurd read (unasked _)
  | failed failure => exact ⟨rfl, rfl, rfl⟩

/-- The session of a server with the peers from number `base` up to, and without, another number:
the requests that the handler was given, with the numbers of their peers, the state afterwards, and
whether the server is still open. -/
inductive Session (handler : Handler σ Req Resp) (start : σ) (base : Nat) (peers : Peers Req) :
    Nat → List (Nat × Req) → σ → Bool → Prop
  | opened : Session handler start base peers base [] start true
  /-- A peer of an open server gets the header, and then what comes of the exchange. -/
  | served {number : Nat} {calls : List (Nat × Req)} {state after : σ} {answer : Bytes}
      {asked : List Req} {stays : Bool}
      (before : Session handler start base peers number calls state true)
      (exchange : Exchange handler peers number state answer asked after stays)
      (got : peers.gets number = header ++ answer) :
      Session handler start base peers (number + 1)
        (calls ++ asked.map fun request => (number, request)) after stays
  /-- A peer of a closed server gets nothing. -/
  | unserved {number : Nat} {calls : List (Nat × Req)} {state : σ}
      (before : Session handler start base peers number calls state false)
      (got : peers.gets number = []) :
      Session handler start base peers (number + 1) calls state false

/-- Peers that ask and fail as others do, and get what they get, between two numbers. -/
structure Peers.Extends (later peers : Peers Req) (base bound : Nat) : Prop where
  asks : ∀ number, base ≤ number → number < bound → ∀ request,
    peers.asks number request → later.asks number request
  fails : ∀ number, base ≤ number → number < bound → peers.fails number → later.fails number
  gets : ∀ number, base ≤ number → number < bound → later.gets number = peers.gets number

theorem Peers.Extends.below {later peers : Peers Req} {base bound lower : Nat}
    (extended : later.Extends peers base bound) (le : lower ≤ bound) :
    later.Extends peers base lower where
  asks number above below := extended.asks number above (Nat.lt_of_lt_of_le below le)
  fails number above below := extended.fails number above (Nat.lt_of_lt_of_le below le)
  gets number above below := extended.gets number above (Nat.lt_of_lt_of_le below le)

/-- What holds of the last of some peers, and of those before it. -/
theorem Peers.Extends.last {later peers : Peers Req} {base number : Nat}
    (extended : later.Extends peers base (number + 1)) (above : base ≤ number) :
    later.gets number = peers.gets number ∧
      (∀ request, peers.asks number request → later.asks number request) ∧
      (peers.fails number → later.fails number) ∧ later.Extends peers base number := by
  have inside : number < number + 1 := Nat.lt_succ_self number
  exact ⟨extended.gets number above inside, extended.asks number above inside,
    extended.fails number above inside, extended.below (Nat.le_succ number)⟩

namespace Session

variable {handler : Handler σ Req Resp} {start state : σ} {base number : Nat}
  {peers later : Peers Req} {calls : List (Nat × Req)} {isOpen : Bool}

theorem base_le (session : Session handler start base peers number calls state isOpen) :
    base ≤ number := by
  induction session with
  | opened => exact Nat.le_refl _
  | served _ _ _ ih => exact Nat.le_succ_of_le ih
  | unserved _ _ ih => exact Nat.le_succ_of_le ih

/-- A session depends on its own peers only. -/
theorem transfer (session : Session handler start base peers number calls state isOpen)
    (extended : later.Extends peers base number) :
    Session handler start base later number calls state isOpen := by
  induction session with
  | opened => exact .opened
  | served before exchange got ih =>
      obtain ⟨gets, asks, fails, earlier⟩ := extended.last before.base_le
      refine .served (ih earlier) ?_ (gets.trans got)
      cases exchange with
      | answered asked responds short => exact .answered (asks _ asked) responds short
      | overlong asked responds long => exact .overlong (asks _ asked) responds long
      | aborted asked aborts => exact .aborted (asks _ asked) aborts
      | failed failure => exact .failed (fails failure)
  | unserved before got ih =>
      obtain ⟨gets, -, -, earlier⟩ := extended.last before.base_le
      exact .unserved (ih earlier) (gets.trans got)

/-- Peers that come when the server is closed do not change a session. -/
theorem extend_closed (session : Session handler start base peers number calls state false)
    {bound : Nat} (le : number ≤ bound)
    (silent : ∀ late, number ≤ late → late < bound → peers.gets late = []) :
    Session handler start base peers bound calls state false := by
  induction bound, le using Nat.le_induction with
  | base => exact session
  | succ bound above ih =>
      exact .unserved (ih fun late lower upper => silent late lower (Nat.lt_succ_of_lt upper))
        (silent bound above (Nat.lt_succ_self _))

theorem of_no_peers (session : Session handler start base peers base calls state isOpen) :
    calls = [] ∧ state = start ∧ isOpen = true := by
  cases session with
  | opened => exact ⟨rfl, rfl, rfl⟩
  | served before =>
      have floor := before.base_le
      omega
  | unserved before =>
      have floor := before.base_le
      omega

/-- A session with one peer is one exchange. -/
theorem of_one_peer (session : Session handler start base peers (base + 1) calls state isOpen) :
    ∃ answer asked, Exchange handler peers base start answer asked state isOpen ∧
      peers.gets base = header ++ answer := by
  generalize bound : base + 1 = number at session
  cases session with
  | opened => omega
  | served before exchange got =>
      obtain rfl := Nat.succ.inj bound
      obtain ⟨-, rfl, -⟩ := before.of_no_peers
      exact ⟨_, _, exchange, got⟩
  | unserved before got =>
      obtain rfl := Nat.succ.inj bound
      obtain ⟨-, -, stays⟩ := before.of_no_peers
      cases stays

end Session

/-- The request that the handler is given when the loop makes its next move. -/
def Loop.handing (loop : Loop Req) : List (Nat × Req) :=
  match loop.position with
  | .handling number request => [(number, request)]
  | _ => []

/-- A run of a server that nobody stops. Its loop moves whenever it can, and its peers connect,
send any bytes in any pieces, and end, at any time and in any order. -/
inductive Run (handler : Handler σ Req Resp) (start : Service σ Req) :
    List (Nat × Req) → Service σ Req → Prop
  | start : Run handler start [] start
  | move {calls : List (Nat × Req)} {service next : Service σ Req}
      (before : Run handler start calls service) (moved : service.step handler = some next) :
      Run handler start (calls ++ service.loop.handing) next
  | connect {calls : List (Nat × Req)} {service : Service σ Req} {number : Nat} {loop : Loop Req}
      (before : Run handler start calls service)
      (connected : service.loop.connect Connection.silent = some (number, loop)) :
      Run handler start calls (service.moved loop [])
  | send {calls : List (Nat × Req)} {service : Service σ Req} {number : Nat} {bytes : Bytes}
      (before : Run handler start calls service)
      (sending : (service.loop.connection number).ended = false) :
      Run handler start calls (service.moved (service.loop.deliver number bytes) [])
  | finish {calls : List (Nat × Req)} {service : Service σ Req} {number : Nat}
      (before : Run handler start calls service) :
      Run handler start calls (service.moved (service.loop.finishSending number) [])

/-- The peers of a server, told from the bytes that each of them has sent: a peer makes a request
if these start with a frame within the limit that holds one, whatever follows it. -/
def Service.peers (service : Service σ Req) (decode : Bytes → Option Req) (limit : Nat) :
    Peers Req where
  asks number request := Carries decode limit (service.loop.connection number).arrived request
  fails number := ∀ request,
    ¬Carries decode limit (service.loop.connection number).arrived request
  gets := service.sentOn

end CallMonitor.Server
