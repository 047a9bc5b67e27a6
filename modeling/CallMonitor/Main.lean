import CallMonitor.Cli.Commands
import CallMonitor.Cli.NoticeLine
import CallMonitor.Cli.Recorder
import Std.Async.DNS
import Std.Async.TCP
import Std.Async.Timer
import Std.Sync.Mutex

/-!
The program on a real machine: its files, its terminal and its sockets. What happens on sockets is
told to the server's machine step by step, and what the machine sends is sent for real; no decision
is made here that the machine could make.
-/

namespace CallMonitor.Machine

open CallMonitor.Cli CallMonitor.Text CallMonitor.Wire
open Std.Async Std.Net

abbrev Listener := TCP.Socket.Server

abbrev Stream := TCP.Socket.Client

def errorDetail : IO.Error → UInt32 × String
  | .alreadyExists _ code text | .interrupted _ code text | .noFileOrDirectory _ code text
  | .invalidArgument _ code text | .permissionDenied _ code text
  | .resourceExhausted _ code text | .inappropriateType _ code text
  | .noSuchThing _ code text => (code, text)
  | .otherError code text | .resourceBusy code text | .resourceVanished code text
  | .unsupportedOperation code text | .hardwareFault code text
  | .unsatisfiedConstraints code text | .illegalOperation code text
  | .protocolError code text | .timeExpired code text => (code, text)
  | .unexpectedEof => (0, "unexpected end of file")
  | .userError text => (0, text)

/-- The number of an error that some parts of the system give as its negative. -/
def errorNumber (code : UInt32) : UInt32 := if code < 0x80000000 then code else -code

def systemError (error : IO.Error) : SystemError :=
  let (code, text) := errorDetail error
  match errorNumber code, text with
  | 2, _ => .notFound
  | 11, _ | 110, _ => .timedOut
  | 20, _ => .notADirectory
  | 21, _ => .isADirectory
  | 32, _ => .brokenPipe
  | 36, _ => .nameTooLong
  | 98, _ => .addressInUse
  | 99, _ => .addressUnavailable
  | 111, _ => .connectionRefused
  | 0, text => .other text
  | code, text => .other (text ++ " (os error " ++ toString code ++ ")")

def attempt {α : Type} (action : IO α) : IO (Except SystemError α) :=
  return (← action.toBaseIO).mapError systemError

/-! Files and the terminal. -/

def look (path : String) : IO PathState := do
  match ← attempt (IO.FS.readBinFile path) with
  | .ok contents => return .file contents.toList
  | .error .notFound => return .absent
  | .error .isADirectory => return .directory
  | .error reason => return .unreachable reason

/-- Whether a variable is set, and to something other than zero. -/
def switch (name : String) : IO (Option Bool) :=
  return (← IO.getEnv name).map (· != "0")

/-- Whether output can be styled: if the user forces it, or if it goes to a terminal and the user
does not mind. -/
def styled : IO Bool := do
  if (← switch "CLICOLOR_FORCE") == some true then return true
  if (← switch "NO_COLOR").isSome then return false
  return (← switch "CLICOLOR").getD true && (← (← IO.getStdout).isTty)

def noticesStyled (terminal : Bool) : IO Bool := do
  if ((← IO.getEnv "NO_COLOR").getD "") != "" then return false
  if (← switch "CLICOLOR_FORCE") == some true then return true
  return (← switch "CLICOLOR").getD true && terminal

def wallClock : IO Instant :=
  return ⟨(← Std.Time.Timestamp.now).toNanosecondsSinceUnixEpoch.val⟩

def processId : IO Nat := do
  let status ← IO.FS.readFile "/proc/self/stat"
  return ((status.splitOn " ").head?.bind String.toNat?).getD 0

def tell (notice : Notice) : IO Unit := do
  let output ← IO.getStderr
  output.putStr (noticeLine (← noticesStyled (← output.isTty)) (← wallClock) notice)

/-! Sockets. -/

def byte (n : Nat) : UInt8 := UInt8.ofNat n

def word (n : Nat) : UInt16 := UInt16.ofNat n

def socketAddress (endpoint : Net.Endpoint) : SocketAddress :=
  match endpoint.address with
  | .four a b c d => .v4 ⟨.ofParts (byte a) (byte b) (byte c) (byte d), word endpoint.port⟩
  | .six groups =>
      let part (i : Nat) : UInt16 := word (groups.getD i 0)
      .v6 ⟨.ofParts (part 0) (part 1) (part 2) (part 3) (part 4) (part 5) (part 6) (part 7),
        word endpoint.port⟩

def resolve (name : String) : IO (Except SystemError (List Net.Address)) := do
  let found ← attempt (DNS.getAddrInfo name "").block
  return found.map fun addresses =>
    addresses.toList.filterMap fun address => Net.Address.parse (toString address)

def listenAt (endpoint : Net.Endpoint) : IO (Listener × Net.Endpoint) := do
  let listener ← TCP.Socket.Server.mk
  listener.bind (socketAddress endpoint)
  listener.listen 128
  return (listener, ⟨endpoint.address, (← listener.getSockName).port.toNat⟩)

/-- Listens at the first endpoint that can be had, and says what the network looks like from
there. -/
def probe (kept : IO.Ref (Option Listener)) (network : Net.Network) :
    List Net.Endpoint → IO Net.Network
  | [] => return network
  | endpoint :: rest => do
      match ← attempt (listenAt endpoint) with
      | .ok (listener, found) =>
          kept.set (some listener)
          return if endpoint.port = 0 then { network with spare := [found.port] } else network
      | .error .addressInUse => probe kept (network.adding endpoint) rest
      | .error reason =>
          return { network with
            refusal := fun other => if other = endpoint then some reason else none }

/-- The next bytes on a stream. There are none at its end, or when the time is up. -/
def receive (stream : Stream) (patience : Option Nat) : IO (Except SystemError Bytes) := do
  let limit : UInt64 := 65536
  let received ← attempt <|
    match patience with
    | none => (stream.recv? limit).block
    | some millis => Async.block do
        let alarm ← Selector.sleep (.ofNat millis)
        Selectable.one #[
          .case (stream.recvSelector limit) fun bytes => pure bytes,
          .case alarm fun _ => throw (.timeExpired 110 "timed out")]
  return received.map fun bytes => (bytes.map ByteArray.toList).getD []

def transmit (stream : Stream) (bytes : Bytes) : IO Unit :=
  (stream.send bytes.toByteArray).block

/-! The client. -/

/-- Collects bytes until a reader wants no more, the stream ends or the time is up. -/
partial def collect (stream : Stream) (client : Client) (wantsMore : Bytes → Bool)
    (got : Bytes) : IO (Except SystemError Bytes) := do
  if !wantsMore got then return .ok got
  match ← receive stream (some client.timeout) with
  | .error reason => return .error reason
  | .ok [] => return .ok got
  | .ok more => collect stream client wantsMore (got ++ more)

def wantsMore {α : Type} (result : Except WireError α) : Bool :=
  match result with
  | .error (.io _) => true
  | _ => false

def connect (stream : Stream) (client : Client) : IO Unit :=
  let connected := stream.connect (socketAddress client.endpoint)
  (Async.race connected do
    sleep (.ofNat client.timeout)
    throw (.timeExpired 110 "connection timed out")).block

def ask (client : Client) (text : String) : IO (Except WireError (List Row)) := do
  match client.refusesToConnect with
  | some reason => return .error (.io reason)
  | none =>
      let stream ← TCP.Socket.Client.mk
      match ← attempt (connect stream client) with
      | .error reason => return .error (.io reason)
      | .ok () =>
          match ← collect stream client (fun got => wantsMore (readHeader got).1) [] with
          | .error reason => return .error (.io reason)
          | .ok greeting =>
              match Client.greet text greeting true with
              | .greeting => return .error .cut
              | .failed error => return .error error
              | .requesting request rest =>
                  match ← attempt (transmit stream request) with
                  | .error reason => return .error (.io reason)
                  | .ok () =>
                      match ← collect stream client
                          (fun got => wantsMore (client.readRows got)) rest with
                      | .error reason => return .error (.io reason)
                      | .ok reply => return client.readRows reply

/-! The server. -/

structure Shared where
  agent : Std.Mutex PlainAgent
  started : Nat
  announce : List Notice → IO Unit

namespace Shared

/-- Uses the agent, at the present time, and shows what it tells. -/
def use {α : Type} (shared : Shared) (action : PlainAgent → IO (α × PlainAgent)) : IO α :=
  shared.agent.atomically do
    let agent ← get
    let elapsed := (← IO.monoNanosNow) - shared.started
    let log := agent.monitor.log.wait (elapsed - agent.monitor.log.clock.elapsed)
    let (result, agent) ← action { agent with monitor := { agent.monitor with log } }
    shared.announce agent.notices
    set { agent with notices := [] }
    return result

def useServer {α : Type} (shared : Shared) (usual : α)
    (action : Server.Service Monitor String → IO (α × Server.Service Monitor String)) : IO α :=
  shared.use fun agent =>
    match agent.server with
    | none => return (usual, agent)
    | some loop => do
        let (result, service) ← action (agent.serviceOf loop)
        return (result, agent.update service)

def change (shared : Shared) (f : Server.Loop String → Server.Loop String) : IO Unit :=
  shared.useServer () fun service => return ((), service.moved (f service.loop) [])

end Shared

inductive Wish
  | more
  | bytes (patience : Option Nat)
  | rest

/-- One move of the loop; what it sends is sent for real, and a stream that does not take it is
one that has been cut. -/
def move (stream : Stream) (number : Nat) (service : Server.Service Monitor String) :
    IO (Wish × Server.Service Monitor String) := do
  match service.step Server.monitorHandler with
  | none =>
      match service.loop.position with
      | .reading _ => return (.bytes service.loop.options.readTimeout, service)
      | _ => return (.rest, service)
  | some next =>
      let sent := (next.sentOn number).drop (service.sentOn number).length
      if sent.isEmpty then return (.more, next)
      match ← attempt (transmit stream sent) with
      | .ok () => return (.more, next)
      | .error _ =>
          let severed := service.moved
            (service.loop.change number fun connection => { connection with cut := true }) []
          return (.more, (severed.step Server.monitorHandler).getD severed)

/-- Lets the loop serve a stream until it waits for the next one or has ended. -/
partial def attend (shared : Shared) (stream : Stream) (number : Nat) : IO Unit := do
  match ← shared.useServer .rest (move stream number) with
  | .rest => return ()
  | .more => attend shared stream number
  | .bytes patience =>
      match ← receive stream patience with
      | .ok [] => shared.change (·.finishSending number)
      | .ok more => shared.change (·.deliver number more)
      | .error .timedOut => shared.change (·.expire number)
      | .error _ => shared.change (·.finishSending number)
      attend shared stream number

partial def acceptAll (shared : Shared) (listener : Listener) : IO Unit := do
  let stream ← listener.accept.block
  let number ← shared.useServer none fun service =>
    match service.loop.connect Server.Connection.silent with
    | none => return (none, service)
    | some (number, loop) => return (some number, service.moved loop [])
  match number with
  | none => return ()
  | some number =>
      attend shared stream number
      discard <| attempt stream.shutdown.block
      let ended ← shared.useServer true fun service => return (service.loop.hasEnded, service)
      if ended then return ()
      acceptAll shared listener

/-- The bytes of the input up to the end of a line, the latest first; none at the input's end. -/
partial def nextLine (input : IO.FS.Stream) (got : Bytes) : IO Bytes := do
  match (← input.read 1).toList with
  | [] => return got
  | byte :: _ => if byte = 10 then return byte :: got else nextLine input (byte :: got)

partial def recordInput (shared : Shared) (input : IO.FS.Stream) : IO Unit := do
  let line := (← nextLine input []).reverse
  if line.isEmpty then return ()
  match ← shared.use fun agent => return recordLines agent line with
  | .error _ => return ()
  | .ok () =>
      if (byteLines line).any fun bytes => lineUse bytes = .giveUp then return ()
      recordInput shared input

def serve (kept : IO.Ref (Option Listener)) (started : Nat) (announce : List Notice → IO Unit)
    (recordsInput : Bool) (agent : PlainAgent) : IO PlainAgent := do
  let shared : Shared := ⟨← Std.Mutex.new agent, started, announce⟩
  if recordsInput then
    discard <| IO.asTask (recordInput shared (← IO.getStdin)) .dedicated
  match ← kept.get with
  | none => return agent
  | some listener =>
      acceptAll shared listener
      shared.use fun agent => return (agent, agent)

def surroundings (kept : IO.Ref (Option Listener)) (started : Nat) : Surroundings IO where
  home := return (← IO.getEnv "HOME").filter fun home => !home.isEmpty
  filter := IO.getEnv "RUST_LOG"
  styled := styled
  look := look
  write path contents := attempt (IO.FS.writeBinFile path contents.toByteArray)
  makeDirectories path := attempt (IO.FS.createDirAll path)
  print text := do
    let output ← IO.getStdout
    output.putStr text
    output.flush
  complain text := do (← IO.getStderr).putStr text
  tell := tell
  resolve := resolve
  ask := ask
  monitor := return .fresh (← processId) (.anchoredAt (← wallClock))
  network := probe kept ⟨fun _ => none, [], []⟩
  serve := serve kept started

end CallMonitor.Machine

def main (words : List String) : IO UInt32 := do
  let kept ← IO.mkRef none
  let world := CallMonitor.Machine.surroundings kept (← IO.monoNanosNow)
  return UInt32.ofNat (← CallMonitor.Cli.run world words).code
