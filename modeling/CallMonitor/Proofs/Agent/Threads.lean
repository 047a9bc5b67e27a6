import CallMonitor.Agent.Basic
import CallMonitor.Proofs.Server.Starting
import CallMonitor.Proofs.Server.Stopping
import Mathlib.Data.List.Basic
import Mathlib.Logic.Relation

/-!
An agent in a host of several threads. Threads start, wait and shut down as they like, servers and
their peers go on meanwhile, and the only thing that all calls have to share is the place for the
server's handle, under its lock. A call does with the place what `Agent.installServer` and
`Agent.takeServer` do, and nothing else under the lock, except that a start which finds a server in
the place stops it before it lets go of the lock.

A shutdown reaches the server that it finds in the place. A server that a wait or another shutdown
has taken out is out of its reach: such a server may be open when the shutdown returns. This is the
only exception.
-/

namespace CallMonitor

open CallMonitor.Server

inductive Taker
  | wait
  | shutdown
  deriving DecidableEq, Repr

/-- Where a thread stands in its calls of the agent. -/
inductive Stage
  | free
  /-- In a start: a server is bound and not yet in its place. -/
  | bound (server : Nat)
  /-- In a start: the new server is in its place, and the one before is being stopped under the
  lock. -/
  | replacing (old server : Nat)
  /-- In a call that has not yet looked at the place. -/
  | called (taker : Taker)
  /-- In a call that has taken a server out of its place and sees to its end. -/
  | ending (taker : Taker) (server : Nat)
  | finalizing
  deriving DecidableEq, Repr

def Taker.after : Taker → Stage
  | .wait => .free
  | .shutdown => .finalizing

def Stage.brings : Stage → Option Nat
  | .bound server | .replacing _ server => some server
  | _ => none

/-- The server that a thread has taken out of its place. -/
def Stage.holds : Stage → Option Nat
  | .replacing server _ | .ending _ server => some server
  | _ => none

/-- A server that has been bound by some start, and how far it is stopped. -/
structure Instance where
  stopper : Stopper
  loop : Loop String
  started : Bool

/-- An agent's state, its threads, and all servers that it has had. Servers are named by the order
in which they were bound. -/
structure Host (Thread τ : Type) where
  monitor : Monitor
  notices : List Notice
  hookState : τ
  servers : List Instance
  /-- The server whose handle is in its place. -/
  place : Option Nat
  stage : Thread → Stage

namespace Host

variable {Thread τ ρ : Type}

def opening (monitor : Monitor) (hookState : τ) : Host Thread τ :=
  ⟨monitor, [], hookState, [], none, fun _ => .free⟩

/-- Nobody keeps the lock of the place. -/
def Unlocked (host : Host Thread τ) : Prop :=
  ∀ thread old server, host.stage thread ≠ .replacing old server

def scene (host : Host Thread τ) (server : Instance) : Scene Monitor String :=
  ⟨server.stopper, ⟨host.monitor, server.loop, host.notices⟩⟩

def put (host : Host Thread τ) (number : Nat) (scene : Scene Monitor String) : Host Thread τ :=
  { host with
    monitor := scene.service.state
    notices := scene.service.notices
    servers := host.servers.modify number fun server =>
      { server with stopper := scene.stopper, loop := scene.service.loop } }

def markStarted (host : Host Thread τ) (number : Nat) : Host Thread τ :=
  { host with
    servers := host.servers.modify number fun server => { server with started := true } }

/-- What holds after any steps. -/
structure Kept (host : Host Thread τ) : Prop where
  sound : ∀ (number : Nat) (server : Instance), host.servers[number]? = some server →
    Sound server.stopper server.loop
  fresh : ∀ thread number, (host.stage thread).brings = some number →
    ∃ server, host.servers[number]? = some server ∧ server.started = false
  apart : ∀ thread other number, (host.stage thread).brings = some number →
    (host.stage other).brings = some number → thread = other
  placed : ∀ thread old number, host.stage thread = .replacing old number →
    host.place = some number
  owned : ∀ (number : Nat) (server : Instance), host.servers[number]? = some server →
    server.started = true → host.place = some number ∨
      (∃ thread, (host.stage thread).holds = some number) ∨ server.loop.listening = false

theorem exists_put {host : Host Thread τ} {other : Nat} {server : Instance}
    (present : host.servers[other]? = some server) (number : Nat)
    (scene : Scene Monitor String) :
    ∃ later, (host.put number scene).servers[other]? = some later ∧
      later.started = server.started := by
  simp only [put, List.getElem?_modify, present, Option.map_eq_map, Option.map_some]
  split
  · exact ⟨_, rfl, rfl⟩
  · exact ⟨_, rfl, rfl⟩

/-- After something happened to one server, every server is that one, or what it was before. -/
theorem exists_of_put {host : Host Thread τ} {number other : Nat} {scene : Scene Monitor String}
    {later : Instance} (present : (host.put number scene).servers[other]? = some later) :
    ∃ server, host.servers[other]? = some server ∧ later.started = server.started ∧
      (number = other ∧ later.stopper = scene.stopper ∧ later.loop = scene.service.loop ∨
        later = server) := by
  simp only [put, List.getElem?_modify, Option.map_eq_map, Option.map_eq_some_iff] at present
  obtain ⟨server, before, rfl⟩ := present
  refine ⟨server, before, ?_, ?_⟩
  · split <;> rfl
  · split
    · rename_i same
      exact .inl ⟨same, rfl, rfl⟩
    · exact .inr rfl

theorem exists_mark {host : Host Thread τ} {other : Nat} {server : Instance}
    (present : host.servers[other]? = some server) (number : Nat) :
    ∃ later, (host.markStarted number).servers[other]? = some later ∧
      (server.started = true → later.started = true) := by
  simp only [markStarted, List.getElem?_modify, present, Option.map_eq_map, Option.map_some]
  split
  · exact ⟨_, rfl, fun _ => rfl⟩
  · exact ⟨_, rfl, id⟩

theorem exists_of_mark {host : Host Thread τ} {number other : Nat} {later : Instance}
    (present : (host.markStarted number).servers[other]? = some later) :
    ∃ server, host.servers[other]? = some server ∧ later.stopper = server.stopper ∧
      later.loop = server.loop ∧ (number = other ∨ later.started = server.started) := by
  simp only [markStarted, List.getElem?_modify, Option.map_eq_map, Option.map_eq_some_iff]
    at present
  obtain ⟨server, before, rfl⟩ := present
  refine ⟨server, before, ?_⟩
  split
  · rename_i same
    exact ⟨rfl, rfl, .inl same⟩
  · exact ⟨rfl, rfl, .inr rfl⟩

theorem mark_of_ne {host : Host Thread τ} {number other : Nat} (differs : number ≠ other) :
    (host.markStarted number).servers[other]? = host.servers[other]? := by
  simp [markStarted, differs]

section Steps

variable [DecidableEq Thread]

def goto (host : Host Thread τ) (thread : Thread) (stage : Stage) : Host Thread τ :=
  { host with stage := Function.update host.stage thread stage }

inductive Step (settings : Settings) (hook : Hook τ ρ) (host : Host Thread τ) :
    Host Thread τ → Prop
  /-- Calls are recorded, starts fail, contexts and hooks come in; no server is touched. -/
  | other (monitor : Monitor) (notices : List Notice) (hookState : τ) :
      Step settings hook host { host with monitor, notices, hookState }
  /-- A server makes a move, its peers do something, or it is stopped further by the thread that
  has taken it. -/
  | turn {number : Nat} {server : Instance} {mover : Mover} {scene : Scene Monitor String}
      (present : host.servers[number]? = some server)
      (turn : Turn monitorHandler mover (host.scene server) scene)
      (taken : mover = .stopper → ∃ thread, host.stage thread = .ending .shutdown number ∨
        ∃ new, host.stage thread = .replacing number new) :
      Step settings hook host (host.put number scene)
  | bind {thread : Thread} {network : Net.Network} {loop : Loop String} {ground : Ground}
      (free : host.stage thread = .free)
      (binds : startMonitor settings.server host.monitor.log.processId
        ⟨network, host.notices⟩ = (.ok loop, ground)) :
      Step settings hook host
        (goto { host with
          notices := ground.notices
          servers := host.servers ++ [⟨.idle, loop, false⟩] } thread (.bound host.servers.length))
  | store {thread : Thread} {server : Nat} (bound : host.stage thread = .bound server)
      (unlocked : host.Unlocked) (vacant : host.place = none) :
      Step settings hook host
        ((markStarted { host with place := some server } server).goto thread .free)
  | replace {thread : Thread} {old server : Nat} (bound : host.stage thread = .bound server)
      (unlocked : host.Unlocked) (occupied : host.place = some old) :
      Step settings hook host
        (goto { host with place := some server } thread (.replacing old server))
  | replaced {thread : Thread} {old number : Nat} {server : Instance}
      (replacing : host.stage thread = .replacing old number)
      (present : host.servers[old]? = some server) (stopped : server.stopper = .returned) :
      Step settings hook host ((host.markStarted number).goto thread .free)
  | call {thread : Thread} (free : host.stage thread = .free) (taker : Taker) :
      Step settings hook host (host.goto thread (.called taker))
  | miss {thread : Thread} {taker : Taker} (called : host.stage thread = .called taker)
      (unlocked : host.Unlocked) (vacant : host.place = none) :
      Step settings hook host (host.goto thread taker.after)
  | take {thread : Thread} {taker : Taker} {server : Nat}
      (called : host.stage thread = .called taker) (unlocked : host.Unlocked)
      (occupied : host.place = some server) :
      Step settings hook host
        (goto { host with place := none } thread (.ending taker server))
  | joined {thread : Thread} {number : Nat} {server : Instance}
      (waits : host.stage thread = .ending .wait number)
      (present : host.servers[number]? = some server) (ended : server.loop.hasEnded = true) :
      Step settings hook host
        ((host.put number ⟨server.stopper, (host.scene server).service.join⟩).goto thread .free)
  | stopped {thread : Thread} {number : Nat} {server : Instance}
      (stops : host.stage thread = .ending .shutdown number)
      (present : host.servers[number]? = some server) (returned : server.stopper = .returned) :
      Step settings hook host
        (goto { host with notices := host.notices ++ [.agentStopped server.loop.port] } thread
          .finalizing)
  | finalize {thread : Thread} (finalizing : host.stage thread = .finalizing) :
      Step settings hook host
        (goto { host with hookState := hook.onFinalize host.hookState } thread .free)

theorem stage_goto (host : Host Thread τ) (thread other : Thread) (stage : Stage) :
    (host.goto thread stage).stage other = if other = thread then stage else host.stage other :=
  Function.update_apply _ _ _ _

@[simp] theorem stage_goto_self (host : Host Thread τ) (thread : Thread) (stage : Stage) :
    (host.goto thread stage).stage thread = stage :=
  Function.update_self _ _ _

theorem stage_goto_of_ne {host : Host Thread τ} {thread other : Thread} (differs : other ≠ thread)
    (stage : Stage) : (host.goto thread stage).stage other = host.stage other :=
  Function.update_of_ne differs _ _

theorem replacing_of_goto {host : Host Thread τ} {thread other : Thread} {stage : Stage}
    {old new : Nat} (elsewhere : ∀ old new, stage ≠ .replacing old new)
    (replaces : (host.goto thread stage).stage other = .replacing old new) :
    host.stage other = .replacing old new := by
  rw [stage_goto] at replaces
  split at replaces
  · exact absurd replaces (elsewhere old new)
  · exact replaces

theorem goto_self (host : Host Thread τ) (thread : Thread) :
    host.goto thread (host.stage thread) = host := by
  rw [goto, Function.update_eq_self]

theorem Unlocked.goto {host : Host Thread τ} (unlocked : host.Unlocked) (thread : Thread)
    {stage : Stage} (elsewhere : ∀ old server, stage ≠ .replacing old server) :
    (host.goto thread stage).Unlocked := by
  intro other old server replaces
  exact unlocked other old server (replacing_of_goto elsewhere replaces)

end Steps

namespace Kept

variable {host : Host Thread τ} {thread : Thread} {number : Nat} {server : Instance}

theorem opening (monitor : Monitor) (hookState : τ) :
    Kept (opening monitor hookState : Host Thread τ) := by
  constructor <;> simp [Host.opening, Stage.brings]

theorem put (kept : Kept host) {scene : Scene Monitor String}
    (present : host.servers[number]? = some server)
    (sound : Sound scene.stopper scene.service.loop)
    (shut : server.loop.listening = false → scene.service.loop.listening = false) :
    Kept (host.put number scene) := by
  refine ⟨?_, ?_, kept.apart, kept.placed, ?_⟩
  · intro other later present'
    obtain ⟨before, was, -, ⟨-, stopper, loop⟩ | rfl⟩ := exists_of_put present'
    · rw [stopper, loop]
      exact sound
    · exact kept.sound other _ was
  · intro other fresh brings
    obtain ⟨before, was, unstarted⟩ := kept.fresh other fresh brings
    obtain ⟨later, present', same⟩ := exists_put was number scene
    exact ⟨later, present', same.trans unstarted⟩
  · intro other later present' started
    obtain ⟨before, was, same, changed⟩ := exists_of_put present'
    rcases kept.owned other before was (same ▸ started) with placed | held | closed
    · exact .inl placed
    · exact .inr (.inl held)
    · refine .inr (.inr ?_)
      rcases changed with ⟨rfl, -, loop⟩ | rfl
      · rw [present, Option.some.injEq] at was
        rw [loop]
        exact shut (was ▸ closed)
      · exact closed

theorem other (kept : Kept host) (monitor : Monitor) (notices : List Notice) (hookState : τ) :
    Kept { host with monitor, notices, hookState } :=
  ⟨kept.sound, kept.fresh, kept.apart, kept.placed, kept.owned⟩

variable [DecidableEq Thread]

/-- A thread goes on, and may change what is in the place; nothing that has been started gets out
of hand. -/
theorem goto (kept : Kept host) (thread : Thread) (stage : Stage) (place : Option Nat)
    (brings : stage.brings = none ∨ stage.brings = (host.stage thread).brings)
    (placed : ∀ old number, stage = .replacing old number → place = some number)
    (locked : place = host.place ∨ host.Unlocked)
    (owned : ∀ (number : Nat) (server : Instance), host.servers[number]? = some server →
      host.place = some number ∨ (host.stage thread).holds = some number →
        place = some number ∨ stage.holds = some number ∨ server.loop.listening = false) :
    Kept (Host.goto { host with place } thread stage) := by
  have before : ∀ other number,
      ((Host.goto { host with place } thread stage).stage other).brings = some number →
        (host.stage other).brings = some number := by
    intro other number found
    rw [stage_goto] at found
    split at found
    · rename_i same
      rcases brings with none | same'
      · rw [none] at found
        cases found
      · rw [same, ← same', found]
    · exact found
  refine ⟨kept.sound, ?_, ?_, ?_, ?_⟩
  · exact fun other number found => kept.fresh other number (before _ _ found)
  · exact fun one other number found found' =>
      kept.apart one other number (before _ _ found) (before _ _ found')
  · intro other old number replaces
    rw [stage_goto] at replaces
    split at replaces
    · exact placed old number replaces
    · rcases locked with same | unlocked
      · exact same.trans (kept.placed other old number replaces)
      · exact absurd replaces (unlocked other old number)
  · intro number server present started
    have here := owned number server present
    have own : stage.holds = some number →
        ∃ other, ((Host.goto { host with place } thread stage).stage other).holds =
          some number := by
      intro holds
      refine ⟨thread, ?_⟩
      rw [stage_goto_self]
      exact holds
    rcases kept.owned number server present started with before | ⟨other, holds⟩ | closed
    · rcases here (.inl before) with placed | holds | closed
      · exact .inl placed
      · exact .inr (.inl (own holds))
      · exact .inr (.inr closed)
    · by_cases same : other = thread
      · rcases here (.inr (same ▸ holds)) with placed | holds | closed
        · exact .inl placed
        · exact .inr (.inl (own holds))
        · exact .inr (.inr closed)
      · refine .inr (.inl ⟨other, ?_⟩)
        rw [stage_goto_of_ne same]
        exact holds
    · exact .inr (.inr closed)

theorem started (kept : Kept host) (brings : (host.stage thread).brings = some number)
    (placed : host.place = some number)
    (closed : ∀ (old : Nat) (server : Instance), (host.stage thread).holds = some old →
      host.servers[old]? = some server → server.loop.listening = false) :
    Kept ((host.markStarted number).goto thread .free) := by
  have before : ∀ other found,
      (((host.markStarted number).goto thread .free).stage other).brings = some found →
        other ≠ thread ∧ (host.stage other).brings = some found := by
    intro other found brings'
    rw [stage_goto] at brings'
    split at brings'
    · cases brings'
    · rename_i differs
      exact ⟨differs, brings'⟩
  refine ⟨?_, ?_, ?_, ?_, ?_⟩
  · intro other later present
    obtain ⟨server, was, stopper, loop, -⟩ := exists_of_mark present
    rw [stopper, loop]
    exact kept.sound other server was
  · intro other fresh brings'
    obtain ⟨differs, brings'⟩ := before other fresh brings'
    have elsewhere : number ≠ fresh := by
      rintro rfl
      exact differs (kept.apart other thread number brings' brings)
    obtain ⟨server, was, unstarted⟩ := kept.fresh other fresh brings'
    exact ⟨server, (mark_of_ne elsewhere).trans was, unstarted⟩
  · intro one other found brings₁ brings₂
    exact kept.apart one other found (before _ _ brings₁).2 (before _ _ brings₂).2
  · exact fun other old new replaces =>
      kept.placed other old new (replacing_of_goto (by simp) replaces)
  · intro other later present marked
    obtain ⟨server, was, -, loop, started⟩ := exists_of_mark present
    rcases started with rfl | started
    · exact .inl placed
    rcases kept.owned other server was (started ▸ marked) with inside | ⟨holder, holds⟩ | shut
    · exact .inl inside
    · by_cases same : holder = thread
      · exact .inr (.inr (loop ▸ closed other server (same ▸ holds) was))
      · exact .inr (.inl ⟨holder, (stage_goto_of_ne same .free).symm ▸ holds⟩)
    · exact .inr (.inr (loop ▸ shut))

theorem bind (kept : Kept host) (free : host.stage thread = .free) {loop : Loop String}
    (sound : Sound .idle loop) (notices : List Notice) :
    Kept (Host.goto { host with
      notices, servers := host.servers ++ [⟨.idle, loop, false⟩] } thread
        (.bound host.servers.length)) := by
  have known : ∀ {number : Nat} {server : Instance},
      (host.servers ++ [⟨.idle, loop, false⟩])[number]? = some server →
        host.servers[number]? = some server ∨ server = ⟨.idle, loop, false⟩ := by
    intro number server present
    grind
  have inside : ∀ {other number}, (host.stage other).brings = some number →
      number < host.servers.length := by
    intro other number brings
    obtain ⟨server, present, -⟩ := kept.fresh other number brings
    exact (List.getElem?_eq_some_iff.mp present).1
  -- The new server's number is above those of all that are being brought up.
  have brought : ∀ {other number}, ((Host.goto { host with
      notices, servers := host.servers ++ [⟨.idle, loop, false⟩] } thread
        (.bound host.servers.length)).stage other).brings = some number →
      other = thread ∧ number = host.servers.length ∨
        other ≠ thread ∧ (host.stage other).brings = some number := by
    intro other number brings
    rw [stage_goto] at brings
    split at brings
    · rename_i same
      cases brings
      exact .inl ⟨same, rfl⟩
    · rename_i differs
      exact .inr ⟨differs, brings⟩
  refine ⟨?_, ?_, ?_, ?_, ?_⟩
  · intro number server present
    rcases known present with present | rfl
    · exact kept.sound number server present
    · exact sound
  · intro other number brings
    rcases brought brings with ⟨-, rfl⟩ | ⟨-, brings⟩
    · exact ⟨_, List.getElem?_concat_length, rfl⟩
    · obtain ⟨server, present, unstarted⟩ := kept.fresh other number brings
      exact ⟨server, (List.getElem?_append_left (inside brings)).trans present, unstarted⟩
  · intro one other number brings brings'
    rcases brought brings with ⟨rfl, rfl⟩ | ⟨-, brings⟩
    · rcases brought brings' with ⟨same, -⟩ | ⟨-, brings'⟩
      · exact same.symm
      · exact absurd (inside brings') (Nat.lt_irrefl _)
    · rcases brought brings' with ⟨-, rfl⟩ | ⟨-, brings'⟩
      · exact absurd (inside brings) (Nat.lt_irrefl _)
      · exact kept.apart one other number brings brings'
  · exact fun other old number replaces =>
      kept.placed other old number (replacing_of_goto (by simp) replaces)
  · intro number server present started
    rcases known present with present | rfl
    · rcases kept.owned number server present started with placed | ⟨holder, holds⟩ | shut
      · exact .inl placed
      · refine .inr (.inl ⟨holder, ?_⟩)
        have other : holder ≠ thread := by
          rintro rfl
          rw [free] at holds
          cases holds
        rw [stage_goto_of_ne other]
        exact holds
      · exact .inr (.inr shut)
    · cases started

end Kept

theorem shut_of_move {loop later : Loop String} (move : Move loop later)
    (shut : loop.listening = false) : later.listening = false := by
  cases move <;> first | exact shut | rfl

/-- A loop whose listener is closed does not open it again, whatever is done to it. -/
theorem shut_of_turn {mover : Mover} {scene next : Scene Monitor String}
    (turn : Turn monitorHandler mover scene next)
    (shut : scene.service.loop.listening = false) : next.service.loop.listening = false := by
  rcases turn.loop_cases with move | untouched
  · exact shut_of_move move shut
  · rw [untouched.listening, shut]

theorem shut_of_ended {stopper : Stopper} {loop : Loop String} (sound : Sound stopper loop)
    (ended : loop.position.toEnd = 0) : loop.listening = false := by
  have listens := sound.listens
  rw [ended] at listens
  simpa using listens

theorem shut_of_returned {server : Instance} (sound : Sound server.stopper server.loop)
    (returned : server.stopper = .returned) : server.loop.listening = false :=
  shut_of_ended sound (sound.ended returned)

theorem bound_of_start {Req : Type} {settings : ServerSettings} {processId : Nat}
    {ground later : Ground} {loop : Loop Req}
    (starts : startMonitor settings processId ground = (.ok loop, later)) :
    ∃ port, loop = .bound port settings.options := by
  have ends := @start_monitor_ends Req settings processId ground
  rw [starts] at ends
  cases ends with
  | started => exact ⟨_, rfl⟩

variable [DecidableEq Thread] {settings : Settings} {hook : Hook τ ρ}

theorem Step.kept {host next : Host Thread τ} (step : Step settings hook host next)
    (kept : Kept host) : Kept next := by
  cases step with
  | other => exact kept.other _ _ _
  | turn present turn _ =>
      exact kept.put present ((kept.sound _ _ present).turn turn) (shut_of_turn turn)
  | bind free binds =>
      obtain ⟨port, rfl⟩ := bound_of_start binds
      exact kept.bind free (.bound port _) _
  | @store thread server bound unlocked vacant =>
      -- First the server comes into the place, then the start returns.
      have placed := kept.goto thread (host.stage thread) (some server) (.inr rfl)
        (by simp [bound]) (.inr unlocked) (by simp [vacant, bound, Stage.holds])
      rw [goto_self { host with place := some server } thread] at placed
      exact placed.started (by simp [bound, Stage.brings]) rfl (by simp [bound, Stage.holds])
  | @replace thread old server bound unlocked occupied =>
      apply kept.goto thread (.replacing old server) (some server)
      · exact .inr (by rw [bound]; rfl)
      · rintro _ _ ⟨⟩
        rfl
      · exact .inr unlocked
      · intro number _ _ owned
        rw [occupied, bound] at owned
        exact .inr (.inl (owned.resolve_right (by simp [Stage.holds])))
  | replaced replacing present stopped =>
      apply kept.started
      · rw [replacing]
        rfl
      · exact kept.placed _ _ _ replacing
      · intro old server holds there
        rw [replacing] at holds
        cases holds
        rw [present] at there
        cases there
        exact shut_of_returned (kept.sound _ _ present) stopped
  | @call thread free taker =>
      exact kept.goto thread (.called taker) host.place (.inl rfl) (by simp) (.inl rfl)
        (by simp +contextual [free, Stage.holds])
  | @miss thread taker called unlocked vacant =>
      have nothing : taker.after.brings = none := by cases taker <;> rfl
      have elsewhere : ∀ old number, taker.after ≠ .replacing old number := by
        cases taker <;> simp [Taker.after]
      exact kept.goto thread taker.after host.place (.inl nothing)
        (fun old number same => absurd same (elsewhere old number)) (.inl rfl)
        (by simp [vacant, called, Stage.holds])
  | @take thread taker server called unlocked occupied =>
      apply kept.goto thread (.ending taker server) none (.inl rfl) (by simp) (.inr unlocked)
      intro number _ _ owned
      rw [occupied, called] at owned
      exact .inr (.inl (owned.resolve_right (by simp [Stage.holds])))
  | @joined thread number server waits present ended =>
      have sound := kept.sound number server present
      have shut := shut_of_ended sound (Loop.has_ended_iff.mp ended)
      have noted : Sound server.stopper server.loop.join.1 :=
        ⟨sound.flagged, sound.listens, sound.runs, sound.queued, sound.met, sound.served,
          sound.woken, sound.ended⟩
      have put : Kept (host.put number ⟨server.stopper, (host.scene server).service.join⟩) :=
        kept.put present noted fun _ => shut
      apply put.goto thread .free host.place (.inl rfl) (by simp) (.inl rfl)
      rintro other later there (placed | holds)
      · exact .inl placed
      · have own : (host.stage thread).holds = some other := holds
        rw [waits] at own
        cases own
        obtain ⟨before, was, -, ⟨-, -, loop⟩ | rfl⟩ := exists_of_put there
        · rw [loop]
          exact .inr (.inr shut)
        · rw [present] at was
          cases was
          exact .inr (.inr shut)
  | @stopped thread number server stops present returned =>
      have shut := shut_of_returned (kept.sound number server present) returned
      have told := kept.other host.monitor (host.notices ++ [.agentStopped server.loop.port])
        host.hookState
      apply told.goto thread .finalizing host.place (.inl rfl) (by simp) (.inl rfl)
      rintro other later there (placed | holds)
      · exact .inl placed
      · have own : (host.stage thread).holds = some other := holds
        rw [stops] at own
        cases own
        have same : host.servers[number]? = some later := there
        rw [present] at same
        cases same
        exact .inr (.inr shut)
  | @finalize thread finalizing =>
      have told := kept.other host.monitor host.notices (hook.onFinalize host.hookState)
      exact told.goto thread .free host.place (.inl rfl) (by simp) (.inl rfl)
        (by simp +contextual [finalizing, Stage.holds])

abbrev Steps (settings : Settings) (hook : Hook τ ρ) :
    Host Thread τ → Host Thread τ → Prop :=
  Relation.ReflTransGen (Step settings hook)

theorem Steps.kept {host later : Host Thread τ} (steps : Steps settings hook host later)
    (kept : Kept host) : Kept later := by
  induction steps with
  | refl => exact kept
  | tail _ step ih => exact step.kept ih

def IsStarted (host : Host Thread τ) (number : Nat) : Prop :=
  ∃ server, host.servers[number]? = some server ∧ server.started = true

theorem IsStarted.step {host next : Host Thread τ} {number : Nat}
    (started : host.IsStarted number) (step : Step settings hook host next) :
    next.IsStarted number := by
  obtain ⟨server, present, marked⟩ := started
  have put : ∀ other scene, (host.put other scene).IsStarted number := by
    intro other scene
    obtain ⟨later, present', same⟩ := exists_put present other scene
    exact ⟨later, present', same.trans marked⟩
  have mark : ∀ other, (host.markStarted other).IsStarted number := by
    intro other
    obtain ⟨later, present', stays⟩ := exists_mark present other
    exact ⟨later, present', stays marked⟩
  cases step with
  | turn => exact put _ _
  | joined => exact put _ _
  | store => exact mark _
  | replaced => exact mark _
  | bind =>
      have inside := (List.getElem?_eq_some_iff.mp present).1
      exact ⟨server, (List.getElem?_append_left inside).trans present, marked⟩
  | _ => exact ⟨server, present, marked⟩

/-- A server comes into the place by its own start only. -/
theorem Step.place {host next : Host Thread τ} (step : Step settings hook host next) :
    next.place = host.place ∨ next.place = none ∨
      ∃ thread server, (host.stage thread).brings = some server ∧ next.place = some server := by
  cases step with
  | store bound => exact .inr (.inr ⟨_, _, by rw [bound]; rfl, rfl⟩)
  | replace bound => exact .inr (.inr ⟨_, _, by rw [bound]; rfl, rfl⟩)
  | take => exact .inr (.inl rfl)
  | _ => exact .inl rfl

/-- A server is replaced only where it was in the place. -/
theorem Step.replacing {host next : Host Thread τ} (step : Step settings hook host next)
    {thread : Thread} {old new : Nat} (replacing : next.stage thread = .replacing old new) :
    host.stage thread = .replacing old new ∨ host.place = some old := by
  cases step with
  | other | turn => exact .inl replacing
  | replace bound unlocked occupied =>
      rw [stage_goto] at replacing
      split at replacing
      · cases replacing
        exact .inr occupied
      · exact .inl replacing
  | @miss _ taker =>
      exact .inl (replacing_of_goto (by cases taker <;> simp [Taker.after]) replacing)
  | _ => exact .inl (replacing_of_goto (by simp) replacing)

/-- A call looks at the place when nobody keeps its lock, and leaves it empty. -/
theorem Step.of_called {host next : Host Thread τ} (step : Step settings hook host next)
    {thread : Thread} {taker : Taker} (called : host.stage thread = .called taker) :
    next.stage thread = .called taker ∨ next.place = none ∧ next.Unlocked := by
  -- A thread that stands elsewhere is another one.
  have stays : ∀ {other stage}, host.stage other ≠ .called taker →
      (host.goto other stage).stage thread = .called taker := by
    intro other stage elsewhere
    rw [stage_goto_of_ne]
    · exact called
    · rintro rfl
      exact elsewhere called
  cases step with
  | other | turn => exact .inl called
  | bind free => exact .inl (stays (by simp [free]))
  | store bound => exact .inl (stays (by simp [bound]))
  | replace bound => exact .inl (stays (by simp [bound]))
  | replaced replacing => exact .inl (stays (by simp [replacing]))
  | call free => exact .inl (stays (by simp [free]))
  | @miss other taker' _ unlocked vacant =>
      exact .inr ⟨vacant, unlocked.goto other (by cases taker' <;> simp [Taker.after])⟩
  | take _ unlocked _ => exact .inr ⟨rfl, Unlocked.goto unlocked _ (by simp)⟩
  | joined waits => exact .inl (stays (by simp [waits]))
  | stopped stops => exact .inl (stays (by simp [stops]))
  | finalize finalizing => exact .inl (stays (by simp [finalizing]))

/-- A shutdown has not looked at the place yet, or it has, and the server is not there and nobody
replaces it. -/
def Passed (host : Host Thread τ) (thread : Thread) (number : Nat) : Prop :=
  host.stage thread = .called .shutdown ∨
    host.place ≠ some number ∧ ∀ other new, host.stage other ≠ .replacing number new

theorem Passed.step {host next : Host Thread τ} {thread : Thread} {number : Nat}
    (passed : host.Passed thread number) (kept : Kept host) (started : host.IsStarted number)
    (step : Step settings hook host next) : next.Passed thread number := by
  rcases passed with called | ⟨absent, unreplaced⟩
  · rcases step.of_called called with called | ⟨vacant, unlocked⟩
    · exact .inl called
    · exact .inr ⟨by simp [vacant], fun other new => unlocked other number new⟩
  · refine .inr ⟨?_, ?_⟩
    · rcases step.place with same | vacant | ⟨bringer, server, brings, placed⟩
      · rwa [same]
      · simp [vacant]
      · rw [placed]
        rintro ⟨⟩
        -- What comes into the place has not been started.
        obtain ⟨fresh, present, unstarted⟩ := kept.fresh bringer number brings
        obtain ⟨server, present', marked⟩ := started
        rw [present] at present'
        cases present'
        rw [marked] at unstarted
        cases unstarted
    · intro other new replacing
      rcases step.replacing replacing with before | placed
      · exact unreplaced other new before
      · exact absent placed

/-- When a shutdown has returned, every server whose start had returned before the shutdown was
called has its listener closed, or another wait or shutdown has taken it and has not returned. -/
theorem shutdown_reaches_all_but_taken {first host : Host Thread τ} {thread : Thread}
    {number : Nat} (kept : Kept first) (called : first.stage thread = .called .shutdown)
    (started : first.IsStarted number) (steps : Steps settings hook first host)
    (returned : host.stage thread = .free) :
    ∃ server, host.servers[number]? = some server ∧
      (server.loop.listening = false ∨
        ∃ other taker, other ≠ thread ∧ host.stage other = .ending taker number) := by
  have along : Kept host ∧ host.IsStarted number ∧ host.Passed thread number := by
    clear returned
    induction steps with
    | refl => exact ⟨kept, started, .inl called⟩
    | tail _ step ih =>
        obtain ⟨kept, started, passed⟩ := ih
        exact ⟨step.kept kept, started.step step, passed.step kept started step⟩
  obtain ⟨kept, ⟨server, present, marked⟩, passed⟩ := along
  refine ⟨server, present, ?_⟩
  rcases passed with called | ⟨absent, unreplaced⟩
  · rw [returned] at called
    cases called
  rcases kept.owned number server present marked with placed | ⟨other, holds⟩ | shut
  · exact absurd placed absent
  · right
    have differs : other ≠ thread := by
      rintro rfl
      rw [returned] at holds
      cases holds
    cases stage : host.stage other with
    | replacing old new =>
        rw [stage] at holds
        cases holds
        exact absurd stage (unreplaced other new)
    | ending taker server =>
        rw [stage] at holds
        cases holds
        exact ⟨other, taker, differs, stage⟩
    | free | bound | called | finalizing =>
        rw [stage] at holds
        cases holds
  · exact .inl shut

/-- The exception is real: one thread starts a server, another waits for its end, and when the first
one's shutdown returns the server listens as before. -/
theorem waited_server_outlives_shutdown (monitor : Monitor) :
    ∃ first host : Host Bool Unit,
      Steps Settings.usual (Hook.idle : Hook Unit Unit) (opening monitor ()) first ∧
        first.stage true = .called .shutdown ∧ first.IsStarted 0 ∧
        Steps Settings.usual (Hook.idle : Hook Unit Unit) first host ∧
        host.stage true = .free ∧ host.stage false = .ending .wait 0 ∧
        ∃ server, host.servers[0]? = some server ∧ server.loop.listening = true := by
  obtain ⟨ground, binds⟩ : ∃ ground, startMonitor Settings.usual.server monitor.log.processId
      ⟨⟨fun _ => none, [], []⟩, []⟩ = (.ok (.bound 59701 Settings.usual.server.options), ground) :=
    ⟨_, rfl⟩
  have bound := Relation.ReflTransGen.single
    (@Step.bind Bool Unit Unit _ Settings.usual Hook.idle (opening monitor ()) true _ _ _ rfl binds)
  have stored := bound.tail (@Step.store _ _ _ _ _ _ _ true 0 rfl (by rintro (_ | _) _ _ ⟨⟩) rfl)
  have waits := stored.tail (@Step.call _ _ _ _ _ _ _ false rfl .wait)
  have taken := waits.tail (@Step.take _ _ _ _ _ _ _ false _ _ rfl (by rintro (_ | _) _ _ ⟨⟩) rfl)
  have called := taken.tail (@Step.call _ _ _ _ _ _ _ true rfl .shutdown)
  refine ⟨_, _, called, rfl, ⟨_, rfl, rfl⟩,
    .tail (.single (@Step.miss Bool Unit Unit _ _ _ _ true .shutdown rfl ?_ rfl))
      (@Step.finalize Bool Unit Unit _ _ _ _ true rfl), rfl, rfl, _, rfl, rfl⟩
  rintro (_ | _) _ _ ⟨⟩

end Host

end CallMonitor
