import CallMonitor.Proofs.Agent.Threads

/-!
One thread alone with an agent. `Agent.start`, `Agent.wait` and `Agent.shutdown` tell at once what a
call does if nobody else is calling. Each of them is a run of the host from rest to rest, in which
the thread goes through the stages of its call and the loops move on while a server is stopped. What
holds of all threads together holds therefore of the agent's own calls.
-/

namespace CallMonitor

open CallMonitor.Server

namespace Host

variable {Thread τ ρ : Type} {settings : Settings} {hook : Hook τ ρ}

theorem put_self {host : Host Thread τ} {number : Nat} {server : Instance}
    (present : host.servers[number]? = some server) :
    host.put number (host.scene server) = host := by
  have same : host.servers.modify number (fun other =>
      { other with stopper := server.stopper, loop := server.loop }) = host.servers := by
    apply List.ext_getElem?
    intro other
    rw [List.getElem?_modify]
    split
    · rename_i here
      rw [← here, present]
      rfl
    · simp
  simp only [put, scene]
  rw [same]

theorem put_put (host : Host Thread τ) (number : Nat) (scene next : Scene Monitor String) :
    (host.put number scene).put number next = host.put number next := by
  simp only [put, List.modify_modify_eq]
  rfl

theorem present_put {host : Host Thread τ} {number : Nat} {server : Instance}
    (present : host.servers[number]? = some server) (scene : Scene Monitor String) :
    (host.put number scene).servers[number]? =
      some ⟨scene.stopper, scene.service.loop, server.started⟩ := by
  simp [put, present]

/-- A host in which nobody is in a call, and the agent that a caller finds there. The server in the
place is one that nobody has begun to stop. -/
structure Shows (host : Host Thread τ) (agent : Agent τ ρ) : Prop where
  kept : Kept host
  free : ∀ thread, host.stage thread = .free
  monitor : host.monitor = agent.monitor
  notices : host.notices = agent.notices
  hookState : host.hookState = agent.hookState
  vacant : agent.server = none → host.place = none
  occupied : ∀ loop, agent.server = some loop → ∃ number started,
    host.place = some number ∧ host.servers[number]? = some ⟨.idle, loop, started⟩

namespace Shows

variable {host : Host Thread τ} {agent : Agent τ ρ}

theorem of_none (kept : Kept host) (free : ∀ thread, host.stage thread = .free)
    (monitor : host.monitor = agent.monitor) (notices : host.notices = agent.notices)
    (hookState : host.hookState = agent.hookState) (vacant : host.place = none)
    (none : agent.server = none) : Shows host agent := by
  refine ⟨kept, free, monitor, notices, hookState, fun _ => vacant, ?_⟩
  intro loop some
  rw [none] at some
  cases some

theorem of_some {number : Nat} {loop : Loop String} (kept : Kept host)
    (free : ∀ thread, host.stage thread = .free)
    (monitor : host.monitor = agent.monitor) (notices : host.notices = agent.notices)
    (hookState : host.hookState = agent.hookState) (placed : host.place = some number)
    (present : host.servers[number]? = some ⟨.idle, loop, true⟩)
    (some : agent.server = some loop) : Shows host agent := by
  refine ⟨kept, free, monitor, notices, hookState, ?_, ?_⟩
  · intro none
    rw [some] at none
    cases none
  · intro other same
    rw [some] at same
    cases same
    exact ⟨number, true, placed, present⟩

theorem create {home : Option String} {monitor : Monitor} {hookState : τ}
    (created : Agent.create settings home monitor hook hookState = .ok agent) :
    Shows (Host.opening monitor hookState : Host Thread τ) agent := by
  unfold Agent.create at created
  cases place : settings.policyPlace home with
  | error problem =>
      rw [place] at created
      cases created
  | ok policyPath =>
      rw [place] at created
      cases created
      exact .of_none (.opening monitor hookState) (fun _ => rfl) rfl rfl rfl rfl rfl

/-- Where nobody is calling, only the server in the place may listen. -/
theorem shut_of_none (shows : Shows host agent) (none : agent.server = none) {number : Nat}
    {server : Instance} (present : host.servers[number]? = some server)
    (started : server.started = true) : server.loop.listening = false := by
  rcases shows.kept.owned number server present started with placed | ⟨thread, holds⟩ | shut
  · rw [shows.vacant none] at placed
    cases placed
  · rw [shows.free] at holds
    cases holds
  · exact shut

theorem unlocked (shows : Shows host agent) : host.Unlocked := by
  intro thread old server replacing
  rw [shows.free] at replacing
  cases replacing

theorem scene_eq (shows : Shows host agent) (loop : Loop String) (started : Bool) :
    host.scene ⟨.idle, loop, started⟩ = ⟨.idle, agent.serviceOf loop⟩ := by
  rw [scene, shows.monitor, shows.notices, Agent.serviceOf]

end Shows

section Steps

variable [DecidableEq Thread]

theorem steps_of_turns {host : Host Thread τ} {number : Nat} {server : Instance}
    {movers : List Mover} {scene : Scene Monitor String}
    (present : host.servers[number]? = some server)
    (taken : ∃ thread, host.stage thread = .ending .shutdown number ∨
      ∃ new, host.stage thread = .replacing number new)
    (turns : Turns monitorHandler (host.scene server) movers scene) :
    Steps settings hook host (host.put number scene) := by
  induction turns with
  | none =>
      rw [put_self present]
  | more before turn ih =>
      rename_i scene next
      have step : Step settings hook (host.put number scene)
          ((host.put number scene).put number next) :=
        .turn (present_put present scene) turn fun _ => taken
      rw [put_put] at step
      exact ih.tail step

theorem steps_of_stop {host : Host Thread τ} {number : Nat} {server : Instance}
    {service : Service Monitor String} (present : host.servers[number]? = some server)
    (same : host.scene server = ⟨.idle, service⟩) (sound : Sound .idle service.loop)
    (taken : ∃ thread, host.stage thread = .ending .shutdown number ∨
      ∃ new, host.stage thread = .replacing number new) :
    Steps settings hook host (host.put number ⟨.returned, service.stop monitorHandler⟩) := by
  have start : Turns monitorHandler ⟨.idle, service⟩ [] ⟨.idle, service⟩ := .none
  obtain ⟨movers, turns⟩ := start.stop sound
  exact steps_of_turns present taken (same ▸ turns)

/-- The host after a thread has come to the place and taken the server out. -/
def takenBy (host : Host Thread τ) (thread : Thread) (taker : Taker) (number : Nat) :
    Host Thread τ :=
  goto { host.goto thread (.called taker) with place := none } thread (.ending taker number)

/-- The host after a start has come with a new server to the place, where another stands. -/
def replacedBy (host : Host Thread τ) (thread : Thread) (notices : List Notice)
    (loop : Loop String) (old : Nat) : Host Thread τ :=
  let bound := goto { host with
    notices, servers := host.servers ++ [⟨.idle, loop, false⟩] } thread (.bound host.servers.length)
  goto { bound with place := some host.servers.length } thread (.replacing old host.servers.length)

namespace Shows

variable {host : Host Thread τ} {agent later : Agent τ ρ}

theorem call_miss (shows : Shows host agent) (vacant : agent.server = none) (thread : Thread)
    (taker : Taker) :
    Steps agent.settings agent.hook host
      ((host.goto thread (.called taker)).goto thread taker.after) := by
  have called : Step agent.settings agent.hook host (host.goto thread (.called taker)) :=
    .call (shows.free thread) taker
  apply (Relation.ReflTransGen.single called).tail
  exact .miss (stage_goto_self ..) (shows.unlocked.goto thread (by simp)) (shows.vacant vacant)

theorem call_take (shows : Shows host agent) {number : Nat} (placed : host.place = some number)
    (thread : Thread) (taker : Taker) :
    Steps agent.settings agent.hook host (host.takenBy thread taker number) := by
  have called : Step agent.settings agent.hook host (host.goto thread (.called taker)) :=
    .call (shows.free thread) taker
  apply (Relation.ReflTransGen.single called).tail
  exact .take (stage_goto_self ..) (shows.unlocked.goto thread (by simp)) placed

theorem wait (shows : Shows host agent) (thread : Thread) {waited : Option (Loop String)}
    (returns : agent.wait = some (waited, later)) :
    ∃ after, Steps agent.settings agent.hook host after ∧ Shows after later := by
  simp only [Agent.wait, Agent.takeServer] at returns
  cases server : agent.server with
  | none =>
      rw [server] at returns
      cases returns
      have steps := shows.call_miss server thread .wait
      refine ⟨_, steps, .of_none (steps.kept shows.kept) ?_ shows.monitor shows.notices
        shows.hookState (shows.vacant server) rfl⟩
      simp [stage_goto, Taker.after, shows.free]
  | some loop =>
      rw [server] at returns
      dsimp only at returns
      split at returns
      · rename_i ended
        cases returns
        obtain ⟨number, started, placed, present⟩ := shows.occupied loop server
        have joined : Steps agent.settings agent.hook host _ :=
          (shows.call_take placed thread .wait).tail (.joined (stage_goto_self ..) present ended)
        refine ⟨_, joined, .of_none (joined.kept shows.kept) ?_ ?_ ?_ shows.hookState rfl rfl⟩
        · simp +contextual [stage_goto, put, takenBy, shows.free]
        · exact shows.monitor
        · exact congrArg (· ++ _) shows.notices
      · cases returns

theorem shutdown (shows : Shows host agent) (thread : Thread) :
    ∃ after, Steps agent.settings agent.hook host after ∧ Shows after agent.shutdown.2 := by
  simp only [Agent.shutdown, Agent.release, Agent.takeServer]
  cases server : agent.server with
  | none =>
      have missed := shows.call_miss server thread .shutdown
      have finalized : Steps agent.settings agent.hook host _ :=
        missed.tail (.finalize (stage_goto_self ..))
      refine ⟨_, finalized, .of_none (finalized.kept shows.kept) ?_ shows.monitor shows.notices
        (congrArg _ shows.hookState) (shows.vacant server) rfl⟩
      simp +contextual [stage_goto, shows.free]
  | some loop =>
      obtain ⟨number, started, placed, present⟩ := shows.occupied loop server
      have sound := shows.kept.sound number _ present
      have taken := shows.call_take placed thread .shutdown
      have there : (host.takenBy thread .shutdown number).servers[number]? =
        some ⟨.idle, loop, started⟩ := present
      have stop : Steps agent.settings agent.hook _ _ :=
        steps_of_stop there (shows.scene_eq loop started) sound
          ⟨thread, .inl (stage_goto_self ..)⟩
      have stopped : Steps agent.settings agent.hook host _ :=
        (taken.trans stop).tail (.stopped (stage_goto_self ..) (present_put there _) rfl)
      have finalized : Steps agent.settings agent.hook host _ :=
        stopped.tail (.finalize (stage_goto_self ..))
      refine ⟨_, finalized, .of_none (finalized.kept shows.kept) ?_ rfl rfl
        (congrArg _ shows.hookState) rfl rfl⟩
      simp +contextual [stage_goto, put, takenBy, shows.free]

theorem start (shows : Shows host agent) (thread : Thread) (others : Net.Network) :
    ∃ after, Steps agent.settings agent.hook host after ∧ Shows after (agent.start others).2 := by
  unfold Agent.start Agent.bindServer
  cases bound : startMonitor agent.settings.server agent.monitor.log.processId
      ⟨agent.network others, agent.notices⟩ with
  | mk result ground =>
    cases result with
    | error error =>
        have failed : Step agent.settings agent.hook host { host with notices := ground.notices } :=
          .other host.monitor ground.notices host.hookState
        exact ⟨_, .single failed, failed.kept shows.kept, shows.free, shows.monitor, rfl,
          shows.hookState, shows.vacant, shows.occupied⟩
    | ok loop =>
        rw [← shows.monitor, ← shows.notices] at bound
        have binds : Steps agent.settings agent.hook host _ :=
          .single (.bind (shows.free thread) bound)
        have unlocked := shows.unlocked.goto thread (by simp : ∀ old server,
          Stage.bound host.servers.length ≠ .replacing old server)
        cases server : agent.server with
        | none =>
            have stored : Steps agent.settings agent.hook host _ :=
              binds.tail (.store (stage_goto_self ..) unlocked (shows.vacant server))
            refine ⟨_, stored, .of_some (stored.kept shows.kept) ?_ shows.monitor rfl
              shows.hookState rfl ?_ rfl⟩
            · simp +contextual [stage_goto, markStarted, shows.free]
            · simp [goto, markStarted]
        | some old =>
            obtain ⟨number, started, placed, present⟩ := shows.occupied old server
            have sound := shows.kept.sound number _ present
            have inside := (List.getElem?_eq_some_iff.mp present).1
            have replacing : Steps agent.settings agent.hook host
                (host.replacedBy thread ground.notices loop number) :=
              binds.tail (.replace (stage_goto_self ..) unlocked placed)
            have there : (host.replacedBy thread ground.notices loop number).servers[number]? =
                some ⟨.idle, old, started⟩ :=
              (List.getElem?_append_left inside).trans present
            have same : (host.replacedBy thread ground.notices loop number).scene
                ⟨.idle, old, started⟩ = ⟨.idle, ⟨agent.monitor, old, ground.notices⟩⟩ := by
              rw [← shows.monitor]
              rfl
            have stop : Steps agent.settings agent.hook _ _ :=
              steps_of_stop there same sound ⟨thread, .inr ⟨_, stage_goto_self ..⟩⟩
            have replaced : Steps agent.settings agent.hook host _ :=
              (replacing.trans stop).tail
                (.replaced (stage_goto_self ..) (present_put there _) rfl)
            refine ⟨_, replaced, .of_some (replaced.kept shows.kept) ?_ rfl rfl
              shows.hookState rfl ?_ rfl⟩
            · simp +contextual [stage_goto, markStarted, put, replacedBy, shows.free]
            · simp [goto, markStarted, put, replacedBy, Nat.ne_of_lt inside]

theorem shutdown_closes (shows : Shows host agent) (thread : Thread) :
    ∃ after, Steps agent.settings agent.hook host after ∧ Shows after agent.shutdown.2 ∧
      ∀ (number : Nat) (server : Instance), after.servers[number]? = some server →
        server.started = true → server.loop.listening = false := by
  obtain ⟨after, steps, shows'⟩ := shows.shutdown thread
  have none : agent.shutdown.2.server = none := by
    unfold Agent.shutdown Agent.release Agent.takeServer
    cases agent.server <;> rfl
  exact ⟨after, steps, shows', fun _ _ present started => shows'.shut_of_none none present started⟩

end Shows

end Steps

end Host

end CallMonitor
