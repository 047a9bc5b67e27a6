import CallMonitor.Proofs.Server.Moves
import CallMonitor.Proofs.Server.Rest

/-!
Stopping a server. The loop, a stop and any number of peers take turns in any order; the stop never
waits for a loop that waits for somebody else, and when it has returned the port is closed.

The flag, the slot, the running flag and the connection that wakes the loop work together only
because each is looked at after the other: a connection that comes into the slot after it has been
cut would have been seen to be too late, and a loop that still comes back to accept after it has
been woken finds the connection that woke it. `Sound` says this for every pair of places at which
the loop and the stop can be.

A turn is one step on what is shared: one look at a flag, or all that is done under the slot's lock.
That the loop looks at the stop flag and fills the slot in one turn is what this lock is for. All
see the flags change in one order.
-/

namespace CallMonitor.Server

open CallMonitor.Text CallMonitor.Wire

variable {σ Req Resp : Type}

/-- Whether the slot has been cut. -/
def Stopper.hasCut : Stopper → Bool
  | .idle | .flagged => false
  | .severed | .waking | .joining | .returned => true

/-- A server and a stop of it. -/
structure Scene (σ Req : Type) where
  stopper : Stopper
  service : Service σ Req

/-- A server that has just been bound to a port, and a stop that has not begun. -/
def Scene.opening (state : σ) (port : Nat) (options : Options) (notices : List Notice) :
    Scene σ Req :=
  ⟨.idle, ⟨state, .bound port options, notices⟩⟩

inductive Mover
  | loop
  | stopper
  | peers
  deriving DecidableEq, Repr

/-- One turn. To a connection anything may happen, in whatever way its peer and the time have it,
but what has been shut down stays so: its peer sends, sends no more, takes nothing any more or
takes again, or breaks off, or its request comes to take too long. -/
inductive Turn (handler : Handler σ Req Resp) : Mover → Scene σ Req → Scene σ Req → Prop
  | loop {stopper : Stopper} {service later : Service σ Req}
      (moved : service.step handler = some later) :
      Turn handler .loop ⟨stopper, service⟩ ⟨stopper, later⟩
  | stopper {stopper next : Stopper} {service later : Service σ Req}
      (moved : stopper.step service = some (next, later)) :
      Turn handler .stopper ⟨stopper, service⟩ ⟨next, later⟩
  | connect {stopper : Stopper} {service : Service σ Req} {number : Nat} {loop : Loop Req}
      (connected : service.loop.connect Connection.silent = some (number, loop)) :
      Turn handler .peers ⟨stopper, service⟩ ⟨stopper, service.moved loop []⟩
  | change {stopper : Stopper} {service : Service σ Req} (number : Nat)
      {f : Connection → Connection}
      (lasting : ∀ connection, connection.cut = true → (f connection).cut = true) :
      Turn handler .peers ⟨stopper, service⟩
        ⟨stopper, service.moved (service.loop.change number f) []⟩

/-- Turns one after the other, with who took them. -/
inductive Turns (handler : Handler σ Req Resp) (first : Scene σ Req) :
    List Mover → Scene σ Req → Prop
  | none : Turns handler first [] first
  | more {movers : List Mover} {mover : Mover} {scene next : Scene σ Req}
      (before : Turns handler first movers scene) (turn : Turn handler mover scene next) :
      Turns handler first (movers ++ [mover]) next

/-- What the loop alone changes. -/
structure Loop.Untouched (loop later : Loop Req) : Prop where
  port : later.port = loop.port
  position : later.position = loop.position
  slot : later.slot = loop.slot
  listening : later.listening = loop.listening

theorem Loop.untouched_by_connect {loop later : Loop Req} {connection : Connection} {number : Nat}
    (connected : loop.connect connection = some (number, later)) : loop.Untouched later := by
  unfold Loop.connect at connected
  split at connected
  · cases connected
    exact ⟨rfl, rfl, rfl, rfl⟩
  · cases connected

theorem Stopper.step_untouched {stopper next : Stopper} {service later : Service σ Req}
    (moved : stopper.step service = some (next, later)) :
    service.loop.Untouched later.loop := by
  cases stopper with
  | idle | severed =>
      cases moved
      exact ⟨rfl, rfl, rfl, rfl⟩
  | flagged =>
      cases moved
      simp only [Service.moved, Loop.cutSlot]
      split <;> exact ⟨rfl, rfl, rfl, rfl⟩
  | waking =>
      cases moved
      simp only [Service.moved, Loop.knock]
      split
      · exact ⟨rfl, rfl, rfl, rfl⟩
      · rename_i connected
        exact Loop.untouched_by_connect connected
  | joining =>
      simp only [Stopper.step] at moved
      split at moved
      · cases moved
        exact ⟨rfl, rfl, rfl, rfl⟩
      · cases moved
  | returned => cases moved

/-- A turn is a move of the loop, or it leaves the loop where it is. -/
theorem Turn.loop_cases {handler : Handler σ Req Resp} {mover : Mover} {scene next : Scene σ Req}
    (turn : Turn handler mover scene next) :
    Move scene.service.loop next.service.loop ∨
      scene.service.loop.Untouched next.service.loop := by
  cases turn with
  | loop moved => exact .inl (Service.step_move moved)
  | stopper moved => exact .inr (Stopper.step_untouched moved)
  | connect connected => exact .inr (Loop.untouched_by_connect connected)
  | change => exact .inr ⟨rfl, rfl, rfl, rfl⟩

/-- What holds after any turns, of the places at which the loop and the stop are. -/
structure Sound (stopper : Stopper) (loop : Loop Req) : Prop where
  flagged : stopper ≠ .idle → loop.stopFlag = true
  -- The last move but one closes the listener, and the last lowers the running flag.
  listens : loop.listening = true ↔ 1 < loop.position.toEnd
  runs : loop.running = true ↔ 0 < loop.position.toEnd
  queued : ∀ number ∈ loop.waiting, number < loop.connections.length
  met : ∀ number, loop.position.meets = some number → number < loop.connections.length
  served : ∀ number, loop.position.serves = some number →
    number < loop.connections.length ∧ loop.slot = some number ∧
      (stopper.hasCut = true → (loop.connection number).cut = true)
  -- With more than three moves left the loop may yet come to accept.
  woken : stopper = .joining → 3 < loop.position.toEnd → loop.waiting ≠ []
  ended : stopper = .returned → loop.position.toEnd = 0

namespace Sound

variable {stopper : Stopper} {loop later : Loop Req}

theorem bound (port : Nat) (options : Options) :
    Sound .idle (Loop.bound port options : Loop Req) := by
  constructor <;> simp [Loop.bound, Position.toEnd, Position.meets, Position.serves]

theorem change (sound : Sound stopper loop) (number : Nat) {f : Connection → Connection}
    (lasting : ∀ connection, connection.cut = true → (f connection).cut = true) :
    Sound stopper (loop.change number f) := by
  have length : (loop.change number f).connections.length = loop.connections.length := by
    simp [Loop.change]
  refine ⟨sound.flagged, sound.listens, sound.runs, ?_, ?_, ?_, sound.woken, sound.ended⟩
  · rw [length]
    exact sound.queued
  · rw [length]
    exact sound.met
  · intro other serves
    obtain ⟨inside, slot, cut⟩ := sound.served other serves
    refine ⟨length ▸ inside, slot, fun has => ?_⟩
    rw [loop.connection_change]
    split
    · exact lasting _ (cut has)
    · exact cut has

theorem send (sound : Sound stopper loop) (number : Nat) (bytes : Bytes) :
    Sound stopper (loop.send number bytes) :=
  sound.change number fun _ cut => cut

theorem connect (sound : Sound stopper loop) {connection : Connection} {number : Nat}
    (connected : loop.connect connection = some (number, later)) :
    Sound stopper later ∧ later.waiting ≠ [] := by
  unfold Loop.connect at connected
  split at connected
  · cases connected
    refine ⟨⟨sound.flagged, sound.listens, sound.runs, ?_, ?_, ?_, ?_, sound.ended⟩, by simp⟩
    · intro other queued
      simp only [List.mem_append, List.mem_singleton] at queued
      rw [List.length_append]
      rcases queued with queued | rfl
      · exact Nat.lt_add_right _ (sound.queued other queued)
      · exact Nat.lt_succ_self _
    · intro other meets
      rw [List.length_append]
      exact Nat.lt_add_right _ (sound.met other meets)
    · intro other serves
      obtain ⟨inside, slot, cut⟩ := sound.served other serves
      refine ⟨?_, slot, fun has => ?_⟩
      · rw [List.length_append]
        exact Nat.lt_add_right _ inside
      · simp only [Loop.connection, List.getD_eq_getElem?_getD]
        rw [List.getElem?_append_left inside]
        simpa [Loop.connection, List.getD_eq_getElem?_getD] using cut has
    · intro _ _
      simp
  · cases connected

theorem not_returned (sound : Sound stopper loop) (moving : 0 < loop.position.toEnd) :
    stopper ≠ .returned := by
  intro returned
  have ended := sound.ended returned
  omega

/-- A move among the places at which the listener is open. -/
theorem stay (sound : Sound stopper loop) {position : Position Req}
    (opened : 1 < loop.position.toEnd) (open_after : 1 < position.toEnd)
    (met : ∀ number, position.meets = some number → number < loop.connections.length)
    (served : ∀ number, position.serves = some number → loop.position.serves = some number)
    (woken : stopper = .joining → 3 < position.toEnd → 3 < loop.position.toEnd) :
    Sound stopper (loop.goto position) := by
  refine ⟨sound.flagged, ?_, ?_, sound.queued, met, ?_, ?_, ?_⟩
  · exact iff_of_true (sound.listens.mpr opened) open_after
  · exact iff_of_true (sound.runs.mpr (by omega)) (Nat.lt_trans (by decide) open_after)
  · exact fun number serves => sound.served number (served number serves)
  · exact fun joining far => sound.woken joining (woken joining far)
  · exact fun returned => absurd returned (sound.not_returned (by omega))

theorem stay_free (sound : Sound stopper loop) {position : Position Req}
    (opened : 1 < loop.position.toEnd) (open_after : 1 < position.toEnd)
    (meets_none : position.meets = none) (serves_none : position.serves = none)
    (woken : 3 < position.toEnd → 3 < loop.position.toEnd) :
    Sound stopper (loop.goto position) := by
  apply sound.stay opened open_after
  · intro number meets
    rw [meets_none] at meets
    cases meets
  · intro number serves
    rw [serves_none] at serves
    cases serves
  · exact fun _ => woken

theorem serve (sound : Sound stopper loop) {number : Nat} {position : Position Req}
    (place : loop.position.serves = some number)
    (further : position.serves = some number ∨ ∃ result, position = .leaving result) :
    Sound stopper (loop.goto position) := by
  have far := Position.lt_to_end_of_serves place
  rcases further with serves | ⟨result, rfl⟩
  · have near := Position.lt_to_end_of_serves serves
    refine sound.stay (by omega) (by omega) ?_ ?_ (fun _ _ => by omega)
    · intro other meets
      rw [Position.to_end_of_meets meets] at near
      omega
    · intro other same
      rw [place, ← serves, same]
  · exact sound.stay_free (by omega) (by simp [Position.toEnd]) rfl rfl fun _ => by omega

theorem accept (sound : Sound stopper loop) {number : Nat} {rest : List Nat}
    (place : loop.position = .accepting) (queue : loop.waiting = number :: rest) :
    Sound stopper ({ loop with waiting := rest, position := .accepted number } : Loop Req) := by
  have four : loop.position.toEnd = 4 := by rw [place]; rfl
  have queued := sound.queued
  rw [queue] at queued
  refine ⟨sound.flagged, ?_, ?_, ?_, ?_, ?_, ?_, ?_⟩
  · exact iff_of_true (sound.listens.mpr (by omega)) (by simp [Position.toEnd])
  · exact iff_of_true (sound.runs.mpr (by omega)) (by simp [Position.toEnd])
  · exact fun other waits => queued other (List.mem_cons_of_mem _ waits)
  · intro other meets
    cases meets
    exact queued number List.mem_cons_self
  · intro other serves
    cases serves
  · intro _ far
    simp [Position.toEnd] at far
  · exact fun returned => absurd returned (sound.not_returned (by omega))

/-- A connection comes into the slot only while nobody has begun to stop the server. -/
theorem register (sound : Sound stopper loop) {number : Nat}
    (place : loop.position = .admitted number) (unstopped : loop.stopFlag = false) :
    Sound stopper
      ({ loop with slot := some number, position := .greeting number } : Loop Req) := by
  have three : loop.position.toEnd = 3 := by rw [place]; rfl
  have idle : stopper = .idle := by
    apply Decidable.byContradiction
    intro begun
    have stopped := sound.flagged begun
    rw [unstopped] at stopped
    cases stopped
  subst idle
  refine ⟨sound.flagged, ?_, ?_, sound.queued, ?_, ?_, by simp, by simp⟩
  · exact iff_of_true (sound.listens.mpr (by omega)) (by simp [Position.toEnd])
  · exact iff_of_true (sound.runs.mpr (by omega)) (by simp [Position.toEnd])
  · intro other meets
    cases meets
  · intro other serves
    cases serves
    exact ⟨sound.met number (by rw [place]; rfl), rfl, by simp [Stopper.hasCut]⟩

theorem clear (sound : Sound stopper loop) {result : Except WireError Bool}
    (place : loop.position = .leaving result) :
    Sound stopper ({ loop with slot := none, position := .deciding result } : Loop Req) := by
  have six : loop.position.toEnd = 6 := by rw [place]; rfl
  refine ⟨sound.flagged, ?_, ?_, sound.queued, ?_, ?_, ?_, ?_⟩
  · exact iff_of_true (sound.listens.mpr (by omega)) (by simp [Position.toEnd])
  · exact iff_of_true (sound.runs.mpr (by omega)) (by simp [Position.toEnd])
  · intro other meets
    cases meets
  · intro other serves
    cases serves
  · exact fun joining _ => sound.woken joining (by omega)
  · exact fun returned => absurd returned (sound.not_returned (by omega))

theorem shut (sound : Sound stopper loop) (opened : 1 < loop.position.toEnd) (abort : Bool) :
    Sound stopper ({ loop with listening := false, position := .lowering abort } : Loop Req) := by
  refine ⟨sound.flagged, ?_, ?_, sound.queued, ?_, ?_, ?_, ?_⟩
  · simp [Position.toEnd]
  · exact iff_of_true (sound.runs.mpr (by omega)) (by simp [Position.toEnd])
  · intro other meets
    cases meets
  · intro other serves
    cases serves
  · intro _ far
    simp [Position.toEnd] at far
  · exact fun returned => absurd returned (sound.not_returned (by omega))

theorem lower (sound : Sound stopper loop) {abort : Bool}
    (place : loop.position = .lowering abort) :
    Sound stopper ({ loop with
      running := false, position := if abort then .aborted else .finished } : Loop Req) := by
  have closed : loop.listening = false := by
    have listens := sound.listens
    rw [place] at listens
    simpa [Position.toEnd] using listens
  have ended : (if abort then .aborted else .finished : Position Req).toEnd = 0 := by
    cases abort <;> rfl
  refine ⟨sound.flagged, ?_, ?_, sound.queued, ?_, ?_, ?_, fun _ => ended⟩
  · simp [closed, ended]
  · simp [ended]
  · intro other meets
    cases abort <;> cases meets
  · intro other serves
    cases abort <;> cases serves
  · intro _ far
    simp [ended] at far

theorem move (sound : Sound stopper loop) (move : Move loop later) : Sound stopper later := by
  cases move with
  | accept place queue => exact sound.accept place queue
  | pass place unstopped =>
      apply sound.stay
      · simp [place, Position.toEnd]
      · simp [Position.toEnd]
      · exact fun other meets => sound.met other (by rw [place]; exact meets)
      · simp [Position.serves]
      · simp [Position.toEnd]
  | register place unstopped => exact sound.register place unstopped
  | halt place stopped =>
      have three := Position.to_end_of_meets place
      exact sound.stay_free (by omega) (by simp [Position.toEnd]) rfl rfl (by simp [Position.toEnd])
  | serve place further nearer => exact sound.serve place further
  | send place further nearer => exact (sound.send _ _).serve place further
  | abort place =>
      have far := Position.lt_to_end_of_serves place
      exact sound.shut (by omega) true
  | clear place => exact sound.clear place
  | goOn place =>
      have five : loop.position.toEnd = 5 := by rw [place]; rfl
      exact sound.stay_free (by omega) (by simp [Position.toEnd]) rfl rfl fun _ => by omega
  | giveUp place =>
      have five : loop.position.toEnd = 5 := by rw [place]; rfl
      exact sound.stay_free (by omega) (by simp [Position.toEnd]) rfl rfl fun _ => by omega
  | close place => exact sound.shut (by simp [place, Position.toEnd]) false
  | lower place => exact sound.lower place

theorem cut_of_serves (sound : Sound stopper loop) (has : stopper.hasCut = true) {number : Nat}
    (serves : loop.position.serves = some number) : (loop.connection number).cut = true := by
  obtain ⟨-, -, cut⟩ := sound.served number serves
  exact cut has

theorem onward (sound : Sound stopper loop) {next : Stopper} (begun : stopper ≠ .idle)
    (severed : next.hasCut = true →
      ∀ number, loop.position.serves = some number → (loop.connection number).cut = true)
    (woken : next = .joining → 3 < loop.position.toEnd → loop.waiting ≠ [])
    (ended : next = .returned → loop.position.toEnd = 0) : Sound next loop := by
  refine ⟨fun _ => sound.flagged begun, sound.listens, sound.runs, sound.queued, sound.met, ?_,
    woken, ended⟩
  intro number serves
  obtain ⟨inside, slot, -⟩ := sound.served number serves
  exact ⟨inside, slot, fun has => severed has number serves⟩

theorem raise_flag (sound : Sound .idle loop) : Sound .flagged loop.raiseFlag := by
  refine ⟨fun _ => rfl, sound.listens, sound.runs, sound.queued, sound.met, ?_, by simp, by simp⟩
  intro number serves
  obtain ⟨inside, slot, -⟩ := sound.served number serves
  exact ⟨inside, slot, by simp [Stopper.hasCut]⟩

/-- Whatever is served is in the slot, so it is cut with the slot. -/
theorem cut_slot (sound : Sound .flagged loop) : Sound .severed loop.cutSlot := by
  unfold Loop.cutSlot
  split
  · rename_i clear
    refine sound.onward (by decide) ?_ (by simp) (by simp)
    intro _ number serves
    obtain ⟨-, slot, -⟩ := sound.served number serves
    rw [clear] at slot
    cases slot
  · rename_i number registered
    have changed := sound.change number (f := fun connection => { connection with cut := true })
      fun _ _ => rfl
    refine changed.onward (by decide) ?_ (by simp) (by simp)
    intro _ other serves
    obtain ⟨inside, slot, -⟩ := sound.served other serves
    rw [registered] at slot
    cases slot
    rw [loop.connection_change_self inside]

/-- The connection that wakes the loop waits to be accepted, unless the listener is closed. -/
theorem knock (sound : Sound .waking loop) : Sound .joining loop.knock := by
  unfold Loop.knock
  split
  · -- Nobody listens any more, so the loop is past accepting.
    rename_i refused
    refine sound.onward (by decide) (fun _ _ => sound.cut_of_serves rfl) ?_ (by simp)
    intro _ far
    have listens := sound.listens.mpr (by omega)
    simp [Loop.connect, listens] at refused
  · rename_i later connected
    obtain ⟨sound, waiting⟩ := sound.connect connected
    exact sound.onward (by decide) (fun _ _ => sound.cut_of_serves rfl) (fun _ _ => waiting)
      (by simp)

theorem join (sound : Sound .joining loop) (ended : loop.hasEnded = true) :
    Sound .returned loop.join.1 := by
  have joined : Sound .joining loop.join.1 :=
    ⟨sound.flagged, sound.listens, sound.runs, sound.queued, sound.met, sound.served, sound.woken,
      sound.ended⟩
  exact joined.onward (by decide) (fun _ _ => joined.cut_of_serves rfl) (by simp)
    fun _ => Loop.has_ended_iff.mp ended

theorem stop {service after : Service σ Req} {next : Stopper}
    (sound : Sound stopper service.loop) (moved : stopper.step service = some (next, after)) :
    Sound next after.loop := by
  cases stopper with
  | idle =>
      cases moved
      exact sound.raise_flag
  | flagged =>
      cases moved
      exact sound.cut_slot
  | severed =>
      cases moved
      split
      · exact sound.onward (by decide) (fun _ _ => sound.cut_of_serves rfl) (by simp) (by simp)
      · -- The running flag is down: the loop has ended and need not be woken.
        rename_i halted
        refine sound.onward (by decide) (fun _ _ => sound.cut_of_serves rfl) ?_ (by simp)
        intro _ far
        exact absurd (sound.runs.mpr (by omega)) halted
  | waking =>
      cases moved
      exact sound.knock
  | joining =>
      simp only [Stopper.step] at moved
      split at moved
      · rename_i ended
        cases moved
        exact sound.join ended
      · cases moved
  | returned => cases moved

theorem turn {handler : Handler σ Req Resp} {mover : Mover} {scene next : Scene σ Req}
    (sound : Sound scene.stopper scene.service.loop) (turn : Turn handler mover scene next) :
    Sound next.stopper next.service.loop := by
  cases turn with
  | loop moved => exact sound.move (Service.step_move moved)
  | stopper moved => exact sound.stop moved
  | connect connected => exact (sound.connect connected).1
  | change number lasting => exact sound.change number lasting

end Sound

theorem Turns.sound {handler : Handler σ Req Resp} {first scene : Scene σ Req}
    {movers : List Mover} (turns : Turns handler first movers scene)
    (start : Sound first.stopper first.service.loop) :
    Sound scene.stopper scene.service.loop := by
  induction turns with
  | none => exact start
  | more before turn ih => exact ih.turn turn

/-- A stop does not wait for a loop that waits. -/
theorem Sound.not_waits {handler : Handler σ Req Resp} {service : Service σ Req}
    (sound : Sound .joining service.loop) : ¬ service.Waits handler := by
  intro waits
  have cut : ∀ {number}, service.loop.position.serves = some number →
      (service.loop.connection number).cut = true := sound.cut_of_serves rfl
  cases waits with
  | toAccept place nobody =>
      refine sound.woken rfl ?_ nobody
      simp [place, Position.toEnd]
  | toGreet place timely whole stalled =>
      rw [cut (by rw [place]; rfl)] at whole
      cases whole
  | toRead place whole pending =>
      rw [cut (by rw [place]; rfl)] at whole
      cases whole
  | toAnswer place whole stalled =>
      rw [cut (by rw [place]; rfl)] at whole
      cases whole

/-- How many moves a stop still has to make. -/
def Stopper.toEnd : Stopper → Nat
  | .returned => 0
  | .joining => 1
  | .waking => 2
  | .severed => 3
  | .flagged => 4
  | .idle => 5

theorem Stopper.to_end_le {stopper : Stopper} (begun : stopper ≠ .idle) : stopper.toEnd ≤ 4 := by
  cases stopper with
  | idle => contradiction
  | flagged | severed | waking | joining | returned => decide

/-- A move of a stop is one less to make. -/
theorem Stopper.step_nearer {stopper next : Stopper} {service later : Service σ Req}
    (moved : stopper.step service = some (next, later)) :
    next ≠ .idle ∧ next.toEnd < stopper.toEnd := by
  cases stopper with
  | idle | flagged | waking =>
      cases moved
      exact ⟨by decide, by decide⟩
  | severed =>
      cases moved
      constructor <;> split <;> decide
  | joining =>
      simp only [Stopper.step] at moved
      split at moved
      · cases moved
        exact ⟨by decide, by decide⟩
      · cases moved
  | returned => cases moved

/-- Once a stop has begun, its moves bring it nearer to its end, and those of the loop bring the
loop nearer to its own. Nobody takes them back. -/
theorem Turn.nearer {handler : Handler σ Req Resp} {mover : Mover} {scene next : Scene σ Req}
    (turn : Turn handler mover scene next) (sound : Sound scene.stopper scene.service.loop)
    (begun : scene.stopper ≠ .idle) :
    next.stopper ≠ .idle ∧
      [mover].count .loop + next.service.loop.position.toEnd ≤
        scene.service.loop.position.toEnd ∧
      [mover].count .stopper + next.stopper.toEnd ≤ scene.stopper.toEnd := by
  cases turn with
  | loop moved =>
      -- The flag is up, so the loop takes in nobody else.
      have nearer := (Service.step_move moved).nearer (sound.flagged begun)
      refine ⟨begun, ?_, Nat.le_of_eq (Nat.zero_add _)⟩
      simp only [List.count_singleton_self]
      omega
  | stopper moved =>
      obtain ⟨begun, nearer⟩ := Stopper.step_nearer moved
      refine ⟨begun, ?_, ?_⟩
      · rw [(Stopper.step_untouched moved).position]
        exact Nat.le_of_eq (Nat.zero_add _)
      · simp only [List.count_singleton_self]
        omega
  | connect connected =>
      refine ⟨begun, ?_, Nat.le_of_eq (Nat.zero_add _)⟩
      rw [Service.moved, (Loop.untouched_by_connect connected).position]
      exact Nat.le_of_eq (Nat.zero_add _)
  | change number lasting =>
      exact ⟨begun, Nat.le_of_eq (Nat.zero_add _), Nat.le_of_eq (Nat.zero_add _)⟩

theorem Turns.nearer {handler : Handler σ Req Resp} {first last : Scene σ Req}
    {movers : List Mover} (turns : Turns handler first movers last)
    (start : Sound first.stopper first.service.loop) (begun : first.stopper ≠ .idle) :
    last.stopper ≠ .idle ∧
      movers.count .loop + last.service.loop.position.toEnd ≤
        first.service.loop.position.toEnd ∧
      movers.count .stopper + last.stopper.toEnd ≤ first.stopper.toEnd := by
  induction turns with
  | none => exact ⟨begun, by simp, by simp⟩
  | more before turn ih =>
      obtain ⟨begun, loops, stops⟩ := ih
      obtain ⟨begun, loop, stop⟩ := turn.nearer (before.sound start) begun
      rw [List.count_append, List.count_append]
      exact ⟨begun, by omega, by omega⟩

theorem Turns.advance_for {handler : Handler σ Req Resp} {first : Scene σ Req} {stopper : Stopper}
    {service : Service σ Req} {movers : List Mover} (count : Nat)
    (turns : Turns handler first movers ⟨stopper, service⟩) :
    ∃ more, Turns handler first more ⟨stopper, service.advanceFor handler count⟩ := by
  induction count generalizing service movers with
  | zero => exact ⟨movers, turns⟩
  | succ count ih =>
      unfold Service.advanceFor
      cases moved : service.step handler with
      | none => exact ⟨movers, turns⟩
      | some later => exact ih (turns.more (.loop moved))

theorem Service.moved_moved (service : Service σ Req) (loop later : Loop Req) :
    (service.moved loop []).moved later [] = service.moved later [] := by
  simp [Service.moved]

/-- What `Service.stop` does are turns of the stop and of the loop, so that a stop comes to its end
if nobody but the loop goes on. -/
theorem Turns.stop {handler : Handler σ Req Resp} {first : Scene σ Req}
    {service : Service σ Req} {movers : List Mover}
    (turns : Turns handler first movers ⟨.idle, service⟩)
    (start : Sound first.stopper first.service.loop) :
    ∃ more, Turns handler first more ⟨.returned, service.stop handler⟩ := by
  have severed := (turns.more (.stopper rfl)).more (.stopper rfl)
  rw [Service.moved_moved] at severed
  have joining : ∃ more, Turns handler first more
      ⟨.joining, service.moved service.loop.raiseFlag.cutSlot.wake []⟩ := by
    change Turns handler first _ ⟨.severed, service.moved service.loop.raiseFlag.cutSlot []⟩
      at severed
    generalize service.loop.raiseFlag.cutSlot = loop at severed ⊢
    cases runs : loop.running with
    | false =>
        have seen : Turn handler .stopper ⟨.severed, service.moved loop []⟩
            ⟨.joining, service.moved loop []⟩ :=
          .stopper (by simp [Stopper.step, Service.moved, runs])
        simp only [Loop.wake, runs]
        exact ⟨_, severed.more seen⟩
    | true =>
        have seen : Turn handler .stopper ⟨.severed, service.moved loop []⟩
            ⟨.waking, service.moved loop []⟩ :=
          .stopper (by simp [Stopper.step, Service.moved, runs])
        have woken := (severed.more seen).more (.stopper rfl)
        rw [Service.moved_moved] at woken
        simp only [Loop.wake, runs]
        exact ⟨_, woken⟩
  obtain ⟨before, joining⟩ := joining
  obtain ⟨more, rested⟩ := joining.advance_for
    (service.moved service.loop.raiseFlag.cutSlot.wake []).patience
  have ended : (service.nudge handler fun loop => loop.raiseFlag.cutSlot.wake).loop.hasEnded := by
    rcases Service.step_eq_none_iff.mp (Service.advance_rests _) with waits | ended
    · exact absurd waits (rested.sound start).not_waits
    · exact ended
  refine ⟨_, rested.more (.stopper ?_)⟩
  simp only [Stopper.step]
  exact if_pos ended

theorem Stopper.step_of_underway {stopper : Stopper} (underway : stopper ≠ .returned)
    (moving : stopper ≠ .joining) (service : Service σ Req) :
    ∃ next later, stopper.step service = some (next, later) := by
  cases stopper with
  | idle => exact ⟨_, _, rfl⟩
  | flagged => exact ⟨_, _, rfl⟩
  | severed => exact ⟨_, _, rfl⟩
  | waking => exact ⟨_, _, rfl⟩
  | joining => contradiction
  | returned => contradiction

/-- Until a stop has returned, it or the loop can move, whatever the peers do. -/
theorem Sound.progress {handler : Handler σ Req Resp} {scene : Scene σ Req}
    (sound : Sound scene.stopper scene.service.loop) (underway : scene.stopper ≠ .returned) :
    ∃ mover next, mover ≠ .peers ∧ Turn handler mover scene next := by
  obtain ⟨stopper, service⟩ := scene
  by_cases joining : stopper = .joining
  · subst joining
    cases moved : service.step handler with
    | some later => exact ⟨.loop, _, by decide, .loop moved⟩
    | none =>
        have ended := (Service.step_eq_none_iff.mp moved).resolve_left sound.not_waits
        exact ⟨.stopper, _, by decide, .stopper (if_pos ended)⟩
  · obtain ⟨next, later, moved⟩ := Stopper.step_of_underway underway joining service
    exact ⟨.stopper, _, by decide, .stopper moved⟩

/-- A server, one stop of it and any number of peers, who take turns in any order, from the server's
start on. Whenever the stop waits for the loop's end, the loop waits for nobody. Until the stop has
returned, it or the loop can move without the peers; once it has begun, the loop makes at most ten
moves more, and the stop at most four. When it has returned, the loop has lowered the running flag
and closed the listener. -/
theorem stop_never_hangs (handler : Handler σ Req Resp) (state : σ) (port : Nat)
    (options : Options) (notices : List Notice) {movers : List Mover} {scene : Scene σ Req}
    (turns : Turns handler (.opening state port options notices) movers scene) :
    (scene.stopper = .joining → ¬ scene.service.Waits handler) ∧
      (scene.stopper ≠ .returned →
        ∃ mover next, mover ≠ .peers ∧ Turn handler mover scene next) ∧
      (scene.stopper ≠ .idle → ∀ more last, Turns handler scene more last →
        more.count .loop ≤ 10 ∧ more.count .stopper ≤ 4) ∧
      (scene.stopper = .returned →
        scene.service.loop.running = false ∧ scene.service.loop.listening = false) := by
  have sound : Sound scene.stopper scene.service.loop := turns.sound (.bound port options)
  refine ⟨?_, sound.progress, ?_, ?_⟩
  · intro joining
    rw [joining] at sound
    exact sound.not_waits
  · intro begun more last later
    obtain ⟨-, loops, stops⟩ := later.nearer sound begun
    have ten := scene.service.loop.position.to_end_le
    have four := Stopper.to_end_le begun
    exact ⟨by omega, by omega⟩
  · intro returned
    have ended := sound.ended returned
    have runs := sound.runs
    have listens := sound.listens
    rw [ended] at runs listens
    exact ⟨by simpa using runs, by simpa using listens⟩

/-- The tally with a peer that has got the header and sends nothing: a stop that waits for the end
of the loop while the loop would read, and the same stop when the loop has ended. -/
theorem stop_of_silent_peer :
    ∃ movers more waiting returned,
      Turns tally (.opening 0 80 patientOptions []) movers waiting ∧
        Turns tally (.opening 0 80 patientOptions []) more returned ∧
        waiting.stopper = .joining ∧ waiting.service.loop.position = .reading 0 ∧
        ¬ waiting.service.Waits tally ∧
        returned.stopper = .returned ∧ returned.service.loop.listening = false := by
  have opened : Turns tally (.opening 0 80 patientOptions []) []
      (.opening 0 80 patientOptions []) := .none
  have accepted := ((opened.more (.connect rfl)).more (.loop rfl)).more (.loop rfl)
  have greeted := (accepted.more (.loop rfl)).more (.loop rfl)
  have severed := (greeted.more (.stopper rfl)).more (.stopper rfl)
  have joining := (severed.more (.stopper rfl)).more (.stopper rfl)
  have failed := (joining.more (.loop rfl)).more (.loop rfl)
  have ended := ((failed.more (.loop rfl)).more (.loop rfl)).more (.loop rfl)
  have returned := ended.more (.stopper rfl)
  obtain ⟨sure, -⟩ := stop_never_hangs tally 0 80 patientOptions [] joining
  obtain ⟨-, -, -, closed⟩ := stop_never_hangs tally 0 80 patientOptions [] returned
  exact ⟨_, _, _, _, joining, returned, rfl, rfl, sure rfl, rfl, (closed rfl).2⟩

end CallMonitor.Server
