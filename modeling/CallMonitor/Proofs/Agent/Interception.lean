import CallMonitor.Proofs.Agent.Recording

/-!
Intercepted calls that make intercepted calls. Each is recorded before the hook sees it, and runs
between the hook's two callbacks, so the calls of a tree are recorded in the order in which they
begin, and the callbacks stand around them like brackets. A refused call aborts all calls that it
is within, which have begun and do not end.
-/

namespace CallMonitor

open CallMonitor.Log

/-- An intercepted call that makes other intercepted calls: what it does to the state that it
shares with the hook before them, and what it makes of that state and of their results. -/
inductive CallTree (τ ρ : Type)
  | call (record : Call.Record) (start : τ → τ) (inner : List (CallTree τ ρ))
      (finish : τ → List ρ → ρ × τ)

namespace CallTree

variable {τ ρ : Type}

def record : CallTree τ ρ → Call.Record
  | .call record _ _ _ => record

@[simp] theorem record_call (record : Call.Record) (start : τ → τ) (inner : List (CallTree τ ρ))
    (finish : τ → List ρ → ρ × τ) : (CallTree.call record start inner finish).record = record :=
  rfl

mutual

def run (agent : Agent τ ρ) : CallTree τ ρ → Except SelfReference ρ × Agent τ ρ
  | .call record start inner finish =>
      agent.intercept record fun agent =>
        match runAll (agent.withState (start agent.hookState)) inner with
        | (.error abort, agent) => (.error abort, agent)
        | (.ok results, agent) =>
            let (result, state) := finish agent.hookState results
            (.ok result, agent.withState state)

/-- The agent intercepts calls one after the other, up to the first that aborts. -/
def runAll (agent : Agent τ ρ) :
    List (CallTree τ ρ) → Except SelfReference (List ρ) × Agent τ ρ
  | [] => (.ok [], agent)
  | first :: rest =>
      match run agent first with
      | (.error abort, agent) => (.error abort, agent)
      | (.ok result, agent) =>
          match runAll agent rest with
          | (.error abort, agent) => (.error abort, agent)
          | (.ok results, agent) => (.ok (result :: results), agent)

end

mutual

/-- The payloads of a call and of the calls in it, outer ones before inner ones. -/
def payloads : CallTree τ ρ → List String
  | .call record _ inner _ => record.payload :: payloadsAll inner

def payloadsAll : List (CallTree τ ρ) → List String
  | [] => []
  | first :: rest => payloads first ++ payloadsAll rest

end

mutual

/-- What a call gives when nothing is refused, and the state after it: the hook's callbacks stand
around the call, and what the second one leaves is the result. -/
def outcome (hook : Hook τ ρ) (state : τ) : CallTree τ ρ → ρ × τ
  | .call record start inner finish =>
      let (results, state) := outcomes hook (start (hook.beforeCall state record.payload)) inner
      let (result, state) := finish state results
      hook.afterCall state record.payload result

def outcomes (hook : Hook τ ρ) (state : τ) : List (CallTree τ ρ) → List ρ × τ
  | [] => ([], state)
  | first :: rest =>
      let (result, state) := outcome hook state first
      let (results, state) := outcomes hook state rest
      (result :: results, state)

end

mutual

theorem run_of_untagged (tree : CallTree τ ρ)
    (untagged : ∀ payload ∈ tree.payloads, ¬Tagged payload) (agent : Agent τ ρ) :
    tree.run agent = (.ok (tree.outcome agent.hook agent.hookState).1,
      (agent.logging tree.payloads).withState (tree.outcome agent.hook agent.hookState).2) := by
  cases tree with
  | call record start inner finish =>
      rw [payloads, List.forall_mem_cons] at untagged
      have calls := run_all_of_untagged inner untagged.2
      rw [run, Agent.intercept_of_untagged _ untagged.1, calls]
      simp [outcome, payloads]

theorem run_all_of_untagged (trees : List (CallTree τ ρ))
    (untagged : ∀ payload ∈ payloadsAll trees, ¬Tagged payload) (agent : Agent τ ρ) :
    runAll agent trees = (.ok (outcomes agent.hook agent.hookState trees).1,
      (agent.logging (payloadsAll trees)).withState
        (outcomes agent.hook agent.hookState trees).2) := by
  cases trees with
  | nil => simp [runAll, payloadsAll, outcomes]
  | cons first rest =>
      rw [payloadsAll, List.forall_mem_append] at untagged
      rw [runAll, run_of_untagged first untagged.1]
      simp [run_all_of_untagged rest untagged.2, payloadsAll, outcomes]

end

/-- A call that another call is made in, with the calls that are made in it before and after that
one. -/
structure Level (τ ρ : Type) where
  record : Call.Record
  start : τ → τ
  earlier : List (CallTree τ ρ)
  later : List (CallTree τ ρ)
  finish : τ → List ρ → ρ × τ

/-- A call within others, the outermost first. -/
def within : List (Level τ ρ) → CallTree τ ρ → CallTree τ ρ
  | [], tree => tree
  | level :: levels, tree =>
      .call level.record level.start (level.earlier ++ within levels tree :: level.later)
        level.finish

/-- The payloads of all calls that begin before a call within others. -/
def payloadsBefore (levels : List (Level τ ρ)) : List String :=
  levels.flatMap fun level => level.record.payload :: payloadsAll level.earlier

theorem payloads_before_cons (level : Level τ ρ) (levels : List (Level τ ρ)) :
    payloadsBefore (level :: levels) =
      level.record.payload :: (payloadsAll level.earlier ++ payloadsBefore levels) := by
  rw [payloadsBefore, List.flatMap_cons, List.cons_append, payloadsBefore]

def stateBefore (hook : Hook τ ρ) (state : τ) (levels : List (Level τ ρ)) : τ :=
  levels.foldl (fun state level =>
    (outcomes hook (level.start (hook.beforeCall state level.record.payload)) level.earlier).2)
    state

theorem state_before_cons (hook : Hook τ ρ) (state : τ) (level : Level τ ρ)
    (levels : List (Level τ ρ)) :
    stateBefore hook state (level :: levels) =
      stateBefore hook (outcomes hook
        (level.start (hook.beforeCall state level.record.payload)) level.earlier).2 levels :=
  rfl

theorem payloads_all_append (trees more : List (CallTree τ ρ)) :
    payloadsAll (trees ++ more) = payloadsAll trees ++ payloadsAll more := by
  induction trees with
  | nil => rfl
  | cons first rest ih => rw [List.cons_append, payloadsAll, payloadsAll, ih, List.append_assoc]

/-- The payloads before a call within others come first, and then its own. -/
theorem payloads_within (levels : List (Level τ ρ)) (tree : CallTree τ ρ) :
    ∃ rest, (within levels tree).payloads =
      payloadsBefore levels ++ tree.record.payload :: rest := by
  induction levels with
  | nil =>
      cases tree with
      | call record start inner finish => exact ⟨payloadsAll inner, rfl⟩
  | cons level levels ih =>
      obtain ⟨rest, split⟩ := ih
      refine ⟨rest ++ payloadsAll level.later, ?_⟩
      rw [within, payloads, payloads_all_append, payloadsAll, split, payloads_before_cons]
      simp

/-- When the earlier calls are made and the next one aborts, the later ones are not made. -/
theorem run_all_of_error {earlier : List (CallTree τ ρ)}
    (untagged : ∀ payload ∈ payloadsAll earlier, ¬Tagged payload) {agent last : Agent τ ρ}
    {first : CallTree τ ρ} {abort : SelfReference}
    (aborts : first.run ((agent.logging (payloadsAll earlier)).withState
      (outcomes agent.hook agent.hookState earlier).2) = (.error abort, last))
    (later : List (CallTree τ ρ)) :
    runAll agent (earlier ++ first :: later) = (.error abort, last) := by
  induction earlier generalizing agent with
  | nil =>
      simp only [payloadsAll, outcomes, Agent.logging_nil, Agent.with_state_self] at aborts
      rw [List.nil_append, runAll, aborts]
  | cons tree earlier ih =>
      rw [payloadsAll, List.forall_mem_append] at untagged
      rw [List.cons_append, runAll, run_of_untagged tree untagged.1]
      dsimp only
      rw [ih untagged.2]
      simpa [payloadsAll, outcomes] using aborts

theorem run_refused {tree : CallTree τ ρ} (tagged : Tagged tree.record.payload)
    (agent : Agent τ ρ) : tree.run agent = (.error ⟨tree.record.payload⟩, agent) := by
  cases tree with
  | call record start inner finish =>
      rw [record_call] at tagged ⊢
      rw [run, Agent.intercept_of_tagged _ tagged]

theorem run_of_tagged {levels : List (Level τ ρ)} {refused : CallTree τ ρ}
    (untagged : ∀ payload ∈ payloadsBefore levels, ¬Tagged payload)
    (tagged : Tagged refused.record.payload) (agent : Agent τ ρ) :
    (within levels refused).run agent = (.error ⟨refused.record.payload⟩,
      (agent.logging (payloadsBefore levels)).withState
        (stateBefore agent.hook agent.hookState levels)) := by
  induction levels generalizing agent with
  | nil =>
      rw [within, run_refused tagged]
      simp [payloadsBefore, stateBefore]
  | cons level levels ih =>
      rw [payloads_before_cons, List.forall_mem_cons, List.forall_mem_append] at untagged
      obtain ⟨own, earlier, inner⟩ := untagged
      rw [within, run, Agent.intercept_of_untagged _ own, run_all_of_error earlier (ih inner _)]
      simp [payloads_before_cons, stateBefore]

mutual

/-- Among the calls of a tree that has a tagged one there is a first tagged one. -/
theorem exists_first_tagged (tree : CallTree τ ρ)
    (tagged : ∃ payload ∈ tree.payloads, Tagged payload) :
    ∃ levels refused, tree = within levels refused ∧
      (∀ payload ∈ payloadsBefore levels, ¬Tagged payload) ∧ Tagged refused.record.payload := by
  cases tree with
  | call record start inner finish =>
      by_cases own : Tagged record.payload
      · exact ⟨[], .call record start inner finish, rfl, by simp [payloadsBefore], own⟩
      · rw [payloads, List.exists_mem_cons_iff, or_iff_right own] at tagged
        obtain ⟨earlier, later, levels, refused, split, before, inside, refusedTagged⟩ :=
          exists_first_tagged_all inner tagged
        refine ⟨⟨record, start, earlier, later, finish⟩ :: levels, refused, ?_, ?_, refusedTagged⟩
        · rw [within, split]
        · rw [payloads_before_cons, List.forall_mem_cons, List.forall_mem_append]
          exact ⟨own, before, inside⟩

theorem exists_first_tagged_all (trees : List (CallTree τ ρ))
    (tagged : ∃ payload ∈ payloadsAll trees, Tagged payload) :
    ∃ earlier later levels refused, trees = earlier ++ within levels refused :: later ∧
      (∀ payload ∈ payloadsAll earlier, ¬Tagged payload) ∧
      (∀ payload ∈ payloadsBefore levels, ¬Tagged payload) ∧
      Tagged refused.record.payload := by
  cases trees with
  | nil => simp [payloadsAll] at tagged
  | cons first rest =>
      by_cases own : ∃ payload ∈ first.payloads, Tagged payload
      · obtain ⟨levels, refused, split, before, refusedTagged⟩ := exists_first_tagged first own
        exact ⟨[], rest, levels, refused, by rw [split, List.nil_append], by simp [payloadsAll],
          before, refusedTagged⟩
      · have later : ∃ payload ∈ payloadsAll rest, Tagged payload := by
          obtain ⟨payload, member, isTagged⟩ := tagged
          rw [payloadsAll, List.mem_append] at member
          rcases member with inFirst | inRest
          · exact absurd ⟨payload, inFirst, isTagged⟩ own
          · exact ⟨payload, inRest, isTagged⟩
        obtain ⟨earlier, later, levels, refused, split, before, inside, refusedTagged⟩ :=
          exists_first_tagged_all rest later
        refine ⟨first :: earlier, later, levels, refused, ?_, ?_, inside, refusedTagged⟩
        · rw [split, List.cons_append]
        · rw [payloadsAll, List.forall_mem_append]
          exact ⟨fun payload member isTagged => own ⟨payload, member, isTagged⟩, before⟩

end

end CallTree

/-- What can be seen of intercepted calls: the hook's callbacks, and the calls themselves. -/
inductive CallEvent
  | before (payload : String)
  | begins (payload : String)
  | ends (payload : String)
  | after (payload : String)
  deriving DecidableEq, Repr

def Hook.watched {τ ρ : Type} (hook : Hook τ ρ) : Hook (τ × List CallEvent) ρ where
  onInit state packageName := (hook.onInit state.1 packageName, state.2)
  beforeCall state payload := (hook.beforeCall state.1 payload, state.2 ++ [.before payload])
  afterCall state payload result :=
    let (result, left) := hook.afterCall state.1 payload result
    (result, left, state.2 ++ [.after payload])
  onFinalize state := (hook.onFinalize state.1, state.2)

@[simp] theorem Hook.watched_before_call {τ ρ : Type} (hook : Hook τ ρ) (state : τ)
    (seen : List CallEvent) (payload : String) :
    hook.watched.beforeCall (state, seen) payload =
      (hook.beforeCall state payload, seen ++ [.before payload]) :=
  rfl

@[simp] theorem Hook.watched_after_call {τ ρ : Type} (hook : Hook τ ρ) (state : τ)
    (seen : List CallEvent) (payload : String) (result : ρ) :
    hook.watched.afterCall (state, seen) payload result =
      ((hook.afterCall state payload result).1, (hook.afterCall state payload result).2,
        seen ++ [.after payload]) :=
  rfl

def Agent.watched {τ ρ : Type} (agent : Agent τ ρ) : Agent (τ × List CallEvent) ρ :=
  agent.withHook agent.hook.watched (agent.hookState, [])

@[simp] theorem Agent.watched_hook {τ ρ : Type} (agent : Agent τ ρ) :
    agent.watched.hook = agent.hook.watched :=
  rfl

@[simp] theorem Agent.watched_hook_state {τ ρ : Type} (agent : Agent τ ρ) :
    agent.watched.hookState = (agent.hookState, []) :=
  rfl

namespace CallTree

variable {τ ρ : Type}

def noteStart (record : Call.Record) (start : τ → τ) (state : τ × List CallEvent) :
    τ × List CallEvent :=
  (start state.1, state.2 ++ [.begins record.payload])

def noteFinish (record : Call.Record) (finish : τ → List ρ → ρ × τ) (state : τ × List CallEvent)
    (results : List ρ) : ρ × τ × List CallEvent :=
  let (result, left) := finish state.1 results
  (result, left, state.2 ++ [.ends record.payload])

mutual

def watched : CallTree τ ρ → CallTree (τ × List CallEvent) ρ
  | .call record start inner finish =>
      .call record (noteStart record start) (watchedAll inner) (noteFinish record finish)

def watchedAll : List (CallTree τ ρ) → List (CallTree (τ × List CallEvent) ρ)
  | [] => []
  | first :: rest => watched first :: watchedAll rest

end

mutual

/-- The callbacks stand around the call like brackets, and so do those of the calls in it. -/
def events : CallTree τ ρ → List CallEvent
  | .call record _ inner _ =>
      [.before record.payload, .begins record.payload] ++ eventsAll inner ++
        [.ends record.payload, .after record.payload]

def eventsAll : List (CallTree τ ρ) → List CallEvent
  | [] => []
  | first :: rest => events first ++ eventsAll rest

end

/-- All that can be seen before a call within others begins. Of those others only the beginnings
are. -/
def eventsBefore (levels : List (Level τ ρ)) : List CallEvent :=
  levels.flatMap fun level =>
    [.before level.record.payload, .begins level.record.payload] ++ eventsAll level.earlier

mutual

theorem payloads_watched (tree : CallTree τ ρ) : tree.watched.payloads = tree.payloads := by
  cases tree with
  | call record start inner finish =>
      rw [watched, payloads, payloads, payloads_all_watched inner]

theorem payloads_all_watched (trees : List (CallTree τ ρ)) :
    payloadsAll (watchedAll trees) = payloadsAll trees := by
  cases trees with
  | nil => rfl
  | cons first rest =>
      rw [watchedAll, payloadsAll, payloadsAll, payloads_watched first, payloads_all_watched rest]

end

mutual

/-- Watching calls changes nothing of them, and shows their events. -/
theorem outcome_watched (tree : CallTree τ ρ) (hook : Hook τ ρ) (state : τ)
    (seen : List CallEvent) :
    tree.watched.outcome hook.watched (state, seen) =
      ((tree.outcome hook state).1, (tree.outcome hook state).2, seen ++ tree.events) := by
  cases tree with
  | call record start inner finish =>
      simp [watched, outcome, noteStart, noteFinish, outcomes_watched inner, events]

theorem outcomes_watched (trees : List (CallTree τ ρ)) (hook : Hook τ ρ) (state : τ)
    (seen : List CallEvent) :
    outcomes hook.watched (state, seen) (watchedAll trees) =
      ((outcomes hook state trees).1, (outcomes hook state trees).2, seen ++ eventsAll trees) := by
  cases trees with
  | nil => simp [watchedAll, outcomes, eventsAll]
  | cons first rest =>
      rw [watchedAll, outcomes, outcome_watched first]
      simp [outcomes_watched rest, outcomes, eventsAll]

end

@[simp] theorem record_watched (tree : CallTree τ ρ) : tree.watched.record = tree.record := by
  cases tree
  rfl

theorem watched_all_append (trees more : List (CallTree τ ρ)) :
    watchedAll (trees ++ more) = watchedAll trees ++ watchedAll more := by
  induction trees with
  | nil => rfl
  | cons first rest ih => rw [List.cons_append, watchedAll, watchedAll, ih, List.cons_append]

def Level.watched (level : Level τ ρ) : Level (τ × List CallEvent) ρ where
  record := level.record
  start := noteStart level.record level.start
  earlier := watchedAll level.earlier
  later := watchedAll level.later
  finish := noteFinish level.record level.finish

theorem watched_within (levels : List (Level τ ρ)) (tree : CallTree τ ρ) :
    (within levels tree).watched = within (levels.map Level.watched) tree.watched := by
  induction levels with
  | nil => rfl
  | cons level levels ih =>
      rw [within, watched, watched_all_append, watchedAll, ih]
      rfl

theorem payloads_before_watched (levels : List (Level τ ρ)) :
    payloadsBefore (levels.map Level.watched) = payloadsBefore levels := by
  induction levels with
  | nil => rfl
  | cons level levels ih =>
      rw [List.map_cons, payloads_before_cons, payloads_before_cons, ih, Level.watched,
        payloads_all_watched]

theorem state_before_watched (levels : List (Level τ ρ)) (hook : Hook τ ρ) (state : τ)
    (seen : List CallEvent) :
    stateBefore hook.watched (state, seen) (levels.map Level.watched) =
      (stateBefore hook state levels, seen ++ eventsBefore levels) := by
  induction levels generalizing state seen with
  | nil => simp [stateBefore, eventsBefore]
  | cons level levels ih =>
      rw [List.map_cons, state_before_cons, state_before_cons, eventsBefore, List.flatMap_cons,
        ← eventsBefore]
      simp [Level.watched, noteStart, outcomes_watched, ih]

/-- Any calls in calls, any hook, also one that replaces results, and any log before, also one whose
lock is marked. If no payload is tagged, all are logged, outer ones first; the results are what the
hook leaves of them; and the hook's callbacks stand around every call like brackets. Otherwise the
first tagged call is refused with an abort of all calls that it is within. All payloads before it
have been logged and nothing else; neither the refused call nor its first callback has begun, and
of the calls that it is within only the beginnings are seen. -/
theorem nested_calls_intercepted (tree : CallTree τ ρ) (agent : Agent τ ρ) :
    ((∀ payload ∈ tree.payloads, ¬Tagged payload) →
      ∃ result state, tree.outcome agent.hook agent.hookState = (result, state) ∧
        tree.run agent = (.ok result, (agent.logging tree.payloads).withState state) ∧
        tree.watched.run agent.watched =
          (.ok result, (agent.watched.logging tree.payloads).withState (state, tree.events))) ∧
    ((∃ payload ∈ tree.payloads, Tagged payload) →
      ∃ levels refused rest, tree = within levels refused ∧
        tree.payloads = payloadsBefore levels ++ refused.record.payload :: rest ∧
        (∀ payload ∈ payloadsBefore levels, ¬Tagged payload) ∧ Tagged refused.record.payload ∧
        ∃ state, state = stateBefore agent.hook agent.hookState levels ∧
          tree.run agent = (.error ⟨refused.record.payload⟩,
            (agent.logging (payloadsBefore levels)).withState state) ∧
          tree.watched.run agent.watched = (.error ⟨refused.record.payload⟩,
            (agent.watched.logging (payloadsBefore levels)).withState
              (state, eventsBefore levels))) := by
  constructor
  · intro untagged
    have untaggedWatched : ∀ payload ∈ tree.watched.payloads, ¬Tagged payload := by
      rw [payloads_watched]
      exact untagged
    have seen := outcome_watched tree agent.hook agent.hookState []
    have ran := run_of_untagged tree.watched untaggedWatched agent.watched
    rw [Agent.watched_hook, Agent.watched_hook_state, seen, payloads_watched] at ran
    exact ⟨_, _, rfl, run_of_untagged tree untagged agent, ran⟩
  · intro tagged
    obtain ⟨levels, refused, rfl, untagged, refusedTagged⟩ := exists_first_tagged tree tagged
    obtain ⟨rest, order⟩ := payloads_within levels refused
    have untaggedWatched : ∀ payload ∈ payloadsBefore (levels.map Level.watched),
        ¬Tagged payload := by
      rw [payloads_before_watched]
      exact untagged
    have seen := state_before_watched levels agent.hook agent.hookState []
    have ran := run_of_tagged untaggedWatched ((record_watched refused).symm ▸ refusedTagged)
      agent.watched
    rw [Agent.watched_hook, Agent.watched_hook_state, seen, payloads_before_watched,
      ← watched_within, record_watched] at ran
    exact ⟨levels, refused, rest, rfl, order, untagged, refusedTagged, _, rfl,
      run_of_tagged untagged refusedTagged agent, ran⟩

/-- A call of a method without parameters, which adds one to the results of the calls in it. -/
def counting (method : String) (inner : List (CallTree Nat Nat)) : CallTree Nat Nat :=
  .call ⟨"main", "C", method, "int", [], []⟩ id inner fun state results =>
    (results.foldl (fun total result => total + result) 1, state)

/-- An agent whose lock is marked and whose hook counts its callbacks and doubles results. -/
def doubling : Agent Nat Nat :=
  ⟨.usual, "policies", ⟨⟨7, Clock.anchoredAt ⟨0⟩, [⟨"1", "", "CallWatch_server"⟩], true⟩, .unset⟩,
    ⟨fun state _ => state, fun state _ => state + 1, fun state _ result => (2 * result, state + 1),
      id⟩, 0, none, []⟩

def quietCalls : CallTree Nat Nat := counting "f" [counting "g" [], counting "h" []]

def loudCalls : CallTree Nat Nat :=
  counting "f" [counting "g" [], counting "CallWatch_agent" [counting "h" []], counting "i" []]

/-- What is seen of the loud calls: the second inner one is refused, and neither it nor what it
would call is seen, nor the one after it, nor the end of the outer one. -/
def loudEvents : List CallEvent :=
  let outer := (counting "f" []).record.payload
  let first := (counting "g" []).record.payload
  [.before outer, .begins outer, .before first, .begins first, .ends first, .after first]

theorem loud_call_refused :
    (∀ payload ∈ quietCalls.payloads, ¬Tagged payload) ∧
    quietCalls.run doubling = (.ok 10, (doubling.logging quietCalls.payloads).withState 6) ∧
    (∃ payload ∈ loudCalls.payloads, Tagged payload) ∧
    (∃ payload before state, loudCalls.run doubling =
      (.error ⟨payload⟩, (doubling.logging before).withState state)) ∧
    (loudCalls.watched.run doubling.watched).2.hookState = (3, loudEvents) := by
  have quiet : ∀ payload ∈ quietCalls.payloads, ¬Tagged payload := by
    simp only [quietCalls, counting, payloads, payloadsAll, List.append_nil, List.cons_append,
      List.nil_append, List.forall_mem_cons, Call.Record.tagged_payload_iff]
    decide
  have loud : ∃ payload ∈ loudCalls.payloads, Tagged payload := by
    simp only [loudCalls, counting, payloads, payloadsAll, List.append_nil, List.cons_append,
      List.nil_append, List.exists_mem_cons_iff, Call.Record.tagged_payload_iff]
    decide
  have seen : (loudCalls.watched.run doubling.watched).2.hookState = (3, loudEvents) := by
    decide +kernel
  have ten : quietCalls.outcome doubling.hook doubling.hookState = (10, 6) := rfl
  obtain ⟨result, state, outcome, ran, -⟩ := (nested_calls_intercepted quietCalls doubling).1 quiet
  rw [ten, Prod.mk.injEq] at outcome
  obtain ⟨rfl, rfl⟩ := outcome
  obtain ⟨levels, refused, rest, -, -, -, -, last, -, aborted, -⟩ :=
    (nested_calls_intercepted loudCalls doubling).2 loud
  exact ⟨quiet, ran, loud, ⟨_, _, _, aborted⟩, seen⟩

end CallTree

end CallMonitor
