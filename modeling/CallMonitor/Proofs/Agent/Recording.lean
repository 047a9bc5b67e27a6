import CallMonitor.Agent.Basic
import CallMonitor.Proofs.Call.Words

/-!
What an agent makes of a payload. A tagged one is refused and leaves the agent as it was; any other
is put at the end of the log. Main statement: a call is refused exactly if one of its parts is
tagged by itself.
-/

namespace CallMonitor.Agent

open CallMonitor.Log

variable {τ ρ : Type}

/-- The agent with more payloads in its log, stamped with the time of its clock. -/
def logging (agent : Agent τ ρ) (payloads : List String) : Agent τ ρ :=
  { agent with
    monitor := { agent.monitor with
      log := { agent.monitor.log with
        entries := agent.monitor.log.entries ++ payloads.map agent.monitor.log.stamp } } }

def withState (agent : Agent τ ρ) (state : τ) : Agent τ ρ := { agent with hookState := state }

section Logging

variable (agent : Agent τ ρ) (payloads more : List String) (state later : τ)

@[simp] theorem logging_nil : agent.logging [] = agent := by
  rw [logging, List.map_nil, List.append_nil]

@[simp] theorem logging_logging :
    (agent.logging payloads).logging more = agent.logging (payloads ++ more) := by
  simp only [logging, List.map_append, List.append_assoc]
  rfl

@[simp] theorem logging_hook : (agent.logging payloads).hook = agent.hook := rfl

@[simp] theorem logging_hook_state : (agent.logging payloads).hookState = agent.hookState := rfl

@[simp] theorem with_state_hook : (agent.withState state).hook = agent.hook := rfl

@[simp] theorem with_state_hook_state : (agent.withState state).hookState = state := rfl

@[simp] theorem with_state_self : agent.withState agent.hookState = agent := rfl

@[simp] theorem with_state_with_state :
    (agent.withState state).withState later = agent.withState later := rfl

@[simp] theorem logging_with_state :
    (agent.withState state).logging payloads = (agent.logging payloads).withState state := rfl

end Logging

theorem record_of_tagged {payload : String} (tagged : Tagged payload) (agent : Agent τ ρ) :
    agent.record payload = (.error ⟨payload⟩, agent) := by
  have refused : checkPayload payload = .error ⟨payload⟩ :=
    (check_payload_eq_error_iff payload ⟨payload⟩).mpr ⟨tagged, rfl⟩
  rw [record, Buffer.record, refused]
  rfl

theorem record_of_untagged {payload : String} (untagged : ¬Tagged payload) (agent : Agent τ ρ) :
    agent.record payload = (.ok (), agent.logging [payload]) := by
  have accepted : checkPayload payload = .ok () := by
    rw [checkPayload, (is_tagged_eq_false_iff payload).mpr untagged]
    rfl
  rw [record, Buffer.record, accepted]
  simp [logging, Buffer.append, Except.map]

variable {record : Call.Record} (call : Agent τ ρ → Except SelfReference ρ × Agent τ ρ)

theorem intercept_of_tagged (tagged : Tagged record.payload) (agent : Agent τ ρ) :
    agent.intercept record call = (.error ⟨record.payload⟩, agent) := by
  rw [intercept, record_of_tagged tagged]

/-- An untagged call is logged before the hook sees it, and the hook sees its result. -/
theorem intercept_of_untagged (untagged : ¬Tagged record.payload) (agent : Agent τ ρ) :
    agent.intercept record call =
      match call ((agent.logging [record.payload]).withState
          (agent.hook.beforeCall agent.hookState record.payload)) with
      | (.error abort, agent) => (.error abort, agent)
      | (.ok result, agent) =>
          let (result, state) := agent.hook.afterCall agent.hookState record.payload result
          (.ok result, agent.withState state) := by
  rw [intercept, record_of_untagged untagged]
  rfl

/-- Any call and any agent. A reserved tag stands in the call's line exactly if it stands in one of
the call's parts; and exactly then the agent refuses to record the call, and intercepts it by
aborting at once, whatever the call would have done, and stays as it was. -/
theorem refused_by_single_part (record : Call.Record) (agent : Agent τ ρ) :
    (serverTag.toList <:+: record.payload.toList ↔
      ∃ part ∈ record.parts, serverTag.toList <:+: part.toList) ∧
    (agentTag.toList <:+: record.payload.toList ↔
      ∃ part ∈ record.parts, agentTag.toList <:+: part.toList) ∧
    ((∃ abort, (agent.record record.payload).1 = .error abort) ↔
      ∃ part ∈ record.parts, Tagged part) ∧
    ((∀ call, agent.intercept record call = (.error ⟨record.payload⟩, agent)) ↔
      ∃ part ∈ record.parts, Tagged part) := by
  refine ⟨record.server_tag_in_payload_iff, record.agent_tag_in_payload_iff, ?_, ?_⟩
  · rw [← record.tagged_payload_iff]
    constructor
    · rintro ⟨abort, refused⟩
      by_contra untagged
      rw [record_of_untagged untagged] at refused
      cases refused
    · intro tagged
      exact ⟨⟨record.payload⟩, by rw [record_of_tagged tagged]⟩
  · rw [← record.tagged_payload_iff]
    constructor
    · intro refused
      by_contra untagged
      -- A call that aborts by itself is still seen in the log.
      have logged := refused fun agent => (.error ⟨record.payload⟩, agent)
      rw [intercept_of_untagged _ untagged] at logged
      have entries := congrArg (fun ended => ended.2.monitor.log.entries.length) logged
      simp [logging, withState] at entries
    · intro tagged call
      exact intercept_of_tagged call tagged agent

end CallMonitor.Agent
