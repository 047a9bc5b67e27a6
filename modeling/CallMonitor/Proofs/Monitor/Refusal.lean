import CallMonitor.Proofs.Log.Tags
import CallMonitor.Proofs.Monitor.Answering
import CallMonitor.Proofs.Monitor.Conservation

/-!
When a step on a monitor aborts, and what an abort leaves behind. A step aborts exactly on the
payload that it offers to the log, or on the first tagged entry if it hands entries out or shows
that the monitor is alive. An abort changes no entry. All it leaves is a mark on the lock, which no
later step can tell.
-/

namespace CallMonitor.Monitor

open CallMonitor.Log CallMonitor.Wire

/-- Steps that look at the payloads of all entries. -/
inductive Action.Inspects : Action → Prop
  | drain : Inspects .drain
  | answer {token : String} (asked : token = "checkConnection" ∨ token = "getLogs") :
      Inspects (.answer token)
  | exchange {token : String} (asked : token = "checkConnection" ∨ token = "getLogs") :
      Inspects (.exchange token)

/-- A step must not go through because of a payload: it offers the payload to the log, or comes
upon it first when it looks at the entries. -/
inductive Refuses (monitor : Monitor) : Action → String → Prop
  | offered {action : Action} {payload : String} (offered : action.offered? = some payload)
      (tagged : Tagged payload) : Refuses monitor action payload
  | held {action : Action} {entry : Entry} (inspects : action.Inspects)
      (first : FirstTagged monitor.log.entries entry) : Refuses monitor action entry.payload

theorem refuses_of_offered {action : Action} {given : String}
    (offered : action.offered? = some given) (monitor : Monitor) (payload : String) :
    monitor.Refuses action payload ↔ Tagged given ∧ payload = given := by
  constructor
  · intro refuses
    cases refuses with
    | offered same tagged =>
        obtain rfl := Option.some.inj (offered.symm.trans same)
        exact ⟨tagged, rfl⟩
    | held inspects first => cases inspects <;> cases offered
  · rintro ⟨tagged, rfl⟩
    exact .offered offered tagged

theorem refuses_of_inspects {action : Action} (inspects : action.Inspects) (monitor : Monitor)
    (payload : String) :
    monitor.Refuses action payload ↔
      ∃ entry, FirstTagged monitor.log.entries entry ∧ payload = entry.payload := by
  constructor
  · intro refuses
    cases refuses with
    | offered given tagged => cases inspects <;> cases given
    | held _ first => exact ⟨_, first, rfl⟩
  · rintro ⟨entry, first, rfl⟩
    exact .held inspects first

theorem of_token_inspects_iff (token : String) :
    (Command.ofToken? token = some .checkConnection ∨ Command.ofToken? token = some .getLogs) ↔
      token = "checkConnection" ∨ token = "getLogs" := by
  constructor
  · rintro (found | found)
    · exact .inl (Command.token_of_of_token found).symm
    · exact .inr (Command.token_of_of_token found).symm
  · rintro (rfl | rfl)
    · exact .inl (Command.of_token_token .checkConnection)
    · exact .inr (Command.of_token_token .getLogs)

/-- An answer aborts exactly if the token has the monitor look at the entries, and the check of
these fails. -/
theorem answer_eq_error_iff (monitor : Monitor) (token : String) (abort : SelfReference) :
    (monitor.answer token).outcome = .error abort ↔
      (token = "checkConnection" ∨ token = "getLogs") ∧
        checkEntries monitor.log.entries = .error abort := by
  rw [← of_token_inspects_iff, answer]
  cases Command.ofToken? token with
  | none => simp
  | some command =>
      cases command with
      | checkConnection =>
          rw [Buffer.locked_eq_entries]
          cases checkEntries monitor.log.entries <;> simp
      | getLogs =>
          rw [Buffer.drain, Buffer.locked_eq_entries]
          cases checkEntries monitor.log.entries <;> simp
      | getTime => simp
      | close => simp

theorem map_eq_error_iff {α β : Type} (f : α → β) (outcome : Except SelfReference α)
    (abort : SelfReference) : outcome.map f = .error abort ↔ outcome = .error abort := by
  cases outcome <;> simp [Except.map]

theorem not_refuses {action : Action} (silent : action.offered? = none)
    (blind : ¬action.Inspects) (monitor : Monitor) (payload : String) :
    ¬monitor.Refuses action payload := by
  intro refuses
  cases refuses with
  | offered given _ => exact absurd (silent.symm.trans given) (by simp)
  | held inspects _ => exact blind inspects

theorem inspects_answer_iff (token : String) :
    (Action.answer token).Inspects ↔ token = "checkConnection" ∨ token = "getLogs" := by
  constructor
  · rintro ⟨⟩
    assumption
  · exact .answer

theorem inspects_exchange_iff (token : String) :
    (Action.exchange token).Inspects ↔ token = "checkConnection" ∨ token = "getLogs" := by
  constructor
  · rintro ⟨⟩
    assumption
  · exact .exchange

/-- What holds of both ways to have a token answered. -/
theorem answer_eq_error_iff_refuses {action : Action} {token : String}
    (silent : action.offered? = none)
    (inspects : action.Inspects ↔ token = "checkConnection" ∨ token = "getLogs")
    (monitor : Monitor) (abort : SelfReference) :
    (monitor.answer token).outcome = .error abort ↔ monitor.Refuses action abort.payload := by
  rw [answer_eq_error_iff, ← inspects, check_entries_eq_error_iff]
  by_cases sees : action.Inspects
  · simp only [sees, true_and, refuses_of_inspects sees]
  · simp only [sees, false_and, not_refuses silent sees]

/-- A step aborts exactly on the payload because of which it must not go through. -/
theorem perform_eq_error_iff (monitor : Monitor) (action : Action) (abort : SelfReference) :
    (monitor.perform action).outcome = .error abort ↔ monitor.Refuses action abort.payload := by
  cases action with
  | record payload =>
      rw [refuses_of_offered rfl, ← check_payload_eq_error_iff, perform, onLog, map_eq_error_iff,
        Buffer.record]
      cases checkPayload payload <;> simp
  | push entry =>
      rw [refuses_of_offered rfl, ← check_payload_eq_error_iff, perform, onLog, map_eq_error_iff,
        Buffer.push]
      cases checkPayload entry.payload <;> simp
  | drain =>
      rw [refuses_of_inspects .drain, ← check_entries_eq_error_iff, perform, onLog,
        map_eq_error_iff, Buffer.drain, Buffer.locked_eq_entries]
      cases checkEntries monitor.log.entries <;> simp
  | answer token =>
      rw [perform, ofReply, map_eq_error_iff]
      exact answer_eq_error_iff_refuses rfl (inspects_answer_iff token) monitor abort
  | exchange token =>
      rw [perform, ofReply, map_eq_error_iff]
      exact answer_eq_error_iff_refuses rfl (inspects_exchange_iff token) monitor abort
  | wait _ | append _ | clear | snapshot | isEmpty | size | asksToClose _ | setPackage _ =>
      simp only [perform, reduceCtorEq, false_iff]
      apply not_refuses rfl
      rintro ⟨⟩

/-- Monitors that differ at most in the mark on the lock. -/
structure Alike (first second : Monitor) : Prop where
  processId : first.log.processId = second.log.processId
  clock : first.log.clock = second.log.clock
  entries : first.log.entries = second.log.entries
  context : first.context = second.context

/-- Steps that return the same, tell the same, and leave monitors that are alike. -/
structure Done.Alike (first second : Done) : Prop where
  outcome : first.outcome = second.outcome
  notices : first.notices = second.notices
  monitor : first.monitor.Alike second.monitor

theorem answer_alike {first second : Monitor} (alike : first.Alike second) (token : String) :
    (first.answer token).outcome = (second.answer token).outcome ∧
      (first.answer token).notices = (second.answer token).notices ∧
      (first.answer token).monitor.Alike (second.answer token).monitor := by
  obtain ⟨⟨processId, clock, entries, mark⟩, context⟩ := first
  obtain ⟨⟨_, _, _, mark'⟩, _⟩ := second
  obtain ⟨rfl, rfl, rfl, rfl⟩ := alike
  simp only [answer, Buffer.drain, Buffer.locked_eq_entries]
  cases Command.ofToken? token with
  | none => exact ⟨rfl, rfl, rfl, rfl, rfl, rfl⟩
  | some command =>
      cases command with
      | checkConnection =>
          cases checkEntries entries <;> exact ⟨rfl, rfl, rfl, rfl, rfl, rfl⟩
      | getLogs => cases checkEntries entries <;> exact ⟨rfl, rfl, rfl, rfl, rfl, rfl⟩
      | getTime => exact ⟨rfl, rfl, rfl, rfl, rfl, rfl⟩
      | close => exact ⟨rfl, rfl, rfl, rfl, rfl, rfl⟩

theorem perform_alike {first second : Monitor} (alike : first.Alike second) (action : Action) :
    (first.perform action).Alike (second.perform action) := by
  have answers := answer_alike alike
  obtain ⟨⟨processId, clock, entries, mark⟩, context⟩ := first
  obtain ⟨⟨_, _, _, mark'⟩, _⟩ := second
  obtain ⟨rfl, rfl, rfl, rfl⟩ := alike
  cases action with
  | record payload =>
      simp only [perform, onLog, Buffer.record, Buffer.append, Buffer.locked_eq_entries]
      cases checkPayload payload <;> exact ⟨rfl, rfl, rfl, rfl, rfl, rfl⟩
  | push entry =>
      simp only [perform, onLog, Buffer.push, Buffer.append, Buffer.locked_eq_entries]
      cases checkPayload entry.payload <;> exact ⟨rfl, rfl, rfl, rfl, rfl, rfl⟩
  | drain =>
      simp only [perform, onLog, Buffer.drain, Buffer.locked_eq_entries]
      cases checkEntries entries <;> exact ⟨rfl, rfl, rfl, rfl, rfl, rfl⟩
  | answer token | exchange token =>
      obtain ⟨outcome, notices, monitor⟩ := answers token
      exact ⟨congrArg (Except.map _) outcome, notices, monitor⟩
  | append _ | clear | wait _ | setPackage _ | snapshot | isEmpty | size | asksToClose _ =>
      simp only [perform, Buffer.append, Buffer.snapshot, Buffer.isEmpty, Buffer.size,
        Buffer.locked_eq_entries]
      exact ⟨rfl, rfl, rfl, rfl, rfl, rfl⟩

theorem perform_all_alike {first second : Monitor} (alike : first.Alike second)
    (actions : List Action) :
    List.Forall₂ Done.Alike (first.performAll actions) (second.performAll actions) := by
  induction actions generalizing first second with
  | nil => exact .nil
  | cons action rest ih =>
      have step := perform_alike alike action
      exact .cons step (ih step.monitor)

theorem answer_of_error {monitor : Monitor} {token : String} {abort : SelfReference}
    (aborted : (monitor.answer token).outcome = .error abort) :
    (monitor.answer token).monitor.Alike monitor ∧ (monitor.answer token).notices = [] := by
  obtain ⟨asked, failed⟩ := (monitor.answer_eq_error_iff token abort).mp aborted
  rw [← of_token_inspects_iff] at asked
  rw [answer]
  rcases asked with found | found
  · rw [found, Buffer.locked_eq_entries, failed]
    exact ⟨⟨rfl, rfl, rfl, rfl⟩, rfl⟩
  · rw [found, Buffer.drain, Buffer.locked_eq_entries, failed]
    exact ⟨⟨rfl, rfl, rfl, rfl⟩, rfl⟩

/-- An abort leaves everything as it was, but for the mark on the lock, and tells nothing. -/
theorem perform_of_error {monitor : Monitor} {action : Action} {abort : SelfReference}
    (aborted : (monitor.perform action).outcome = .error abort) :
    (monitor.perform action).monitor.Alike monitor ∧ (monitor.perform action).notices = [] := by
  have refused := (monitor.perform_eq_error_iff action abort).mp aborted
  cases action with
  | record payload =>
      rw [refuses_of_offered rfl, ← check_payload_eq_error_iff] at refused
      rw [perform, onLog, Buffer.record, refused]
      exact ⟨⟨rfl, rfl, rfl, rfl⟩, rfl⟩
  | push entry =>
      rw [refuses_of_offered rfl, ← check_payload_eq_error_iff] at refused
      rw [perform, onLog, Buffer.push, refused]
      exact ⟨⟨rfl, rfl, rfl, rfl⟩, rfl⟩
  | drain =>
      rw [refuses_of_inspects .drain, ← check_entries_eq_error_iff] at refused
      rw [perform, onLog, Buffer.drain, Buffer.locked_eq_entries, refused]
      exact ⟨⟨rfl, rfl, rfl, rfl⟩, rfl⟩
  | answer token | exchange token =>
      rw [perform, ofReply, map_eq_error_iff] at aborted
      exact answer_of_error aborted
  | append _ | clear | wait _ | setPackage _ | snapshot | isEmpty | size | asksToClose _ =>
      cases aborted

def Clean (monitor : Monitor) : Prop :=
  ∀ entry ∈ monitor.log.entries, ¬Tagged entry.payload

theorem untagged_of_appended {monitor : Monitor} {thread : Thread} {action : Action}
    (checked : ∀ entry, action ≠ .append entry) {entry : Entry}
    (member : entry ∈ (monitor.eventOf thread action).appended) : ¬Tagged entry.payload := by
  have offered : action.offered? = some entry.payload := by
    rcases monitor.appends_of_mem_appended thread action member with given | given | given
    · exact congrArg Action.offered? given
    · exact congrArg Action.offered? given
    · exact absurd given (checked entry)
  have length := monitor.appended_length thread action offered
  intro tagged
  rw [if_pos ((is_tagged_iff _).mpr tagged), List.length_eq_zero_iff] at length
  rw [length] at member
  cases member

/-- A step that checks what it appends keeps the log clean: all that the log then holds was there
before or has been appended by the step. -/
theorem clean_perform {monitor : Monitor} (clean : monitor.Clean) {action : Action}
    (checked : ∀ entry, action ≠ .append entry) : (monitor.perform action).monitor.Clean := by
  intro entry member
  by_cases emptied : action = .clear
  · subst emptied
    cases member
  have conserved := monitor.perform_conserves () action emptied
  have kept : Row.ofEntry entry ∈
      (monitor.log.entries ++ (monitor.eventOf () action).appended).map Row.ofEntry := by
    rw [← conserved]
    apply List.mem_append_right
    exact List.mem_map_of_mem member
  rw [List.mem_map_of_injective row_of_entry_injective, List.mem_append] at kept
  rcases kept with old | new
  · exact clean entry old
  · exact untagged_of_appended checked new

theorem clean_after {monitor : Monitor} (clean : monitor.Clean) {actions : List Action}
    (checked : ∀ entry, .append entry ∉ actions) : (monitor.after actions).Clean := by
  induction actions generalizing monitor with
  | nil => exact clean
  | cons action rest ih =>
      rw [after_cons]
      apply ih
      · apply clean_perform clean
        intro entry same
        exact checked entry (same ▸ List.mem_cons_self)
      · intro entry member
        exact checked entry (List.mem_cons_of_mem _ member)

/-- A clean log gives no step a reason to abort but what the step itself offers. -/
theorem not_refuses_of_clean {monitor : Monitor} (clean : monitor.Clean) {action : Action}
    (silent : action.offered? = none) (payload : String) : ¬monitor.Refuses action payload := by
  intro refused
  cases refused with
  | offered given _ => exact absurd (silent.symm.trans given) (by simp)
  | held _ first =>
      obtain ⟨tagged, before, later, split, _⟩ := first
      apply clean _ _ tagged
      rw [split]
      apply List.mem_append_right
      exact List.mem_cons_self

theorem ok_of_clean {monitor : Monitor} (clean : monitor.Clean) {action : Action}
    (silent : action.offered? = none) :
    ∃ result, (monitor.perform action).outcome = .ok result := by
  cases outcome : (monitor.perform action).outcome with
  | ok result => exact ⟨result, rfl⟩
  | error abort =>
      have refused := (monitor.perform_eq_error_iff action abort).mp outcome
      exact absurd refused (not_refuses_of_clean clean silent _)

/-- A step must not go through exactly if it offers a tagged payload, or looks at entries one of
which is tagged. -/
theorem exists_refuses_iff (monitor : Monitor) (action : Action) :
    (∃ payload, monitor.Refuses action payload) ↔
      (∃ payload, action.offered? = some payload ∧ Tagged payload) ∨
        action.Inspects ∧ ∃ entry ∈ monitor.log.entries, Tagged entry.payload := by
  rw [← exists_first_tagged_iff]
  constructor
  · rintro ⟨payload, refused⟩
    cases refused with
    | offered given tagged => exact .inl ⟨payload, given, tagged⟩
    | held inspects first => exact .inr ⟨inspects, _, first⟩
  · rintro (⟨payload, given, tagged⟩ | ⟨inspects, entry, first⟩)
    · exact ⟨payload, .offered given tagged⟩
    · exact ⟨entry.payload, .held inspects first⟩

theorem exists_error_iff (monitor : Monitor) (action : Action) :
    (∃ abort, (monitor.perform action).outcome = .error abort) ↔
      ∃ payload, monitor.Refuses action payload := by
  constructor
  · rintro ⟨abort, aborted⟩
    exact ⟨abort.payload, (monitor.perform_eq_error_iff action abort).mp aborted⟩
  · rintro ⟨payload, refused⟩
    exact ⟨⟨payload⟩, (monitor.perform_eq_error_iff action ⟨payload⟩).mpr refused⟩

/-- When tagged payloads are refused, and what that costs. A step aborts exactly if it offers a
tagged payload, or if it is a drain or an answer to `checkConnection` or `getLogs` and some entry is
tagged; the text of the abort ends in the payload offered, or in that of the first tagged entry.
The entries are then as they were, nothing is told, and every run of later steps returns, tells and
leaves what it would have without the aborted step. On a monitor whose log has only been reached
through steps that check what they append, no entry is ever tagged, and every step that offers
nothing succeeds. -/
theorem tagged_payloads_refused :
    (∀ (monitor : Monitor) (action : Action),
      (∃ abort, (monitor.perform action).outcome = .error abort) ↔
        (∃ payload, action.offered? = some payload ∧ Tagged payload) ∨
          action.Inspects ∧ ∃ entry ∈ monitor.log.entries, Tagged entry.payload) ∧
    (∀ (monitor : Monitor) (action : Action) (abort : SelfReference),
      (monitor.perform action).outcome = .error abort →
        monitor.Refuses action abort.payload ∧
        abort.message =
          "Attempt to log a message whose payload contains CallWatch_server or " ++
            "CallWatch_agent. The message payload: " ++ abort.payload ∧
        (monitor.perform action).monitor.log.entries = monitor.log.entries ∧
        (monitor.perform action).notices = [] ∧
        ∀ later : List Action, List.Forall₂ Done.Alike
          ((monitor.perform action).monitor.performAll later) (monitor.performAll later)) ∧
    (∀ (processId : Nat) (clock : Clock) (actions : List Action),
      (∀ entry, .append entry ∉ actions) →
        (∀ entry ∈ ((fresh processId clock).after actions).log.entries, ¬Tagged entry.payload) ∧
        ∀ action : Action, action.offered? = none →
          ∃ result, (((fresh processId clock).after actions).perform action).outcome =
            .ok result) := by
  refine ⟨?_, ?_, ?_⟩
  · intro monitor action
    rw [exists_error_iff, exists_refuses_iff]
  · intro monitor action abort aborted
    obtain ⟨alike, silent⟩ := perform_of_error aborted
    have refused := (monitor.perform_eq_error_iff action abort).mp aborted
    exact ⟨refused, rfl, alike.entries, silent, perform_all_alike alike⟩
  · intro processId clock actions checked
    have empty : (fresh processId clock).Clean := by
      intro entry member
      cases member
    have clean := clean_after empty checked
    exact ⟨clean, fun action silent => ok_of_clean clean silent⟩

/-- A log into which a tagged entry has been put past the check. -/
def withStowaway : Monitor :=
  (fresh 7 (Clock.anchoredAt ⟨0⟩)).after
    [.record "open", .append ⟨"9", "later", "read CallWatch_agent"⟩, .record "close"]

theorem stowaway_refused :
    (withStowaway.perform (.answer "getLogs")).outcome = .error ⟨"read CallWatch_agent"⟩ ∧
      (withStowaway.perform (.answer "getLogs")).monitor.log.entries = withStowaway.log.entries ∧
      ∃ result, (((fresh 7 (Clock.anchoredAt ⟨0⟩)).after [.record "open"]).perform .drain).outcome =
        .ok result := by
  have aborted : (withStowaway.perform (.answer "getLogs")).outcome =
      .error ⟨"read CallWatch_agent"⟩ := by rfl
  obtain ⟨_, refused, safe⟩ := tagged_payloads_refused
  obtain ⟨_, _, kept, _⟩ := refused withStowaway (.answer "getLogs") _ aborted
  have checked : ∀ entry, Action.append entry ∉ [.record "open"] := by simp
  exact ⟨aborted, kept, (safe 7 (Clock.anchoredAt ⟨0⟩) _ checked).2 .drain rfl⟩

end CallMonitor.Monitor
