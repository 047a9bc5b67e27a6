import CallMonitor.Monitor.Answer

/-!
When the monitor answers. It aborts on a tagged entry only, so a log without one gets an answer to
every token.
-/

namespace CallMonitor

open CallMonitor.Wire

theorem Log.check_entries_ok_iff (entries : List Log.Entry) :
    Log.checkEntries entries = .ok () ↔ ∀ entry ∈ entries, entry.isTagged = false := by
  induction entries with
  | nil => simp [Log.checkEntries]
  | cons entry entries ih =>
      unfold Log.checkEntries
      cases tagged : entry.isTagged with
      | true => simp [tagged]
      | false => simp [tagged, ih]

namespace Monitor

theorem answer_of_untagged {monitor : Monitor}
    (untagged : ∀ entry ∈ monitor.log.entries, entry.isTagged = false) (token : String) :
    ∃ rows, (monitor.answer token).outcome = .ok rows := by
  have checked := (Log.check_entries_ok_iff monitor.log.entries).mpr untagged
  unfold answer
  cases Command.ofToken? token with
  | none => exact ⟨_, rfl⟩
  | some command =>
      cases command with
      | checkConnection => simp [checked]
      | getLogs => simp [Log.Buffer.drain, checked]
      | getTime => exact ⟨_, rfl⟩
      | close => exact ⟨_, rfl⟩

theorem answer_get_logs_clears {monitor : Monitor}
    (untagged : ∀ entry ∈ monitor.log.entries, entry.isTagged = false) :
    (monitor.answer Command.getLogs.token).monitor.log.entries = [] := by
  have checked := (Log.check_entries_ok_iff monitor.log.entries).mpr untagged
  simp [answer, Command.of_token_token, Log.Buffer.drain, checked, Log.Buffer.clear]

theorem asks_to_close_iff (token : String) :
    asksToClose token = true ↔ token = Command.close.token := by
  rw [asksToClose, beq_iff_eq]
  constructor
  · intro found
    exact (Command.token_of_of_token found).symm
  · rintro rfl
    exact Command.of_token_token .close

end Monitor

end CallMonitor
