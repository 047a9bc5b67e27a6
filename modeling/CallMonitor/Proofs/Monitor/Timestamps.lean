import CallMonitor.Proofs.Calendar.Timestamps
import CallMonitor.Proofs.Monitor.Conservation

/-!
The order of timestamps and the order of the log. Timestamps compare as texts like the instants
that they tell, up to the millisecond. The clock never goes back, and an entry is stamped while the
log's lock is held, so the entries that leave the log, and those still in it, are in the order of
their timestamps.
-/

namespace CallMonitor

open CallMonitor.Wire

/-- A clock, and the same clock when some more time has passed. -/
def Clock.RunsTo (first second : Clock) : Prop := ∃ nanos, second = first.advance nanos

namespace Clock.RunsTo

variable {first second third : Clock}

theorem refl (clock : Clock) : clock.RunsTo clock := ⟨0, rfl⟩

theorem trans (early : first.RunsTo second) (late : second.RunsTo third) : first.RunsTo third := by
  obtain ⟨nanos, rfl⟩ := early
  obtain ⟨more, rfl⟩ := late
  exact ⟨nanos + more, by simp [Clock.advance, Nat.add_assoc]⟩

theorem nanos_le (runs : first.RunsTo second) : first.now.nanos ≤ second.now.nanos := by
  obtain ⟨nanos, rfl⟩ := runs
  simp only [Clock.now, Instant.after, Clock.advance]
  omega

end Clock.RunsTo

namespace Monitor

variable {Thread : Type}

theorem clock_runs_to (monitor : Monitor) (action : Action) :
    monitor.log.clock.RunsTo (monitor.perform action).monitor.log.clock := by
  have same : (monitor.perform action).monitor.log.clock = monitor.log.clock →
      monitor.log.clock.RunsTo (monitor.perform action).monitor.log.clock := by
    intro equal
    rw [equal]
    exact .refl _
  have answers : ∀ token, (monitor.answer token).monitor.log.clock = monitor.log.clock := by
    intro token
    unfold answer
    cases Command.ofToken? token with
    | none => rfl
    | some command =>
        cases command with
        | checkConnection => cases Log.checkEntries monitor.log.locked <;> rfl
        | getLogs =>
            unfold Log.Buffer.drain
            cases Log.checkEntries monitor.log.locked <;> rfl
        | getTime | close => rfl
  cases action with
  | wait nanos => exact ⟨nanos, rfl⟩
  | record payload =>
      apply same
      simp only [perform, onLog, Log.Buffer.record]
      cases Log.checkPayload payload <;> rfl
  | push entry =>
      apply same
      simp only [perform, onLog, Log.Buffer.push]
      cases Log.checkPayload entry.payload <;> rfl
  | drain =>
      apply same
      simp only [perform, onLog, Log.Buffer.drain]
      cases Log.checkEntries monitor.log.locked <;> rfl
  | answer token | exchange token => exact same (answers token)
  | append _ | clear | setPackage _ | snapshot | isEmpty | size | asksToClose _ => exact same rfl

/-- A step that appends no entry made elsewhere appends at most one, stamped with the time of the
step. -/
theorem appended_now (monitor : Monitor) (thread : Thread) (action : Action)
    (own : ∀ entry, action ≠ .push entry ∧ action ≠ .append entry) :
    (monitor.eventOf thread action).appended = [] ∨
      ∃ entry, (monitor.eventOf thread action).appended = [entry] ∧
        entry.timestamp = monitor.log.clock.nowText := by
  cases action with
  | record payload =>
      simp only [eventOf, perform, onLog, Log.Buffer.record]
      cases Log.checkPayload payload with
      | error abort => exact .inl rfl
      | ok _ => exact .inr ⟨_, rfl, rfl⟩
  | push entry => exact absurd rfl (own entry).1
  | append entry => exact absurd rfl (own entry).2
  | _ => exact .inl rfl

/-- The entries of a run are stamped with readings of its clock, from the clock at its start to the
clock at its end. -/
theorem appended_readings (monitor : Monitor) (calls : List (Thread × Action))
    (own : ∀ call ∈ calls, ∀ entry, call.2 ≠ .push entry ∧ call.2 ≠ .append entry) :
    ∃ readings : List Clock,
      ((monitor.history calls).flatMap Event.appended).map Log.Entry.timestamp =
        readings.map Clock.nowText ∧
      (monitor.log.clock :: readings ++
        [(monitor.after (calls.map Prod.snd)).log.clock]).Pairwise Clock.RunsTo := by
  induction calls generalizing monitor with
  | nil =>
      refine ⟨[], rfl, ?_⟩
      exact List.pairwise_pair.mpr (.refl _)
  | cons call rest ih =>
      obtain ⟨thread, action⟩ := call
      obtain ⟨readings, stamped, ordered⟩ := ih (monitor.perform action).monitor
        fun later member => own later (List.mem_cons_of_mem _ member)
      have step := monitor.clock_runs_to action
      rw [List.cons_append, List.pairwise_cons] at ordered
      obtain ⟨first, ordered⟩ := ordered
      -- What the clock runs to from the next step, it runs to from this one.
      have earlier : ∀ reading ∈ readings ++ [((monitor.perform action).monitor.after
          (rest.map Prod.snd)).log.clock], monitor.log.clock.RunsTo reading :=
        fun reading member => step.trans (first reading member)
      rw [history_cons, List.map_cons, after_cons, List.flatMap_cons, List.map_append, stamped]
      rcases monitor.appended_now thread action (own _ List.mem_cons_self) with
        none | ⟨entry, one, now⟩
      · rw [none]
        exact ⟨readings, rfl, List.pairwise_cons.mpr ⟨earlier, ordered⟩⟩
      · rw [one, List.map_singleton, now]
        refine ⟨monitor.log.clock :: readings, rfl, ?_⟩
        have fromNow := List.pairwise_cons.mpr ⟨earlier, ordered⟩
        refine List.pairwise_cons.mpr ⟨?_, fromNow⟩
        intro reading member
        rcases List.mem_cons.mp member with rfl | member
        · exact .refl _
        · exact earlier reading member

/-- One step hands out, and leaves in the log, only what was there or has just been appended, in
that order. -/
theorem perform_sublist (monitor : Monitor) (thread : Thread) (action : Action) :
    ((monitor.eventOf thread action).handedOut ++
        (monitor.perform action).monitor.log.entries.map Row.ofEntry).Sublist
      ((monitor.log.entries ++ (monitor.eventOf thread action).appended).map Row.ofEntry) := by
  by_cases emptied : action = .clear
  · subst emptied
    exact List.nil_sublist _
  · rw [monitor.perform_conserves thread action emptied]

theorem history_sublist (monitor : Monitor) (calls : List (Thread × Action)) :
    ((monitor.history calls).flatMap Event.handedOut ++
        (monitor.after (calls.map Prod.snd)).log.entries.map Row.ofEntry).Sublist
      ((monitor.log.entries ++ (monitor.history calls).flatMap Event.appended).map
        Row.ofEntry) := by
  induction calls generalizing monitor with
  | nil => simp [history, after, performAll]
  | cons call rest ih =>
      obtain ⟨thread, action⟩ := call
      have step := monitor.perform_sublist thread action
      have run := ih (monitor.perform action).monitor
      rw [List.map_append] at run
      rw [history_cons, List.map_cons, after_cons, List.flatMap_cons, List.flatMap_cons]
      rw [← List.append_assoc monitor.log.entries, List.map_append, List.append_assoc]
      -- What is left after the step is what the rest of the run starts with.
      refine (List.Sublist.append_left run _).trans ?_
      rw [← List.append_assoc]
      exact step.append_right _

theorem texts_of_readings {start last : Clock} {readings : List Clock}
    (ordered : (start :: readings ++ [last]).Pairwise Clock.RunsTo)
    (plain : start.now.HasPlainYear) (plainLast : last.now.HasPlainYear) :
    (readings.map Clock.nowText).Pairwise (· ≤ ·) := by
  rw [List.cons_append, List.pairwise_cons, List.pairwise_append] at ordered
  obtain ⟨first, among, -, toLast⟩ := ordered
  have plains : ∀ reading ∈ readings, reading.now.HasPlainYear := by
    intro reading member
    have low := (first reading (List.mem_append_left _ member)).nanos_le
    have high := (toLast reading member last (List.mem_singleton_self _)).nanos_le
    exact plain.between plainLast low high
  rw [List.pairwise_map]
  refine among.imp_of_mem ?_
  intro early late member member' runs
  exact Instant.write_le_of_nanos (plains _ member) (plains _ member') runs.nanos_le

/-- Timestamps order the log. Two readings of clocks, in years of four digits, have texts of
twenty-three characters that compare like the milliseconds of the readings. Whatever calls any
number of threads make on a new log, if they put entries there by recording payloads only: the
entries handed out by drains and by answers to `getLogs`, in order, and then those still in the
log, have timestamps of which none is smaller than one before it. -/
theorem timestamps_order_log :
    (∀ first second : Clock, first.now.HasPlainYear → second.now.HasPlainYear →
      (first.nowText < second.nowText ↔ first.now.millis < second.now.millis) ∧
      (first.nowText = second.nowText ↔ first.now.millis = second.now.millis) ∧
      first.nowText.length = 23) ∧
    ∀ (processId : Nat) (clock : Clock) (calls : List (Thread × Action)),
      (∀ call ∈ calls, ∀ entry, call.2 ≠ .push entry ∧ call.2 ≠ .append entry) →
      clock.now.HasPlainYear →
      ((fresh processId clock).after (calls.map Prod.snd)).log.clock.now.HasPlainYear →
      ∃ entries : List Log.Entry,
        ((fresh processId clock).history calls).flatMap Event.handedOut ++
            ((fresh processId clock).after (calls.map Prod.snd)).log.entries.map Row.ofEntry =
          entries.map Row.ofEntry ∧
        (entries.map Log.Entry.timestamp).Pairwise (· ≤ ·) := by
  refine ⟨fun first second plain plain' => ?_, ?_⟩
  · exact ⟨Instant.write_lt_iff plain plain', Instant.write_eq_iff plain plain',
      Instant.length_write plain⟩
  · intro processId clock calls own plain plainLast
    obtain ⟨readings, stamped, ordered⟩ := (fresh processId clock).appended_readings calls own
    have sorted := texts_of_readings ordered plain plainLast
    rw [← stamped] at sorted
    obtain ⟨entries, among, same⟩ :=
      List.sublist_map_iff.mp ((fresh processId clock).history_sublist calls)
    exact ⟨entries, same, sorted.sublist (among.map _)⟩

/-- Two writers and a drain over the turn of a year. -/
def callsAtNewYear : List (Nat × Action) :=
  [(0, .record "old"), (1, .wait 999999), (1, .record "still old"), (2, .wait 1),
    (0, .record "new"), (2, .drain), (1, .record "left")]

/-- The last millisecond of the year 1999. -/
def lastMillisecond : Clock := .anchoredAt ⟨946684799999000000⟩

theorem new_year_in_order :
    (lastMillisecond.now.HasPlainYear ∧ (lastMillisecond.advance 1000000).now.HasPlainYear ∧
      (lastMillisecond.nowText < (lastMillisecond.advance 1000000).nowText ↔
        lastMillisecond.now.millis < (lastMillisecond.advance 1000000).now.millis)) ∧
    (∀ call ∈ callsAtNewYear, ∀ entry, call.2 ≠ .push entry ∧ call.2 ≠ .append entry) ∧
    ∃ entries : List Log.Entry,
      ((fresh 7 lastMillisecond).history callsAtNewYear).flatMap Event.handedOut ++
          ((fresh 7 lastMillisecond).after (callsAtNewYear.map Prod.snd)).log.entries.map
            Row.ofEntry =
        entries.map Row.ofEntry ∧
      (entries.map Log.Entry.timestamp).Pairwise (· ≤ ·) := by
  have plain : lastMillisecond.now.HasPlainYear := ⟨by decide, by decide⟩
  have plainNext : (lastMillisecond.advance 1000000).now.HasPlainYear := ⟨by decide, by decide⟩
  have own : ∀ call ∈ callsAtNewYear, ∀ entry, call.2 ≠ .push entry ∧ call.2 ≠ .append entry := by
    simp [callsAtNewYear]
  have last : ((fresh 7 lastMillisecond).after
      (callsAtNewYear.map Prod.snd)).log.clock = lastMillisecond.advance 1000000 := rfl
  have plainLast : ((fresh 7 lastMillisecond).after
      (callsAtNewYear.map Prod.snd)).log.clock.now.HasPlainYear := last ▸ plainNext
  obtain ⟨texts, runs⟩ := @timestamps_order_log Nat
  exact ⟨⟨plain, plainNext, (texts _ _ plain plainNext).1⟩, own,
    runs 7 lastMillisecond callsAtNewYear own plain plainLast⟩

end Monitor

end CallMonitor
