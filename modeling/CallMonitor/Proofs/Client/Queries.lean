import CallMonitor.Proofs.Client.Asking
import CallMonitor.Proofs.Monitor.Answering

/-!
The client of a call monitor. What it gets for a text, and what the monitor is afterwards, follow
from what the monitor answers and from the lengths of the two bodies.
-/

namespace CallMonitor.Client

open CallMonitor.Server CallMonitor.Text CallMonitor.Wire

theorem read_rows_frame (client : Client) {rows : List Row}
    (stated : (Row.encodeAll rows).length ≤ bodyLimit) :
    client.readRows (encodeLength (Row.encodeAll rows).length ++ Row.encodeAll rows) =
      if client.responseLimit < (Row.encodeAll rows).length
      then .error (.frameTooLarge (Row.encodeAll rows).length client.responseLimit)
      else .ok rows := by
  by_cases exceeds : client.responseLimit < (Row.encodeAll rows).length
  · rw [if_pos exceeds, readRows,
      read_frame_too_large Row.decodeAll client.responseLimit _ stated exceeds]
  · have within := Nat.le_of_not_lt exceeds
    have whole := read_frame_whole Row.decodeAll client.responseLimit (Row.encodeAll rows) []
      stated within
    rw [List.append_nil, Row.decode_all_encode] at whole
    rw [if_neg exceeds, readRows, whole]

theorem read_rows_nothing (client : Client) : client.readRows [] = .error (.io .streamEnded) := by
  rw [readRows, read_frame_short Row.decodeAll client.responseLimit (by decide)]
  rfl

/-- The call monitor takes a text that fits a frame for the request exactly if it is within the
limit. -/
theorem monitor_asks_iff {service : Service Monitor String} {limit number : Nat} {text : String}
    (stated : (Json.encodeString text).length ≤ bodyLimit)
    (arrived : (service.loop.connection number).arrived =
      encodeLength (Json.encodeString text).length ++ Json.encodeString text) (request : String) :
    (service.peers monitorHandler.decode limit).asks number request ↔
      (Json.encodeString text).length ≤ limit ∧ text = request := by
  have decoded : monitorHandler.decode (Json.encodeString text) = some text :=
    decode_text_encode text
  change Carries monitorHandler.decode limit (service.loop.connection number).arrived request ↔ _
  rw [arrived, carries_frame_iff monitorHandler.decode limit stated, decoded, Option.some.injEq]

section Queries

variable {service : Service Monitor String} {text : String}

/-- A text over the server's limit is refused: nothing happens but that the server closes. -/
theorem ask_over_limit (client : Client) (idle : service.IsIdle)
    (timely : service.loop.options.readTimeout ≠ some 0) (timeout : client.timeout ≠ 0)
    (exceeds : service.loop.options.frameLimit < (Json.encodeString text).length) :
    let conversation := client.ask monitorHandler service text
    conversation.2.state = service.state ∧ conversation.2.IsOver ∧
      ((Json.encodeString text).length ≤ bodyLimit →
        ∃ reason, conversation.1 = .error (.io reason)) := by
  intro conversation
  by_cases stated : (Json.encodeString text).length ≤ bodyLimit
  · obtain ⟨answer, asked, later, talked, exchange, arrived, -, closes⟩ :=
      client.ask_of_short monitorHandler idle timely timeout stated
    have unasked : ∀ request, ¬(later.peers monitorHandler.decode
        service.loop.options.frameLimit).asks service.loop.connections.length request := by
      intro request carried
      have within := ((monitor_asks_iff stated arrived request).mp carried).1
      omega
    obtain ⟨nothing, same, closed⟩ := exchange.of_unasked unasked
    rw [nothing, read_rows_nothing] at talked
    rw [show conversation = _ from talked]
    exact ⟨same, closes closed, fun _ => ⟨_, rfl⟩⟩
  · obtain ⟨later, talked, same, closed⟩ :=
      client.ask_of_long monitorHandler idle timely timeout (Nat.lt_of_not_le stated)
    rw [show conversation = _ from talked]
    exact ⟨same, closed, fun short => absurd short stated⟩

/-- Any other text is answered as the monitor answers it. -/
theorem ask_within_limit (client : Client) (idle : service.IsIdle)
    (timely : service.loop.options.readTimeout ≠ some 0) (timeout : client.timeout ≠ 0)
    (within : (Json.encodeString text).length ≤ service.loop.options.frameLimit)
    (stated : (Json.encodeString text).length ≤ bodyLimit)
    {rows : List Row} (answered : (service.state.answer text).outcome = .ok rows) :
    let conversation := client.ask monitorHandler service text
    conversation.2.state = (service.state.answer text).monitor ∧
      ((Row.encodeAll rows).length ≤ bodyLimit →
        (if text = Monitor.Command.close.token then conversation.2.IsOver
          else conversation.2.IsIdle) ∧
        conversation.1 =
          if client.responseLimit < (Row.encodeAll rows).length
          then .error (.frameTooLarge (Row.encodeAll rows).length client.responseLimit)
          else .ok rows) ∧
      (bodyLimit < (Row.encodeAll rows).length →
        conversation.2.IsOver ∧ ∃ reason, conversation.1 = .error (.io reason)) := by
  intro conversation
  obtain ⟨answer, asked, later, talked, exchange, arrived, waits, closes⟩ :=
    client.ask_of_short monitorHandler idle timely timeout stated
  rw [show conversation = _ from talked]
  have respond : monitorHandler.respond service.state text =
      (some rows, (service.state.answer text).monitor, (service.state.answer text).notices) := by
    simp [monitorHandler, answered, Except.toOption]
  have reads : ∀ request, (later.peers monitorHandler.decode
      service.loop.options.frameLimit).asks service.loop.connections.length request →
        text = request :=
    fun request read => ((monitor_asks_iff stated arrived request).mp read).2
  generalize later.state = after at exchange ⊢
  generalize listens : later.loop.listening = stays at exchange
  cases exchange with
  | answered read responds short =>
      obtain rfl := reads _ read
      rw [respond, Prod.mk.injEq, Option.some.injEq, Prod.mk.injEq] at responds
      obtain ⟨rfl, same, -⟩ := responds
      have closing : monitorHandler.closes text = true ↔ text = Monitor.Command.close.token :=
        Monitor.asks_to_close_iff text
      refine ⟨same.symm, fun _ => ⟨?_, client.read_rows_frame short⟩, fun long => ?_⟩
      · split
        case isTrue close =>
          rw [closing.mpr close] at listens
          exact closes listens
        case isFalse other =>
          rw [Bool.eq_false_iff.mpr (mt closing.mp other)] at listens
          exact waits listens
      · exact absurd short (Nat.not_le.mpr long)
  | overlong read responds long =>
      obtain rfl := reads _ read
      rw [respond, Prod.mk.injEq, Option.some.injEq, Prod.mk.injEq] at responds
      obtain ⟨rfl, same, -⟩ := responds
      refine ⟨same.symm, fun short => absurd short (Nat.not_le.mpr long), fun _ => ?_⟩
      exact ⟨closes listens, _, client.read_rows_nothing⟩
  | aborted read aborts =>
      obtain rfl := reads _ read
      rw [respond, Prod.mk.injEq] at aborts
      cases aborts.1
  | failed failure =>
      exact absurd ((monitor_asks_iff stated arrived text).mpr ⟨within, rfl⟩) (failure text)

end Queries

/-- A client asks a monitor that waits and has no tagged entry, with any text and any two limits in
length, and nobody runs out of time. Let `asked` and `answered` be the lengths of the two bodies.

A text over the server's limit is refused: nothing happens to the monitor, and the server closes.
Any other text is answered once, as the monitor answers it, and only `close` closes the server. The
client gets the rows unchanged, or learns their length if it is over its own limit, in which case
the rows are gone all the same.

A frame states lengths up to `bodyLimit`. A longer text is not even sent, and a longer answer is
not sent either, but closes the server. -/
theorem ask_monitor (client : Client) {service : Service Monitor String} (idle : service.IsIdle)
    (timely : service.loop.options.readTimeout ≠ some 0) (timeout : client.timeout ≠ 0)
    (untagged : ∀ entry ∈ service.state.log.entries, entry.isTagged = false) (text : String) :
    ∃ rows, (service.state.answer text).outcome = .ok rows ∧
      let conversation := client.ask monitorHandler service text
      let result := conversation.1
      let later := conversation.2
      let asked := (Json.encodeString text).length
      let answered := (Row.encodeAll rows).length
      (service.loop.options.frameLimit < asked →
        later.state = service.state ∧ later.IsOver ∧
        (asked ≤ bodyLimit → ∃ reason, result = .error (.io reason))) ∧
      (asked ≤ service.loop.options.frameLimit → asked ≤ bodyLimit →
        later.state = (service.state.answer text).monitor ∧
        (answered ≤ bodyLimit →
          (if text = Monitor.Command.close.token then later.IsOver else later.IsIdle) ∧
          (answered ≤ client.responseLimit → result = .ok rows) ∧
          (client.responseLimit < answered →
            result = .error (.frameTooLarge answered client.responseLimit) ∧
            (text = Monitor.Command.getLogs.token → later.state.log.entries = []))) ∧
        (bodyLimit < answered →
          later.IsOver ∧ ∃ reason, result = .error (.io reason))) ∧
      (bodyLimit < asked →
        later.state = service.state ∧ later.IsOver ∧
        result = .error (.frameTooLarge asked bodyLimit)) := by
  obtain ⟨rows, outcome⟩ := Monitor.answer_of_untagged untagged text
  refine ⟨rows, outcome, ?_⟩
  intro conversation result later asked answered
  refine ⟨client.ask_over_limit idle timely timeout, ?_, ?_⟩
  · intro within stated
    obtain ⟨same, sent, unsent⟩ :=
      client.ask_within_limit idle timely timeout within stated outcome
    refine ⟨same, fun fits => ?_, unsent⟩
    obtain ⟨closes, got⟩ := sent fits
    refine ⟨closes, fun below => got.trans (if_neg (Nat.not_lt.mpr below)), fun above => ?_⟩
    refine ⟨got.trans (if_pos above), fun logs => ?_⟩
    have cleared := Monitor.answer_get_logs_clears untagged
    rw [← logs, ← same] at cleared
    exact cleared
  · intro long
    obtain ⟨final, talked, same, closed⟩ :=
      client.ask_of_long monitorHandler idle timely timeout long
    simp only [result, later, conversation, talked]
    exact ⟨same, closed, rfl⟩

/-- A monitor with one entry, whose server takes requests of at most sixteen bytes. -/
def smallMonitor : Service Monitor String :=
  ⟨⟨⟨7, Clock.anchoredAt ⟨0⟩, [⟨"7", "now", "read"⟩], false⟩, .unset⟩, .bound 80 patientOptions, []⟩

/-- A client that takes answers of at most sixteen bytes as well. -/
def smallClient : Client := ⟨⟨.four 127 0 0 1, 80⟩, 10000, 16⟩

theorem ask_logs_over_limit :
    let conversation := smallClient.ask monitorHandler smallMonitor Monitor.Command.getLogs.token
    conversation.1 = .error (.frameTooLarge 20 16) ∧ conversation.2.state.log.entries = [] ∧
      conversation.2.IsIdle := by
  have idle : smallMonitor.IsIdle := Service.bound_is_idle _ _ _ _
  obtain ⟨rows, answered, -, within, -⟩ :=
    ask_monitor smallClient idle (by decide) (by decide) (by decide) Monitor.Command.getLogs.token
  have known : rows = [Row.full "7" "now" "read"] := (Except.ok.inj answered).symm
  subst known
  obtain ⟨-, sent, -⟩ := within (by decide) (by decide)
  obtain ⟨waits, -, refused⟩ := sent (by decide)
  exact ⟨(refused (by decide)).1, (refused (by decide)).2 rfl, waits⟩

end CallMonitor.Client
