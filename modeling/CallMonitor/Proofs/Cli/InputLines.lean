import CallMonitor.Cli.Recorder
import CallMonitor.Proofs.Agent.Recording
import CallMonitor.Proofs.Text.Lines
import CallMonitor.Proofs.Text.Utf8

/-!
Recorded input. The recorder leaves out every line that the log would refuse, so no input aborts a
recording. What a recording adds to the log is known for all bytes: the input's lines, as far as
they are texts, without the empty and the tagged ones.
-/

namespace CallMonitor.Cli

open CallMonitor.Log CallMonitor.Text

theorem carries_tag_iff (line : String) : carriesTag line = true ↔ Tagged line :=
  is_tagged_iff line

/-- The lines of an input are the pieces between its line feeds. Those that are ended lose one
carriage return. -/
theorem byte_lines_eq (input : Bytes) : byteLines input = asLines 13 (splitOn 10 input) :=
  split_ended_drop_returns (by decide) input

theorem line_use_of_text (text : String) :
    lineUse (encodeUtf8 text) =
      if text = "" then .leaveOut else if Tagged text then .skip text else .keep text := by
  rw [lineUse, decode_utf8_eq_some_iff.mpr rfl]
  simp only [String.isEmpty_iff, ← carries_tag_iff]

theorem line_use_of_no_text {line : Bytes} (noText : ∀ text, encodeUtf8 text ≠ line) :
    lineUse line = .giveUp := by
  have undecoded : decodeUtf8 line = none := by
    rw [Option.eq_none_iff_forall_ne_some]
    intro text decoded
    exact noText text (decode_utf8_eq_some_iff.mp decoded).symm
  rw [lineUse, undecoded]

def recorded (texts : List String) : List String :=
  texts.filter fun text => text ≠ "" ∧ ¬Tagged text

/-- What is told of the lines that are texts. -/
def skipped (texts : List String) : List Notice :=
  (texts.filter fun text => Tagged text).map .lineSkipped

/-- What is told of the lines from the first one that is no text. -/
def givenUp : List Bytes → List Notice
  | [] => []
  | _ :: _ => [.inputFailed .notUtf8]

variable {τ ρ : Type}

/-- The agent with more in its log and more told. -/
def grown (agent : Agent τ ρ) (payloads : List String) (notices : List Notice) : Agent τ ρ :=
  { agent.logging payloads with notices := agent.notices ++ notices }

section Grown

variable (agent : Agent τ ρ) (payloads more : List String) (notices others : List Notice)

theorem grown_nil : grown agent [] [] = agent := by
  rw [grown, Agent.logging_nil, List.append_nil]

theorem grown_grown :
    grown (grown agent payloads notices) more others =
      grown agent (payloads ++ more) (notices ++ others) := by
  rw [grown, grown, grown, ← Agent.logging_logging, ← List.append_assoc]
  rfl

theorem tell_eq_grown (notice : Notice) : agent.tell notice = grown agent [] [notice] := by
  rw [grown, Agent.logging_nil, Agent.tell]

end Grown

/-- One line that is a text never aborts the recording. -/
theorem record_text (agent : Agent τ ρ) (text : String) (lines : List Bytes) :
    recordEach agent (encodeUtf8 text :: lines) =
      recordEach (grown agent (recorded [text]) (skipped [text])) lines := by
  rw [recordEach, line_use_of_text]
  by_cases empty : text = ""
  · have untagged : ¬Tagged text := by
      rw [empty]
      decide
    have none : recorded [text] = [] := by simp [recorded, empty]
    have silent : skipped [text] = [] := by simp [skipped, untagged]
    rw [if_pos empty, none, silent, grown_nil]
  · by_cases tagged : Tagged text
    · have none : recorded [text] = [] := by simp [recorded, tagged]
      have one : skipped [text] = [.lineSkipped text] := by simp [skipped, tagged]
      rw [if_neg empty, if_pos tagged, none, one, ← tell_eq_grown]
    · have one : recorded [text] = [text] := by simp [recorded, empty, tagged]
      have silent : skipped [text] = [] := by simp [skipped, tagged]
      rw [if_neg empty, if_neg tagged, one, silent, grown, List.append_nil]
      simp only [Agent.record_of_untagged tagged]
      rfl

theorem record_texts (texts : List String) (agent : Agent τ ρ) (lines : List Bytes) :
    recordEach agent (texts.map encodeUtf8 ++ lines) =
      recordEach (grown agent (recorded texts) (skipped texts)) lines := by
  induction texts generalizing agent with
  | nil =>
      have same : grown agent (recorded []) (skipped []) = agent := grown_nil agent
      rw [same]
      rfl
  | cons text texts ih =>
      have kept : recorded [text] ++ recorded texts = recorded (text :: texts) :=
        (List.filter_append [text] texts).symm
      have told : skipped [text] ++ skipped texts = skipped (text :: texts) := by
        rw [skipped, skipped, ← List.map_append, ← List.filter_append]
        rfl
      rw [List.map_cons, List.cons_append, record_text, ih, grown_grown, kept, told]

theorem record_rest (agent : Agent τ ρ) {rest : List Bytes}
    (noText : ∀ line ∈ rest.head?, ∀ text, encodeUtf8 text ≠ line) :
    recordEach agent rest = (.ok (), grown agent [] (givenUp rest)) := by
  cases rest with
  | nil => rw [givenUp, grown_nil, recordEach]
  | cons line rest =>
      rw [recordEach, line_use_of_no_text (noText line rfl), givenUp, ← tell_eq_grown]

/-- Lines fall into those that are texts and the rest from the first one that is none. -/
theorem texts_first (lines : List Bytes) :
    ∃ (texts : List String) (rest : List Bytes), lines = texts.map encodeUtf8 ++ rest ∧
      ∀ line ∈ rest.head?, ∀ text, encodeUtf8 text ≠ line := by
  induction lines with
  | nil => exact ⟨[], [], rfl, by simp⟩
  | cons line lines ih =>
      by_cases reads : ∃ text, encodeUtf8 text = line
      · obtain ⟨text, rfl⟩ := reads
        obtain ⟨texts, rest, rfl, noText⟩ := ih
        exact ⟨text :: texts, rest, rfl, noText⟩
      · refine ⟨[], line :: lines, rfl, ?_⟩
        intro first here text same
        cases here
        exact reads ⟨text, same⟩

/-- Any bytes and any agent. The lines of the input are those that are texts, up to the first one
that is none, and a rest. The recording is not aborted. It puts at the end of the log the texts that
are neither empty nor tagged, in their order, and nothing else; it tells of each tagged one and of
the line that is no text; and it changes nothing else. -/
theorem input_recorded (agent : Agent τ ρ) (input : Bytes) :
    ∃ (texts : List String) (rest : List Bytes),
      asLines 13 (splitOn 10 input) = texts.map encodeUtf8 ++ rest ∧
      (∀ line ∈ rest.head?, ∀ text, encodeUtf8 text ≠ line) ∧
      recordLines agent input =
        (.ok (), grown agent (recorded texts) (skipped texts ++ givenUp rest)) := by
  obtain ⟨texts, rest, lines, noText⟩ := texts_first (asLines 13 (splitOn 10 input))
  refine ⟨texts, rest, lines, noText, ?_⟩
  rw [recordLines, byte_lines_eq, lines, record_texts, record_rest _ noText, grown_grown,
    List.append_nil]

end CallMonitor.Cli
