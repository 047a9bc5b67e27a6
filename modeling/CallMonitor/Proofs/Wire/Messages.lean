import CallMonitor.Proofs.Json.Objects
import CallMonitor.Proofs.Wire.Rows
import CallMonitor.Wire.Message

/-!
Every message is read back from its body by a reader that knows its kind.
-/

namespace CallMonitor.Wire

open CallMonitor.Json CallMonitor.Text

/-- The members of a written entry fill its parts one after the other. -/
theorem entry_members_fill (entry : Log.Entry) :
    Fills readEntryMember ⟨none, none, none⟩
      [("process_id", encodeString entry.processId), ("timestamp", encodeString entry.timestamp),
        ("payload", encodeString entry.payload)]
      ⟨some entry.processId, some entry.timestamp, some entry.payload⟩ := by
  have processId : ∀ rest,
      readEntryMember "process_id" ⟨none, none, none⟩ (encodeString entry.processId ++ rest) =
        some (⟨some entry.processId, none, none⟩, rest) := by
    intro rest
    simp [readEntryMember, read_string_encode]
  have timestamp : ∀ rest,
      readEntryMember "timestamp" ⟨some entry.processId, none, none⟩
          (encodeString entry.timestamp ++ rest) =
        some (⟨some entry.processId, some entry.timestamp, none⟩, rest) := by
    intro rest
    simp [readEntryMember, read_string_encode]
  have payload : ∀ rest,
      readEntryMember "payload" ⟨some entry.processId, some entry.timestamp, none⟩
          (encodeString entry.payload ++ rest) =
        some (⟨some entry.processId, some entry.timestamp, some entry.payload⟩, rest) := by
    intro rest
    simp [readEntryMember, read_string_encode]
  exact .more (fun rest _ => processId rest)
    (.more (fun rest _ => timestamp rest) (.more (fun rest _ => payload rest) .none))

theorem read_entry_encode (entry : Log.Entry) (rest : Bytes) :
    readEntry (encodeEntry entry ++ rest) = some (entry, rest) := by
  have start : skipSpace (encodeEntry entry ++ rest) = encodeEntry entry ++ rest := by
    simp [skipSpace, encodeEntry, encodeObject, isSpace]
  have read := read_object_encode (entry_members_fill entry) rest
  rw [readEntry, start]
  split
  · rename_i listed
    simp [encodeEntry, encodeObject] at listed
  · rw [encodeEntry, read]
    rfl

theorem read_verdict_encode (verdict : Policy.Verdict) (rest : Bytes) :
    readVerdict (encodeVerdict verdict ++ rest) = some (verdict, rest) := by
  have start : skipSpace (encodeVerdict verdict ++ rest) = encodeVerdict verdict ++ rest := by
    simp [skipSpace, encodeVerdict, encodeString, isSpace]
  rw [readVerdict, start]
  split
  · rename_i braced
    simp [encodeVerdict, encodeString] at braced
  · rw [encodeVerdict, read_string_encode]
    simp [Policy.Verdict.of_word_word]

namespace Message

theorem decode_encode (message : Message) : decode message.kind message.encode = some message := by
  cases message with
  | text given => exact congrArg (Option.map text) (decode_text_encode given)
  | row given => exact congrArg (Option.map row) (read_whole_text_encode given.read_encode)
  | rows given => exact congrArg (Option.map rows) (Row.decode_all_encode given)
  | entry given =>
      exact congrArg (Option.map entry) (read_whole_text_encode (read_entry_encode given))
  | verdict given =>
      exact congrArg (Option.map verdict) (read_whole_text_encode (read_verdict_encode given))

end Message

end CallMonitor.Wire
