import CallMonitor.Proofs.Json.RoundTrip
import CallMonitor.Wire.Body

/-!
Bodies are read back: texts, and lists of rows, whose columns are texts or absent.
-/

namespace CallMonitor.Wire

open CallMonitor.Json CallMonitor.Text

theorem decode_text_encode (text : String) : decodeText (encodeString text) = some text :=
  read_whole_text_encode (read_string_encode text)

namespace Row

/-- A column is read back; a text is never taken for an absent one. -/
theorem read_column (column : Option String) (rest : Bytes) :
    readNullable (encodeColumn column ++ rest) = some (column, rest) := by
  cases column with
  | none => simp [encodeColumn, nullWord, readNullable, skipSpace, isSpace, expectWord]
  | some text =>
      have start : skipSpace (encodeString text ++ rest) = encodeString text ++ rest := by
        simp [skipSpace, encodeString, isSpace]
      have read := read_string_encode text rest
      simp only [encodeColumn, readNullable, start]
      split
      · rename_i named
        simp [encodeString] at named
      · rw [read, Option.map_some]

theorem read_encode (row : Row) (rest : Bytes) : read (row.encode ++ rest) = some (row, rest) := by
  have expected : ∀ (mark : UInt8) (after : Bytes), isSpace mark = false →
      expect mark (mark :: after) = some after := by
    intro mark after visible
    rw [expect, skipSpace, List.dropWhile_cons_of_neg (by simp [visible])]
    exact if_pos rfl
  simp [encode, encodeList, columns, encodeItems, read, read_column, expected, isSpace]

theorem readable : Readable read encode where
  reads := read_encode
  starts row := ⟨0x5B, encodeItems (row.columns.map encodeColumn) ++ [0x5D], rfl, rfl, by decide⟩

theorem decode_all_encode (rows : List Row) : decodeAll (encodeAll rows) = some rows :=
  read_whole_text_encode (read_list_encode readable rows)

end Row

end CallMonitor.Wire
