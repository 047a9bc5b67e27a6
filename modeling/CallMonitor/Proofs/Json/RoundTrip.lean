import CallMonitor.Json.Value
import CallMonitor.Json.Write
import CallMonitor.Proofs.Text.Utf8

/-!
What is written as JSON is read back: strings with any characters, and lists of whatever can be
read back itself. Every statement is over an arbitrary suffix, so a reader takes exactly the bytes
that were written and leaves the suffix alone.
-/

namespace CallMonitor.Json

open CallMonitor.Text

def IsPlain (byte : UInt8) : Prop := byte ≠ 0x22 ∧ byte ≠ 0x5C ∧ ¬byte < 0x20

theorem is_plain_of_large {byte : UInt8} (large : 0x80 ≤ byte.toNat) : IsPlain byte := by
  refine ⟨?_, ?_, ?_⟩
  · rintro rfl
    exact absurd large (by decide)
  · rintro rfl
    exact absurd large (by decide)
  · rw [UInt8.lt_iff_toNat_lt]
    exact Nat.not_lt.mpr (Nat.le_trans (by decide) large)

/-- A character that needs no escape is written in plain bytes: one below 128 is its own byte, and
all bytes of the others are above. -/
theorem plain_of_mem_utf8 {c : Char} (quote : c ≠ '\x22') (slash : c ≠ '\\')
    (printable : ¬c.toNat < 0x20) {byte : UInt8} (member : byte ∈ String.utf8EncodeChar c) :
    IsPlain byte := by
  have unlike : ∀ other : Char, c ≠ other → c.toNat ≠ other.toNat := by
    intro other differs same
    exact differs (Char.toNat_inj.mp same)
  have notQuote := unlike _ quote
  have notSlash := unlike _ slash
  change c.toNat ≠ 0x22 at notQuote
  change c.toNat ≠ 0x5C at notSlash
  have value : c.val.toNat = c.toNat := rfl
  unfold String.utf8EncodeChar at member
  simp only [value] at member
  by_cases single : c.toNat ≤ 0x7F
  · rw [if_pos single, List.mem_singleton] at member
    subst member
    have same : (UInt8.ofNat c.toNat).toNat = c.toNat := by
      rw [UInt8.toNat_ofNat']
      omega
    refine ⟨?_, ?_, ?_⟩
    · intro equal
      exact notQuote (same.symm.trans (congrArg UInt8.toNat equal))
    · intro equal
      exact notSlash (same.symm.trans (congrArg UInt8.toNat equal))
    · rw [UInt8.lt_iff_toNat_lt, same]
      exact printable
  · rw [if_neg single] at member
    apply is_plain_of_large
    split at member
    · simp only [List.mem_cons, List.not_mem_nil, or_false] at member
      rcases member with rfl | rfl <;> rw [UInt8.toNat_ofNat'] <;> omega
    split at member <;> simp only [List.mem_cons, List.not_mem_nil, or_false] at member
    · rcases member with rfl | rfl | rfl <;> rw [UInt8.toNat_ofNat'] <;> omega
    · rcases member with rfl | rfl | rfl | rfl <;> rw [UInt8.toNat_ofNat'] <;> omega

theorem read_content_plain {bytes : Bytes} (plain : ∀ byte ∈ bytes, IsPlain byte)
    (done rest : Bytes) :
    readContent done (bytes ++ rest) = readContent (bytes.reverse ++ done) rest := by
  induction bytes generalizing done with
  | nil => rfl
  | cons byte bytes ih =>
      obtain ⟨quote, slash, printable⟩ := plain byte List.mem_cons_self
      rw [List.cons_append, readContent, if_neg quote, if_neg slash, if_neg printable,
        ih (fun other member => plain other (List.mem_cons_of_mem _ member))]
      simp

theorem read_content_escape {bytes after : Bytes} {c : Char}
    (escape : readEscape bytes = some (c, after)) (done : Bytes) :
    readContent done (0x5C :: bytes) =
      readContent ((String.utf8EncodeChar c).reverse ++ done) after := by
  rw [readContent, if_neg (by decide), if_pos rfl]
  split
  · rename_i missing
    rw [escape] at missing
    cases missing
  · rename_i found rest read
    rw [escape, Option.some.injEq, Prod.mk.injEq] at read
    obtain ⟨rfl, rfl⟩ := read
    rfl

theorem hex_value_byte : ∀ digit < 16, hexValue (hexByte digit) = some digit := by
  decide

theorem read_escape_control {c : Char} (control : c.toNat < 0x20) (rest : Bytes) :
    readEscape (0x75 :: 0x30 :: 0x30 :: hexByte (c.toNat / 16) :: hexByte (c.toNat % 16) :: rest) =
      some (c, rest) := by
  have high := hex_value_byte (c.toNat / 16) (by omega)
  have low := hex_value_byte (c.toNat % 16) (by omega)
  have zero : hexValue 0x30 = some 0 := by decide
  have value : c.toNat / 16 * 16 + c.toNat % 16 = c.toNat := by omega
  have notLow : isLowSurrogate c.toNat = false := by
    simp only [isLowSurrogate, decide_eq_false_iff_not]
    omega
  have notHigh : isHighSurrogate c.toNat = false := by
    simp only [isHighSurrogate, decide_eq_false_iff_not]
    omega
  simp [readEscape, readUnicodeEscape, readUnit, zero, high, low, value, notLow, notHigh]

/-- A character is written as an escape of one letter, as an escape with its number, or as it is. -/
theorem encode_char_cases (c : Char) :
    (∃ letter, letter ≠ 0x75 ∧ letterEscape letter = some c ∧ encodeChar c = [0x5C, letter]) ∨
      (c.toNat < 0x20 ∧ encodeChar c =
        [0x5C, 0x75, 0x30, 0x30, hexByte (c.toNat / 16), hexByte (c.toNat % 16)]) ∨
      (c ≠ '\x22' ∧ c ≠ '\\' ∧ ¬c.toNat < 0x20 ∧ encodeChar c = String.utf8EncodeChar c) := by
  by_cases lettered : c ∈ ['\x22', '\\', '\x08', '\x0c', '\n', '\r', '\t']
  · left
    simp only [List.mem_cons, List.not_mem_nil, or_false] at lettered
    rcases lettered with rfl | rfl | rfl | rfl | rfl | rfl | rfl
    all_goals exact ⟨_, by decide, by decide, rfl⟩
  · right
    simp only [List.mem_cons, List.not_mem_nil, or_false, not_or] at lettered
    obtain ⟨quote, slash, backspace, feed, line, ret, tab⟩ := lettered
    simp only [encodeChar, quote, slash, backspace, feed, line, ret, tab, if_false]
    by_cases control : c.toNat < 0x20
    · exact .inl ⟨control, if_pos control⟩
    · exact .inr ⟨quote, slash, control, if_neg control⟩

theorem read_content_char (c : Char) (done rest : Bytes) :
    readContent done (encodeChar c ++ rest) =
      readContent ((String.utf8EncodeChar c).reverse ++ done) rest := by
  rcases encode_char_cases c with
    ⟨letter, other, escape, written⟩ | ⟨control, written⟩ | ⟨quote, slash, printable, written⟩
  · have read : readEscape (letter :: rest) = some (c, rest) := by
      rw [readEscape, if_neg other, escape, Option.map_some]
    rw [written]
    exact read_content_escape read done
  · rw [written]
    exact read_content_escape (read_escape_control control rest) done
  · rw [written]
    exact read_content_plain (fun byte => plain_of_mem_utf8 quote slash printable) done rest

theorem read_content_text (text : List Char) (done rest : Bytes) :
    readContent done (text.flatMap encodeChar ++ 0x22 :: rest) =
      some (done.reverse ++ text.flatMap String.utf8EncodeChar, rest) := by
  induction text generalizing done with
  | nil =>
      rw [List.flatMap_nil, List.nil_append, readContent, if_pos rfl]
      simp
  | cons c text ih =>
      rw [List.flatMap_cons, List.append_assoc, read_content_char, ih]
      simp

/-- A string is read back, whatever its characters. -/
theorem read_string_encode (text : String) (rest : Bytes) :
    readString (encodeString text ++ rest) = some (text, rest) := by
  have opened : expect 0x22 (encodeString text ++ rest) =
      some (text.toList.flatMap encodeChar ++ 0x22 :: rest) := by
    simp [encodeString, expect, skipSpace, isSpace]
  rw [readString, opened]
  simp only [read_content_text, List.reverse_nil, List.nil_append, decode_utf8_encode,
    Option.map_some]

theorem read_whole_text_encode {α : Type} {read : Reader α} {value : α} {written : Bytes}
    (reads : ∀ rest, read (written ++ rest) = some (value, rest)) :
    readWholeText read written = some value := by
  have whole := reads []
  rw [List.append_nil] at whole
  simp [readWholeText, whole, skipSpace]

/-- Values that can be the items of a list: each is read back, and is not taken for white space or
for the end of the list. -/
structure Readable {α : Type} (read : Reader α) (write : α → Bytes) : Prop where
  reads : ∀ value rest, read (write value ++ rest) = some (value, rest)
  starts : ∀ value, ∃ first more, write value = first :: more ∧ isSpace first = false ∧
    first ≠ 0x5D

section Lists

variable {α : Type} {read : Reader α} {write : α → Bytes}

theorem length_le_encode_items (readable : Readable read write) (values : List α) :
    values.length ≤ (encodeItems (values.map write)).length := by
  induction values with
  | nil => exact Nat.le_refl _
  | cons value values ih =>
      obtain ⟨first, more, written, -⟩ := readable.starts value
      cases values with
      | nil => simp [encodeItems, written]
      | cons next values =>
          simp only [List.map_cons, encodeItems, written, List.length_append, List.length_cons,
            List.length_nil] at ih ⊢
          omega

/-- The items of a list are read back, given a round for each. -/
theorem read_items_encode (readable : Readable read write) (value : α) (values : List α)
    (rest : Bytes) (fuel : Nat) (enough : values.length < fuel) :
    readItems read fuel (encodeItems ((value :: values).map write) ++ 0x5D :: rest) =
      some (value :: values, rest) := by
  induction values generalizing value fuel with
  | nil =>
      obtain ⟨fuel, rfl⟩ : ∃ less, fuel = less + 1 := ⟨fuel - 1, by simp at enough; omega⟩
      simp [encodeItems, readItems, readable.reads, skipSpace, isSpace]
  | cons next values ih =>
      obtain ⟨fuel, rfl⟩ : ∃ less, fuel = less + 1 := ⟨fuel - 1, by simp at enough; omega⟩
      have later := ih next fuel (by simp at enough; omega)
      simp only [List.map_cons] at later ⊢
      simp only [encodeItems, List.append_assoc, readItems, readable.reads, List.cons_append,
        List.nil_append, skipSpace]
      rw [List.dropWhile_cons_of_neg (by decide)]
      simp only [later, Option.map_some]

theorem read_list_encode (readable : Readable read write) (values : List α) (rest : Bytes) :
    readList read (encodeList (values.map write) ++ rest) = some (values, rest) := by
  have opened : expect 0x5B (encodeList (values.map write) ++ rest) =
      some (encodeItems (values.map write) ++ 0x5D :: rest) := by
    simp [encodeList, expect, skipSpace, isSpace]
  rw [readList, opened]
  cases values with
  | nil => simp [encodeItems, skipSpace, isSpace]
  | cons value values =>
      obtain ⟨first, more, written, visible, inside⟩ := readable.starts value
      have start : ∃ later, encodeItems ((value :: values).map write) ++ 0x5D :: rest =
          first :: later := by
        cases values <;> simp [encodeItems, written]
      have long := length_le_encode_items readable (value :: values)
      -- The reader allows as many items as there are bytes, which is always enough.
      have items := read_items_encode readable value values rest
        (encodeItems ((value :: values).map write) ++ 0x5D :: rest).length (by
          simp only [List.length_append, List.length_cons] at long ⊢
          omega)
      obtain ⟨later, begun⟩ := start
      rw [begun] at items ⊢
      simp only [skipSpace]
      rw [List.dropWhile_cons_of_neg (by simp [visible])]
      split
      · rename_i ended
        rw [List.cons.injEq] at ended
        exact absurd ended.1 inside
      · exact items

end Lists

end CallMonitor.Json
