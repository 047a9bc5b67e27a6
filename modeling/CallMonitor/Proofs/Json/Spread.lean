import CallMonitor.Proofs.Json.Lists
import CallMonitor.Proofs.Json.Objects
import CallMonitor.Proofs.Text.Digits

/-!
The spread form of a document, in which people see it, is read back as the compact form is: the
readers pass over the line ends and the blanks that are between its parts.
-/

namespace CallMonitor.Json

open CallMonitor.Text

theorem spaces_new_line (depth : Nat) : Spaces (newLine depth).toList := by
  intro c member
  simp only [newLine, String.toList_append, String.toList_ofList, List.mem_append,
    List.mem_replicate] at member
  rcases member with feed | ⟨-, rfl⟩
  · have same : c = '\n' := by simpa using feed
    simp [same]
  · simp

/-- What is shown of a text is a string of the grammar that denotes it. -/
theorem exists_string_text (text : String) :
    ∃ space written, Spaces space ∧ StringText written text ∧
      (stringText text).toList = space ++ written ∧
      encodeString text = utf8 (space ++ written) := by
  have read := read_string_encode text []
  obtain ⟨space, written, spaces, quoted, split⟩ := (accepts_string _ _ _).mp read
  rw [List.append_nil, List.append_nil, ← utf8_append] at split
  have decoded : decodeUtf8 (encodeString text) = some (String.ofList (space ++ written)) := by
    rw [decode_utf8_eq_some_iff, split, encodeUtf8, String.toList_ofList, utf8]
  refine ⟨space, written, spaces, quoted, ?_, split⟩
  rw [stringText, decoded, Option.getD_some, String.toList_ofList]

theorem utf8_string_text (text : String) : utf8 (stringText text).toList = encodeString text := by
  obtain ⟨space, written, -, -, shown, encoded⟩ := exists_string_text text
  rw [shown, encoded]

/-- A value that stands behind a blank is read over it, up to what may follow it in an object. -/
def Reads {α : Type} (read : Reader α) (shown : String) (value : α) : Prop :=
  ∀ rest, EndsMember rest → read (utf8 (' ' :: shown.toList) ++ rest) = some (value, rest)

theorem spaces_blank : Spaces [' '] := by simp [Spaces]

theorem reads_text (text : String) (depth : Nat) :
    Reads readString ((Document.text text).spread depth) text := by
  intro rest _
  have spaced := read_string_spaced spaces_blank (encodeString text ++ rest)
  rw [read_string_encode, ← utf8_string_text, ← List.append_assoc, ← utf8_append] at spaced
  exact spaced

section Nullable

theorem reads_nullable_text (text : String) (depth : Nat) :
    Reads readNullable ((Document.text text).spread depth) (some text) := by
  intro rest _
  obtain ⟨space, written, spaces, quoted, shown, -⟩ := exists_string_text text
  have taken := accepts_nullable.takes (spaces_blank.append spaces) (.text quoted) rest
  rw [← List.append_assoc, ← utf8_append, List.append_assoc, ← shown] at taken
  exact taken

theorem reads_null (depth : Nat) : Reads readNullable (Document.null.spread depth) none := by
  intro rest _
  have taken := accepts_nullable.takes spaces_blank .null rest
  rw [← List.append_assoc, ← utf8_append] at taken
  rw [Document.spread]
  exact taken

end Nullable

section Lists

/-- Texts that are shown one in a line are the items of a list. -/
theorem items_of_texts {space closing : List Char} (spaces : Spaces space)
    (spaces' : Spaces closing) (first : String) (texts : List String) :
    Items StringText
      (space ++ ((',' :: space).intercalate
        ((first :: texts).map fun text => (stringText text).toList) ++ closing))
      (first :: texts) := by
  induction texts generalizing first with
  | nil =>
      obtain ⟨before, written, spaces'', quoted, shown, -⟩ := exists_string_text first
      rw [List.map_singleton, List.intercalate_singleton, shown, List.append_assoc,
        ← List.append_assoc]
      exact .last (.around (spaces.append spaces'') quoted spaces')
  | cons next texts ih =>
      obtain ⟨before, written, spaces'', quoted, shown, -⟩ := exists_string_text first
      have whole : Spaced StringText (space ++ (stringText first).toList) first := by
        have around : Spaced StringText ((space ++ before) ++ (written ++ [])) first :=
          .around (spaces.append spaces'') quoted .nil
        rw [List.append_nil, List.append_assoc, ← shown] at around
        exact around
      have items := Items.more whole (ih next)
      rw [List.map_cons, List.map_cons, List.intercalate_cons_cons]
      rw [List.map_cons] at items
      simpa only [List.append_assoc, List.cons_append] using items

theorem spread_items_texts (depth : Nat) (texts : List String) :
    spreadItems depth (texts.map .text) = texts.map stringText := by
  induction texts with
  | nil => rfl
  | cons text texts ih => rw [List.map_cons, spreadItems, ih, List.map_cons, Document.spread]

theorem list_text_spread (depth : Nat) (texts : List String) :
    ListText StringText ((Document.list (texts.map .text)).spread depth).toList texts := by
  rw [Document.spread, spread_items_texts, block]
  cases texts with
  | nil =>
      have empty : ListText StringText ('[' :: ([] ++ [']'])) [] := .empty .nil
      simpa using empty
  | cons first texts =>
      have items := items_of_texts (spaces_new_line (depth + 1)) (spaces_new_line depth) first texts
      have filled := ListText.filled items
      simpa [String.toList_intercalate, List.map_map, Function.comp_def, List.append_assoc]
        using filled

theorem reads_texts (texts : List String) (depth : Nat) :
    Reads (readList readString) ((Document.list (texts.map .text)).spread depth) texts := by
  intro rest _
  have starts : ∀ text value, StringText text value → StartsItem (utf8 text) := by
    intro text value quoted
    obtain ⟨more, start⟩ := quoted.start []
    rw [List.append_nil] at start
    exact ⟨_, more, start, rfl, by decide⟩
  have taken := (accepts_list accepts_string starts).takes spaces_blank
    (list_text_spread depth texts) rest
  rw [← List.append_assoc, ← utf8_append] at taken
  exact taken

end Lists

section Numbers

/-- A count: a whole number without a sign, of any size, white space before it allowed. -/
def readCount (bytes : Bytes) : Option (Nat × Bytes) :=
  (readWhole (skipSpace bytes)).map fun read => (digitsValue read.1, read.2)

/-- A digit as it is written: one byte, which is a digit's and is counted from that of zero. -/
theorem encode_digit : ∀ digit < 10, ∃ byte,
    String.utf8EncodeChar (Nat.digitChar digit) = [byte] ∧ isDigit byte = true ∧
      byte.toNat - 0x30 = digit ∧ (byte = 0x30 → Nat.digitChar digit = '0') := by
  intro digit small
  refine ⟨UInt8.ofNat (0x30 + digit), ?_⟩
  revert digit
  decide

theorem digits_of_number (n : Nat) : ∀ byte ∈ utf8 (Nat.toDigits 10 n), isDigit byte = true := by
  intro byte member
  obtain ⟨c, among, inside⟩ := List.mem_flatMap.mp member
  obtain ⟨digit, small, rfl⟩ := digit_of_mem (by decide) among
  obtain ⟨other, encoded, isDigit, -⟩ := encode_digit digit small
  rw [encoded, List.mem_singleton] at inside
  exact inside ▸ isDigit

theorem digits_value_number (n : Nat) : digitsValue (utf8 (Nat.toDigits 10 n)) = n := by
  induction n using Nat.strong_induction_on with
  | _ n ih =>
      by_cases small : n < 10
      · obtain ⟨byte, encoded, -, value, -⟩ := encode_digit n small
        rw [Nat.toDigits_of_lt_base small, utf8_cons, encoded, utf8_nil]
        simpa [digitsValue] using value
      · have large : 10 ≤ n := Nat.le_of_not_lt small
        obtain ⟨byte, encoded, -, value, -⟩ := encode_digit (n % 10) (Nat.mod_lt _ (by decide))
        have before := ih (n / 10) (Nat.div_lt_self (by omega) (by decide))
        rw [digitsValue] at before
        rw [to_digits_step (by decide) large, utf8_append, utf8_cons, encoded, utf8_nil,
          digitsValue, List.foldl_append, before]
        simp only [List.append_nil, List.foldl_cons, List.foldl_nil, value]
        exact Nat.div_add_mod' n 10

theorem stops_at_end {rest : Bytes} (ends : EndsMember rest) : Stops isDigit rest := by
  rintro first starts
  obtain ⟨mark, more, rfl, blank | rfl | rfl⟩ := ends
  · cases starts
    simp only [isSpace, Bool.or_eq_true, beq_iff_eq] at blank
    rcases blank with ((rfl | rfl) | rfl) | rfl <;> decide
  · cases starts
    decide
  · cases starts
    decide

/-- The digits of a number start with a zero only if it is the only one. -/
theorem exists_first_digit (n : Nat) :
    ∃ byte more, utf8 (Nat.toDigits 10 n) = byte :: more ∧ isDigit byte = true ∧
      (byte = 0x30 → more = []) := by
  cases written : Nat.toDigits 10 n with
  | nil => exact absurd written Nat.toDigits_ne_nil
  | cons c others =>
      obtain ⟨digit, small, rfl⟩ := digit_of_mem (by decide) (written ▸ List.mem_cons_self)
      obtain ⟨byte, encoded, isDigit, -, zero⟩ := encode_digit digit small
      refine ⟨byte, utf8 others, by rw [utf8_cons, encoded]; rfl, isDigit, fun leading => ?_⟩
      by_cases positive : 0 < n
      · have visible := head_ne_zero (by decide : 1 < 10) (by decide) positive
        rw [written, List.head?_cons, zero leading] at visible
        exact absurd rfl visible
      · have single : Nat.toDigits 10 n = ['0'] := by
          rw [Nat.eq_zero_of_not_pos positive]
          rfl
        rw [single, List.cons.injEq] at written
        rw [← written.2, utf8_nil]

theorem visible_of_digit {byte : UInt8} (digit : isDigit byte = true) : isSpace byte = false := by
  rw [← Bool.not_eq_true]
  intro blank
  simp only [isSpace, Bool.or_eq_true, beq_iff_eq] at blank
  rcases blank with ((rfl | rfl) | rfl) | rfl <;> revert digit <;> decide

theorem read_whole_number {rest : Bytes} (ends : EndsMember rest) (n : Nat) :
    readWhole (utf8 (Nat.toDigits 10 n) ++ rest) = some (utf8 (Nat.toDigits 10 n), rest) := by
  have taken := take_while_run (digits_of_number n) (stops_at_end ends)
  have dropped := drop_while_run (digits_of_number n) (stops_at_end ends)
  obtain ⟨byte, more, written, -, lone⟩ := exists_first_digit n
  rw [readWhole, taken, dropped, written]
  have single : ¬(byte = 0x30 ∧ more ≠ []) := fun leading => leading.2 (lone leading.1)
  exact if_neg single

theorem reads_number (n depth : Nat) :
    Reads readCount ((Document.number n).spread depth) n := by
  intro rest ends
  have digits : ((Document.number n).spread depth).toList = Nat.toDigits 10 n := by
    simp [Document.spread, Nat.repr]
  have start : skipSpace (utf8 (Nat.toDigits 10 n) ++ rest) =
      utf8 (Nat.toDigits 10 n) ++ rest := by
    obtain ⟨byte, more, written, digit, -⟩ := exists_first_digit n
    rw [written]
    exact skip_space_visible (visible_of_digit digit) _
  rw [digits, readCount, ← List.singleton_append, utf8_append, List.append_assoc,
    skip_spaces spaces_blank, start, read_whole_number ends, Option.map_some, digits_value_number]

end Numbers

section Objects

@[simp] theorem encode_colon : String.utf8EncodeChar ':' = [0x3A] := rfl

@[simp] theorem encode_brace : String.utf8EncodeChar '\x7b' = [0x7B] := rfl

@[simp] theorem encode_closing_brace : String.utf8EncodeChar '\x7d' = [0x7D] := rfl

theorem utf8_spaced_items (space : List Char) (items : List (List Char)) :
    utf8 ((',' :: space).intercalate items) = spacedItems space (items.map utf8) := by
  induction items with
  | nil => rfl
  | cons item items ih =>
      cases items with
      | nil => simp [spacedItems]
      | cons next items =>
          rw [List.map_cons] at ih
          rw [List.intercalate_cons_cons, utf8_append, utf8_append, ih, List.map_cons,
            List.map_cons, spacedItems, utf8_cons, encode_comma, List.append_assoc]
          simp

/-- A member as it stands in a spread object: its value is behind a blank. -/
def spreadMember (depth : Nat) (item : String × Document) : String × Bytes :=
  (item.1, utf8 (' ' :: (item.2.spread depth).toList))

theorem spread_members_written (depth : Nat) (members : List (String × Document)) :
    (spreadMembers depth members).map (fun shown => utf8 shown.toList) =
      (members.map (spreadMember depth)).map writtenMember := by
  induction members with
  | nil => rfl
  | cons item members ih =>
      obtain ⟨name, value⟩ := item
      have written : utf8 (stringText name ++ ": " ++ value.spread depth).toList =
          writtenMember (spreadMember depth (name, value)) := by
        simp [writtenMember, spreadMember, utf8_string_text]
      rw [spreadMembers, List.map_cons, ih, written, List.map_cons, List.map_cons]

theorem read_object_spread {σ : Type} {member : String → σ → Reader σ} {state last : σ}
    {first : String × Document} {members : List (String × Document)} (depth : Nat)
    (fills : Fills member state ((first :: members).map (spreadMember (depth + 1))) last)
    (rest : Bytes) :
    readObject member state
        (utf8 ((Document.object (first :: members)).spread depth).toList ++ rest) =
      some (last, rest) := by
  have read := read_object_spaced (spaces_new_line (depth + 1)) (spaces_new_line depth) fills rest
  rw [← List.map_cons, ← spread_members_written, ← Function.comp_def, ← List.map_map,
    ← utf8_spaced_items] at read
  have some : (spreadMembers (depth + 1) (first :: members)).isEmpty = false := rfl
  rw [Document.spread, block, some]
  simpa [String.toList_intercalate] using read

end Objects

end CallMonitor.Json
