import CallMonitor.Proofs.Json.Grammar
import CallMonitor.Proofs.Json.RoundTrip

/-!
The reader of strings takes exactly the strings of the grammar. It goes over the bytes of a string
one by one and checks only at the end that what it has collected is UTF-8. That this comes to the
same as going over characters is shown in two steps: bytes that stand for themselves and escapes
first, whole characters then.
-/

namespace CallMonitor.Json

open CallMonitor.Text

theorem encode_char_of_ascii :
    ∀ n < 0x80, String.utf8EncodeChar (Char.ofNat n) = [UInt8.ofNat n] := by
  decide

theorem exists_digit {byte : UInt8} {n : Nat} (read : hexValue byte = some n) :
    ∃ c, HexDigit c n ∧ String.utf8EncodeChar c = [byte] := by
  have written : ∀ {start m : Nat}, start ≤ byte.toNat → byte.toNat - start = m →
      byte.toNat < 0x80 → String.utf8EncodeChar (Char.ofNat (start + m)) = [byte] := by
    rintro start _ above rfl ascii
    rw [Nat.add_sub_cancel' above, encode_char_of_ascii _ ascii, UInt8.ofNat_toNat]
  simp only [hexValue] at read
  split at read
  · cases read
    exact ⟨_, .decimal (by omega), written (by omega) rfl (by omega)⟩
  split at read
  · cases read
    exact ⟨_, .lower (by omega), written (by omega) rfl (by omega)⟩
  split at read
  · cases read
    exact ⟨_, .upper (by omega), written (by omega) rfl (by omega)⟩
  · cases read

theorem HexDigit.read {c : Char} {n : Nat} (digit : HexDigit c n) :
    ∃ byte, String.utf8EncodeChar c = [byte] ∧ hexValue byte = some n := by
  have decimal : ∀ n < 10, hexValue (UInt8.ofNat (0x30 + n)) = some n := by decide
  have lower : ∀ n < 6, hexValue (UInt8.ofNat (0x61 + n)) = some (n + 10) := by decide
  have upper : ∀ n < 6, hexValue (UInt8.ofNat (0x41 + n)) = some (n + 10) := by decide
  cases digit with
  | decimal small => exact ⟨_, encode_char_of_ascii _ (by omega), decimal _ small⟩
  | lower small => exact ⟨_, encode_char_of_ascii _ (by omega), lower _ small⟩
  | upper small => exact ⟨_, encode_char_of_ascii _ (by omega), upper _ small⟩

theorem exists_unit {bytes rest : Bytes} {n : Nat} (read : readUnit bytes = some (n, rest)) :
    ∃ digits, UnitDigits digits n ∧ bytes = utf8 digits ++ rest := by
  unfold readUnit at read
  split at read
  · split at read
    · rename_i first second third fourth
      cases read
      obtain ⟨_, digit, written⟩ := exists_digit first
      obtain ⟨_, digit₂, written₂⟩ := exists_digit second
      obtain ⟨_, digit₃, written₃⟩ := exists_digit third
      obtain ⟨_, digit₄, written₄⟩ := exists_digit fourth
      refine ⟨_, .four digit digit₂ digit₃ digit₄, ?_⟩
      simp [written, written₂, written₃, written₄]
    · cases read
  · cases read

theorem UnitDigits.read {digits : List Char} {n : Nat} (written : UnitDigits digits n)
    (rest : Bytes) : readUnit (utf8 digits ++ rest) = some (n, rest) := by
  obtain ⟨first, second, third, fourth⟩ := written
  obtain ⟨a, written, value⟩ := first.read
  obtain ⟨b, written₂, value₂⟩ := second.read
  obtain ⟨c, written₃, value₃⟩ := third.read
  obtain ⟨d, written₄, value₄⟩ := fourth.read
  simp [written, written₂, written₃, written₄, readUnit, value, value₂, value₃, value₄]

/-- A listed letter is one byte, is not taken for a unit, and is read. -/
theorem letter_escape_listed : ∀ pair ∈ letterEscapes,
    String.utf8EncodeChar pair.1 = [UInt8.ofNat pair.1.toNat] ∧
      UInt8.ofNat pair.1.toNat ≠ 0x75 ∧
      letterEscape (UInt8.ofNat pair.1.toNat) = some pair.2 := by
  decide

theorem exists_letter {byte : UInt8} {c : Char} (read : letterEscape byte = some c) :
    ∃ letter, (letter, c) ∈ letterEscapes ∧ String.utf8EncodeChar letter = [byte] := by
  have written : ∀ letter, (letter, c) ∈ letterEscapes → byte = UInt8.ofNat letter.toNat →
      ∃ letter, (letter, c) ∈ letterEscapes ∧ String.utf8EncodeChar letter = [byte] := by
    rintro letter listed rfl
    exact ⟨letter, listed, (letter_escape_listed _ listed).1⟩
  unfold letterEscape at read
  repeat' split at read
  all_goals cases read
  all_goals rename_i same
  · exact written '\x22' (by decide) same
  · exact written '\\' (by decide) same
  · exact written '/' (by decide) same
  · exact written 'b' (by decide) same
  · exact written 'f' (by decide) same
  · exact written 'n' (by decide) same
  · exact written 'r' (by decide) same
  · exact written 't' (by decide) same

/-- What is read after a backslash and a `u` is a unit that is no surrogate, or a pair. -/
theorem exists_unicode_escape {bytes rest : Bytes} {c : Char}
    (read : readUnicodeEscape bytes = some (c, rest)) :
    ∃ digits, Escape ('u' :: digits) c ∧ bytes = utf8 digits ++ rest := by
  unfold readUnicodeEscape at read
  split at read
  · cases read
  rename_i high after first
  obtain ⟨digits, written, rfl⟩ := exists_unit first
  split at read
  · cases read
  rename_i notLow
  split at read
  · rename_i leads
    split at read
    · rename_i slash letter more
      split at read
      · rename_i marks
        obtain ⟨rfl, rfl⟩ := marks
        split at read
        · cases read
        rename_i low last second
        obtain ⟨digits', written', rfl⟩ := exists_unit second
        split at read
        · rename_i trails
          rw [Option.some.injEq, Prod.mk.injEq] at read
          obtain ⟨rfl, rfl⟩ := read
          refine ⟨digits ++ '\\' :: 'u' :: digits', ?_, ?_⟩
          · exact .pair written (of_decide_eq_true leads) written' (of_decide_eq_true trails)
          · rw [utf8_append, List.append_assoc]
            rfl
        · cases read
      · cases read
    · cases read
  · rename_i notHigh
    rw [Option.some.injEq, Prod.mk.injEq] at read
    obtain ⟨rfl, rfl⟩ := read
    refine ⟨digits, .unit written ?_, rfl⟩
    simp only [isLowSurrogate, isHighSurrogate, decide_eq_true_eq] at notLow notHigh
    omega

theorem exists_escape {bytes rest : Bytes} {c : Char} (read : readEscape bytes = some (c, rest)) :
    ∃ mark, Escape mark c ∧ bytes = utf8 mark ++ rest := by
  unfold readEscape at read
  split at read
  · cases read
  rename_i byte after
  split at read
  · rename_i isUnit
    obtain ⟨digits, escape, rfl⟩ := exists_unicode_escape read
    exact ⟨_, escape, by rw [isUnit]; rfl⟩
  · simp only [Option.map_eq_some_iff, Prod.mk.injEq] at read
    obtain ⟨_, found, rfl, rfl⟩ := read
    obtain ⟨letter, listed, written⟩ := exists_letter found
    exact ⟨[letter], .letter listed, by simp [written]⟩

theorem Escape.read {mark : List Char} {c : Char} (escape : Escape mark c) (rest : Bytes) :
    readEscape (utf8 mark ++ rest) = some (c, rest) := by
  have unit : ∀ digits bytes, readEscape (utf8 ('u' :: digits) ++ bytes) =
      readUnicodeEscape (utf8 digits ++ bytes) := fun _ _ => rfl
  cases escape with
  | letter listed =>
      obtain ⟨written, other, value⟩ := letter_escape_listed _ listed
      simp [written, readEscape, other, value]
  | @unit digits n written single =>
      have notLow : isLowSurrogate n = false := by simp [isLowSurrogate]; omega
      have notHigh : isHighSurrogate n = false := by simp [isHighSurrogate]; omega
      rw [unit, readUnicodeEscape, written.read]
      simp [notLow, notHigh]
  | @pair digits digits' high low written leads written' trails =>
      have notLow : isLowSurrogate high = false := by simp [isLowSurrogate]; omega
      have isHigh : isHighSurrogate high = true := decide_eq_true leads
      have isLow : isLowSurrogate low = true := decide_eq_true trails
      have marks : utf8 ('\\' :: 'u' :: digits') = 0x5C :: 0x75 :: utf8 digits' := rfl
      rw [unit, readUnicodeEscape, utf8_append, List.append_assoc, written.read, marks]
      simp [notLow, isHigh, written'.read, isLow, pairChar]

/-- Bytes that stand for themselves and escapes, with the bytes that they denote. -/
inductive Pieces : Bytes → Bytes → Prop
  | nil : Pieces [] []
  | plain {byte : UInt8} {written value : Bytes} (plain : IsPlain byte)
      (later : Pieces written value) : Pieces (byte :: written) (byte :: value)
  | escape {mark : List Char} {c : Char} {written value : Bytes} (escape : Escape mark c)
      (later : Pieces written value) :
      Pieces (0x5C :: (utf8 mark ++ written)) (String.utf8EncodeChar c ++ value)

theorem exists_pieces {done bytes content rest : Bytes}
    (read : readContent done bytes = some (content, rest)) :
    ∃ written value, Pieces written value ∧ bytes = written ++ 0x22 :: rest ∧
      content = done.reverse ++ value := by
  fun_induction readContent done bytes with
  | case1 => cases read
  | case2 done rest =>
      cases read
      exact ⟨[], [], .nil, rfl, by simp⟩
  | case3 => cases read
  | case4 done bytes c after escape =>
      rename_i ih
      obtain ⟨written, value, pieces, rfl, rfl⟩ := ih read
      obtain ⟨mark, denotes, rfl⟩ := exists_escape escape
      exact ⟨_, _, .escape denotes pieces, by simp, by simp⟩
  | case5 => cases read
  | case6 done byte bytes quote slash printable ih =>
      obtain ⟨written, value, pieces, rfl, rfl⟩ := ih read
      exact ⟨_, _, .plain ⟨quote, slash, printable⟩ pieces, rfl, by simp⟩

/-- Bytes that start no character stand for themselves. -/
theorem Pieces.split {more written value : Bytes}
    (continues : ∀ byte ∈ more, ¬byte.IsUTF8FirstByte)
    (pieces : Pieces written (more ++ value)) :
    ∃ later, written = more ++ later ∧ Pieces later value ∧ ∀ byte ∈ more, IsPlain byte := by
  induction more generalizing written with
  | nil => exact ⟨written, rfl, pieces, by simp⟩
  | cons byte more ih =>
      obtain ⟨continuing, continues⟩ := List.forall_mem_cons.mp continues
      generalize denoted : byte :: more ++ value = whole at pieces
      cases pieces with
      | nil => cases denoted
      | plain plain pieces =>
          cases denoted
          obtain ⟨later, rfl, pieces, plains⟩ := ih continues pieces
          exact ⟨later, rfl, pieces, List.forall_mem_cons.mpr ⟨plain, plains⟩⟩
      | @escape mark c written value escape pieces =>
          obtain ⟨first, others, encoded, starts, -⟩ := encode_char_shape c
          rw [encoded, List.cons_append, List.cons_append, List.cons.injEq] at denoted
          exact absurd (denoted.1 ▸ starts) continuing

theorem unescaped_of_plain {c : Char} {first : UInt8} {more : Bytes}
    (encoded : String.utf8EncodeChar c = first :: more) (plain : IsPlain first) :
    Unescaped c := by
  obtain ⟨quote, slash, printable⟩ := plain
  refine ⟨?_, ?_, ?_⟩
  · rintro rfl
    cases encoded
    exact quote rfl
  · rintro rfl
    cases encoded
    exact slash rfl
  · intro control
    have ascii := encode_char_of_ascii c.toNat (by omega)
    rw [Char.ofNat_toNat, encoded, List.cons.injEq] at ascii
    apply printable
    rw [ascii.1, UInt8.lt_iff_toNat_lt, UInt8.toNat_ofNat']
    exact Nat.lt_of_le_of_lt (Nat.mod_le _ _) control

/-- Pieces that denote whole characters are characters. -/
theorem Pieces.spells {written : Bytes} {value : List Char} (pieces : Pieces written (utf8 value)) :
    ∃ text, Spells text value ∧ written = utf8 text := by
  induction value generalizing written with
  | nil =>
      generalize denoted : utf8 [] = whole at pieces
      cases pieces with
      | nil => exact ⟨[], .nil, rfl⟩
      | plain _ _ => cases denoted
      | @escape _ c _ _ _ _ =>
          exact absurd (List.append_eq_nil_iff.mp denoted.symm).1 String.utf8EncodeChar_ne_nil
  | cons c value ih =>
      rw [utf8_cons] at pieces
      obtain ⟨first, more, encoded, -, continues⟩ := encode_char_shape c
      generalize denoted : String.utf8EncodeChar c ++ utf8 value = whole at pieces
      cases pieces with
      | nil =>
          exact absurd (List.append_eq_nil_iff.mp denoted).1 String.utf8EncodeChar_ne_nil
      | plain plain pieces =>
          rw [encoded] at denoted
          cases denoted
          obtain ⟨later, rfl, pieces, -⟩ := pieces.split continues
          obtain ⟨text, spells, rfl⟩ := ih pieces
          refine ⟨c :: text, .plain (unescaped_of_plain encoded plain) spells, ?_⟩
          rw [utf8_cons, encoded]
          rfl
      | escape escape pieces =>
          obtain ⟨rfl, rfl⟩ := encode_char_cancel denoted
          obtain ⟨text, spells, rfl⟩ := ih pieces
          exact ⟨_, .escape escape spells, by rw [utf8_cons, utf8_append]; rfl⟩

theorem Spells.read {text value : List Char} (spells : Spells text value) (done rest : Bytes) :
    readContent done (utf8 text ++ 0x22 :: rest) = some (done.reverse ++ utf8 value, rest) := by
  induction spells generalizing done with
  | nil =>
      rw [utf8_nil, List.nil_append, readContent, if_pos rfl]
      simp
  | plain unescaped _ ih =>
      obtain ⟨quote, slash, printable⟩ := unescaped
      rw [utf8_cons, List.append_assoc,
        read_content_plain (fun byte => plain_of_mem_utf8 quote slash printable), ih]
      simp
  | @escape mark c text value escape _ ih =>
      have start : utf8 ('\\' :: (mark ++ text)) ++ 0x22 :: rest =
          0x5C :: (utf8 mark ++ (utf8 text ++ 0x22 :: rest)) := by
        rw [utf8_cons, utf8_append, List.append_assoc, List.append_assoc]
        rfl
      rw [start, read_content_escape (escape.read _), ih]
      simp

theorem accepts_string : Accepts readString StringText := by
  intro bytes value rest
  constructor
  · intro read
    unfold readString at read
    split at read
    · cases read
    rename_i inside opened
    obtain ⟨space, spaces, rfl⟩ := (expect_eq_some_iff rfl).mp opened
    split at read
    · cases read
    rename_i content after found
    obtain ⟨written, denoted, pieces, rfl, rfl⟩ := exists_pieces found
    simp only [Option.map_eq_some_iff, Prod.mk.injEq] at read
    obtain ⟨_, decoded, rfl, rfl⟩ := read
    obtain rfl := decode_utf8_eq_some_iff.mp decoded
    obtain ⟨inner, spells, rfl⟩ := pieces.spells
    refine ⟨space, _, spaces, .quoted spells, ?_⟩
    rw [utf8_cons, utf8_append, List.append_assoc, List.append_assoc]
    rfl
  · rintro ⟨space, _, spaces, ⟨spells⟩, rfl⟩
    have opened : ∀ inner : List Char, expect 0x22
        (utf8 space ++ (utf8 ('\x22' :: (inner ++ ['\x22'])) ++ rest)) =
          some (utf8 inner ++ 0x22 :: rest) := by
      intro inner
      refine (expect_eq_some_iff rfl).mpr ⟨space, spaces, ?_⟩
      rw [utf8_cons, utf8_append, List.append_assoc, List.append_assoc]
      rfl
    have decoded : decodeUtf8 (utf8 value.toList) = some value := decode_utf8_encode value
    rw [readString, opened]
    simp only [spells.read, List.reverse_nil, List.nil_append, decoded, Option.map_some]

end CallMonitor.Json
