import CallMonitor.Json.Value
import CallMonitor.Proofs.Text.Utf8

/-!
The grammar of JSON texts, as far as they are made of lists, strings and the literal for absence,
and without regard to how they are read. It is over characters; `Accepts` says of a reader, which
works on bytes, that it takes exactly the texts of a grammar.
-/

namespace CallMonitor.Json

open CallMonitor.Text

def Spaces (text : List Char) : Prop := ∀ c ∈ text, c ∈ [' ', '\t', '\n', '\r']

/-- Hexadecimal digits in either case, with their values. -/
inductive HexDigit : Char → Nat → Prop
  | decimal {n : Nat} (small : n < 10) : HexDigit (Char.ofNat (0x30 + n)) n
  | lower {n : Nat} (small : n < 6) : HexDigit (Char.ofNat (0x61 + n)) (n + 10)
  | upper {n : Nat} (small : n < 6) : HexDigit (Char.ofNat (0x41 + n)) (n + 10)

/-- Four hexadecimal digits and the UTF-16 unit that they write. -/
inductive UnitDigits : List Char → Nat → Prop
  | four {a b c d : Char} {p q r s : Nat} (first : HexDigit a p) (second : HexDigit b q)
      (third : HexDigit c r) (fourth : HexDigit d s) :
      UnitDigits [a, b, c, d] (((p * 16 + q) * 16 + r) * 16 + s)

/-- The escapes of one letter, with the characters that they denote. -/
def letterEscapes : List (Char × Char) :=
  [('\x22', '\x22'), ('\\', '\\'), ('/', '/'), ('b', '\x08'), ('f', '\x0c'), ('n', '\n'),
    ('r', '\r'), ('t', '\t')]

/-- What may stand after a backslash, with the character that the escape denotes. A surrogate
denotes a character only as the first or the second of a pair. -/
inductive Escape : List Char → Char → Prop
  | letter {letter c : Char} (listed : (letter, c) ∈ letterEscapes) : Escape [letter] c
  | unit {digits : List Char} {n : Nat} (written : UnitDigits digits n)
      (single : n < 0xD800 ∨ 0xDFFF < n) : Escape ('u' :: digits) (Char.ofNat n)
  | pair {highDigits lowDigits : List Char} {high low : Nat}
      (written : UnitDigits highDigits high) (leads : 0xD800 ≤ high ∧ high ≤ 0xDBFF)
      (written' : UnitDigits lowDigits low) (trails : 0xDC00 ≤ low ∧ low ≤ 0xDFFF) :
      Escape ('u' :: (highDigits ++ '\\' :: 'u' :: lowDigits))
        (Char.ofNat (0x10000 + (high - 0xD800) * 0x400 + (low - 0xDC00)))

/-- A character that stands for itself in a string. -/
def Unescaped (c : Char) : Prop := c ≠ '\x22' ∧ c ≠ '\\' ∧ ¬c.toNat < 0x20

/-- What stands between the quotes of a string, and the characters that it denotes. -/
inductive Spells : List Char → List Char → Prop
  | nil : Spells [] []
  | plain {c : Char} {text value : List Char} (unescaped : Unescaped c)
      (later : Spells text value) : Spells (c :: text) (c :: value)
  | escape {mark : List Char} {c : Char} {text value : List Char} (escape : Escape mark c)
      (later : Spells text value) : Spells ('\\' :: (mark ++ text)) (c :: value)

inductive StringText : List Char → String → Prop
  | quoted {inner : List Char} {value : String} (spells : Spells inner value.toList) :
      StringText ('\x22' :: (inner ++ ['\x22'])) value

inductive NullableText : List Char → Option String → Prop
  | null : NullableText ['n', 'u', 'l', 'l'] none
  | text {text : List Char} {value : String} (quoted : StringText text value) :
      NullableText text (some value)

section

variable {α : Type}

inductive Spaced (item : List Char → α → Prop) : List Char → α → Prop
  | around {before text after : List Char} {value : α} (before_spaces : Spaces before)
      (denotes : item text value) (after_spaces : Spaces after) :
      Spaced item (before ++ (text ++ after)) value

inductive Items (item : List Char → α → Prop) : List Char → List α → Prop
  | last {text : List Char} {value : α} (spaced : Spaced item text value) :
      Items item text [value]
  | more {text later : List Char} {value : α} {values : List α}
      (spaced : Spaced item text value) (items : Items item later values) :
      Items item (text ++ ',' :: later) (value :: values)

inductive ListText (item : List Char → α → Prop) : List Char → List α → Prop
  | empty {space : List Char} (spaces : Spaces space) : ListText item ('[' :: (space ++ [']'])) []
  | filled {inner : List Char} {values : List α} (items : Items item inner values) :
      ListText item ('[' :: (inner ++ [']'])) values

/-- A reader takes exactly the texts of a grammar, with any white space before them, whatever
comes after them. -/
def Accepts (read : Reader α) (grammar : List Char → α → Prop) : Prop :=
  ∀ bytes value rest, read bytes = some (value, rest) ↔
    ∃ space text, Spaces space ∧ grammar text value ∧ bytes = utf8 space ++ (utf8 text ++ rest)

theorem Accepts.takes {read : Reader α} {grammar : List Char → α → Prop}
    (accepts : Accepts read grammar) {space text : List Char} {value : α} (spaces : Spaces space)
    (denotes : grammar text value) (rest : Bytes) :
    read (utf8 space ++ (utf8 text ++ rest)) = some (value, rest) :=
  (accepts _ _ _).mpr ⟨space, text, spaces, denotes, rfl⟩

end

theorem Spaces.nil : Spaces [] := by simp [Spaces]

theorem Spaces.append {space more : List Char} (spaces : Spaces space) (spaces' : Spaces more) :
    Spaces (space ++ more) := by
  intro c member
  rcases List.mem_append.mp member with member | member
  · exact spaces c member
  · exact spaces' c member

theorem is_space_iff {byte : UInt8} :
    isSpace byte = true ↔ ∃ c ∈ [' ', '\t', '\n', '\r'], String.utf8EncodeChar c = [byte] := by
  simp only [isSpace, Bool.or_eq_true, beq_iff_eq, List.mem_cons, List.not_mem_nil, or_false,
    exists_eq_or_imp, exists_eq_left]
  have space : String.utf8EncodeChar ' ' = [0x20] := rfl
  have tab : String.utf8EncodeChar '\t' = [0x09] := rfl
  have line : String.utf8EncodeChar '\n' = [0x0A] := rfl
  have ret : String.utf8EncodeChar '\r' = [0x0D] := rfl
  simp only [space, tab, line, ret, List.cons.injEq, and_true, eq_comm, or_assoc]

theorem exists_spaces (bytes : Bytes) :
    ∃ space, Spaces space ∧ bytes = utf8 space ++ skipSpace bytes := by
  induction bytes with
  | nil => exact ⟨[], .nil, rfl⟩
  | cons byte bytes ih =>
      by_cases blank : isSpace byte = true
      · obtain ⟨space, spaces, split⟩ := ih
        obtain ⟨c, listed, encoded⟩ := is_space_iff.mp blank
        refine ⟨c :: space, List.forall_mem_cons.mpr ⟨listed, spaces⟩, ?_⟩
        rw [skipSpace, List.dropWhile_cons_of_pos blank, utf8_cons, encoded, List.append_assoc,
          List.singleton_append]
        exact congrArg _ split
      · refine ⟨[], .nil, ?_⟩
        rw [skipSpace, List.dropWhile_cons_of_neg blank]
        rfl

theorem skip_spaces {space : List Char} (spaces : Spaces space) (bytes : Bytes) :
    skipSpace (utf8 space ++ bytes) = skipSpace bytes := by
  induction space with
  | nil => rfl
  | cons c space ih =>
      obtain ⟨listed, spaces⟩ := List.forall_mem_cons.mp spaces
      obtain ⟨byte, encoded⟩ : ∃ byte, String.utf8EncodeChar c = [byte] := by
        simp only [List.mem_cons, List.not_mem_nil, or_false] at listed
        rcases listed with rfl | rfl | rfl | rfl <;> exact ⟨_, rfl⟩
      have blank : isSpace byte = true := is_space_iff.mpr ⟨c, listed, encoded⟩
      rw [utf8_cons, encoded, List.append_assoc, List.singleton_append, skipSpace,
        List.dropWhile_cons_of_pos blank]
      exact ih spaces

theorem skip_space_visible {byte : UInt8} (visible : isSpace byte = false) (rest : Bytes) :
    skipSpace (byte :: rest) = byte :: rest :=
  List.dropWhile_cons_of_neg (by simp [visible])

theorem expect_iff_skip_space {mark : UInt8} {bytes rest : Bytes} :
    expect mark bytes = some rest ↔ skipSpace bytes = mark :: rest := by
  unfold expect
  split
  · rename_i nothing
    simp [nothing]
  · rename_i byte after start
    rw [start]
    split
    · rename_i same
      simp [same]
    · rename_i other
      simp [other]

theorem expect_eq_some_iff {mark : UInt8} (visible : isSpace mark = false) {bytes rest : Bytes} :
    expect mark bytes = some rest ↔
      ∃ space, Spaces space ∧ bytes = utf8 space ++ mark :: rest := by
  rw [expect_iff_skip_space]
  constructor
  · intro start
    obtain ⟨space, spaces, split⟩ := exists_spaces bytes
    exact ⟨space, spaces, start ▸ split⟩
  · rintro ⟨space, spaces, rfl⟩
    rw [skip_spaces spaces, skip_space_visible visible]

theorem expect_word_eq_some_iff {word bytes rest : Bytes} :
    expectWord word bytes = some rest ↔ bytes = word ++ rest := by
  fun_induction expectWord word bytes with
  | case1 bytes => simp
  | case2 letter word => simp
  | case3 letter word bytes ih => simpa using ih
  | case4 letter word byte bytes other => simp [other]

end CallMonitor.Json
