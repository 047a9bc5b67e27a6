import CallMonitor.Proofs.Text.Digits
import CallMonitor.Toml.Value
import CallMonitor.Toml.Write

/-!
Whole numbers of documents. A written number is read back, whatever ends it, unless it is too large
for a document to hold. The point, the exponent, the date or the base that digits may also lead to
are excluded by what follows them.
-/

namespace CallMonitor.Toml

open CallMonitor.Text

/-- What follows a written value: the end of its line, or the mark after it in a list. -/
def EndsValue (rest : List Char) : Prop :=
  ∃ c more, rest = c :: more ∧ (c = '\n' ∨ c = ',' ∨ c = ']')

/-- A reader gets a value back from what was written, and leaves what follows it. -/
def ReadsBack {α : Type} (read : Reader α) (written : List Char) (value : α) : Prop :=
  ∀ rest, EndsValue rest → read (written ++ rest) = some (value, rest)

theorem EndsValue.stops {rest : List Char} (ends : EndsValue rest) {p : Char → Bool}
    (line : p '\n' = false) (comma : p ',' = false) (bracket : p ']' = false) : Stops p rest := by
  obtain ⟨c, more, rfl, kind⟩ := ends
  rintro d ⟨⟩
  rcases kind with rfl | rfl | rfl
  · exact line
  · exact comma
  · exact bracket

theorem digit_of_written : ∀ digit < 10, isDigit (Nat.digitChar digit) = true := by decide

theorem digits_of_written (n : Nat) : ∀ c ∈ Nat.toDigits 10 n, isDigit c = true := by
  intro c member
  obtain ⟨digit, below, rfl⟩ := digit_of_mem (by decide) member
  exact digit_of_written digit below

/-- The first character after a run of digits ends the value. -/
theorem EndsValue.after_digits {digits rest front more : List Char} {c : Char}
    (ends : EndsValue rest) (all : ∀ d ∈ digits, isDigit d = true)
    (shape : digits ++ rest = front ++ c :: more) (passed : ∀ d ∈ front, isDigit d = true)
    (other : isDigit c = false) : c = '\n' ∨ c = ',' ∨ c = ']' := by
  have left : (digits ++ rest).dropWhile isDigit = rest :=
    drop_while_run all (ends.stops rfl rfl rfl)
  have right : (front ++ c :: more).dropWhile isDigit = c :: more :=
    drop_while_run passed (by rintro d ⟨⟩; exact other)
  rw [shape, right] at left
  obtain ⟨d, others, same, kind⟩ := ends
  rw [same] at left
  cases left
  exact kind

theorem value_of_to_digits (n : Nat) : valueOf 10 (Nat.toDigits 10 n) = n :=
  fold_to_digits (by decide) (fun digit below => known_hex_digit digit (by omega)) n

theorem span_digits_from_run {base : Nat} {digits rest : List Char} (inside : Bool)
    (all : ∀ c ∈ digits, isDigitOf base c = true) (ends : EndsValue rest) :
    spanDigitsFrom base inside (digits ++ rest) = (digits, rest) := by
  induction digits generalizing inside with
  | nil =>
      obtain ⟨c, more, rfl, kind⟩ := ends
      rcases kind with rfl | rfl | rfl <;> rfl
  | cons c digits ih =>
      obtain ⟨first, others⟩ := List.forall_mem_cons.mp all
      rw [List.cons_append, spanDigitsFrom, if_pos first, ih true others]

/-- The digits of a number, with what follows them. -/
structure Digits (n : Nat) (first : Char) (others rest : List Char) : Prop where
  written : Nat.toDigits 10 n = first :: others
  ends : EndsValue rest

theorem exists_digits (n : Nat) {rest : List Char} (ends : EndsValue rest) :
    ∃ first others, Digits n first others rest := by
  cases written : Nat.toDigits 10 n with
  | nil => exact absurd written Nat.toDigits_ne_nil
  | cons first others => exact ⟨first, others, written, ends⟩

namespace Digits

variable {n : Nat} {first : Char} {others rest : List Char}

theorem all (digits : Digits n first others rest) : ∀ c ∈ first :: others, isDigit c = true :=
  digits.written ▸ digits_of_written n

theorem first_ne (digits : Digits n first others rest) {mark : Char}
    (other : isDigit mark = false) : first ≠ mark := by
  rintro rfl
  have digit := digits.all first List.mem_cons_self
  rw [other] at digit
  cases digit

/-- What the digits lead to is none of the marks that would make them something else. -/
theorem leads_to (digits : Digits n first others rest) (front : List Char) {more : List Char}
    {c : Char} (shape : first :: (others ++ rest) = front ++ c :: more)
    (passed : ∀ d ∈ front, isDigit d = true) (other : isDigit c = false) :
    c = '\n' ∨ c = ',' ∨ c = ']' :=
  digits.ends.after_digits digits.all shape passed other

theorem read_plain (digits : Digits n first others rest) :
    readPlain (first :: (others ++ rest)) = some (first :: others, rest) := by
  have known : ∀ c ∈ first :: others, isDigitOf 10 c = true := by
    rw [← digits.written]
    intro c member
    obtain ⟨digit, below, rfl⟩ := digit_of_mem (by decide) member
    simp [isDigitOf, known_hex_digit digit (by omega), below]
  have span := span_digits_from_run false known digits.ends
  rw [List.cons_append] at span
  by_cases zero : n = 0
  · subst zero
    cases digits.written
    rfl
  · have head := @head_ne_zero 10 (by decide) (by decide) n (by omega)
    rw [digits.written, List.head?_cons, Ne, Option.some.injEq] at head
    unfold readPlain
    split
    · rename_i same
      cases same
      exact absurd rfl head
    · rw [spanDigits, span]

theorem take_sign (digits : Digits n first others rest) :
    takeSign (first :: (others ++ rest)) = (none, first :: (others ++ rest)) := by
  unfold takeSign
  split
  · rename_i same
    cases same
    exact absurd rfl (digits.first_ne rfl)
  · rename_i same
    cases same
    exact absurd rfl (digits.first_ne rfl)
  · rfl

theorem read_integer (digits : Digits n first others rest) (fits : n ≤ largest) :
    readInteger (first :: (others ++ rest)) = some ((n : Int), rest) := by
  unfold readInteger
  split
  · rename_i shape
    exact absurd (digits.leads_to ['0'] shape (by simp [isDigit]) rfl) (by decide)
  · rename_i shape
    exact absurd (digits.leads_to ['0'] shape (by simp [isDigit]) rfl) (by decide)
  · rename_i shape
    exact absurd (digits.leads_to ['0'] shape (by simp [isDigit]) rfl) (by decide)
  · rw [digits.take_sign]
    dsimp only
    rw [digits.read_plain]
    have value : valueOf 10 (first :: others) = n := digits.written ▸ value_of_to_digits n
    simp [value, inRange, fits]

theorem not_word (digits : Digits n first others rest) {mark : Char} {word : List Char}
    (other : isDigit mark = false) :
    takeWord (mark :: word) (first :: (others ++ rest)) = none := by
  have differs := (digits.first_ne other).symm
  simp [takeWord, List.isPrefixOf, differs]

theorem read_float (digits : Digits n first others rest) :
    readFloat (first :: (others ++ rest)) = none := by
  have point : readFraction rest = none := by
    obtain ⟨c, more, rfl, kind⟩ := digits.ends
    rcases kind with rfl | rfl | rfl <;> rfl
  have exponent : readExponent rest = none := by
    obtain ⟨c, more, rfl, kind⟩ := digits.ends
    rcases kind with rfl | rfl | rfl <;> rfl
  simp [readFloat, digits.take_sign, digits.not_word, digits.read_plain, point, exponent, isDigit]

theorem read_moment (digits : Digits n first others rest) :
    readMoment (first :: (others ++ rest)) = some none := by
  have date : startsDate (first :: (others ++ rest)) = false := by
    unfold startsDate
    split
    · rename_i a b c d more shape
      by_contra all
      simp only [Bool.not_eq_false, Bool.and_eq_true] at all
      have led := digits.leads_to [a, b, c, d] shape (by simpa [and_assoc] using all) rfl
      exact absurd led (by decide)
    · rfl
  have time : startsTime (first :: (others ++ rest)) = false := by
    unfold startsTime
    split
    · rename_i a b more shape
      by_contra all
      simp only [Bool.not_eq_false, Bool.and_eq_true] at all
      have led := digits.leads_to [a, b] shape (by simpa using all) rfl
      exact absurd led (by decide)
    · rfl
  simp [readMoment, date, time]

end Digits

theorem read_scalar_number {n : Nat} (fits : n ≤ largest) :
    ReadsBack readScalar (toString n).toList (.integer n) := by
  intro rest ends
  obtain ⟨first, others, digits⟩ := exists_digits n ends
  have shown : (toString n).toList = first :: others := by
    rw [← digits.written]
    exact Nat.toList_repr
  rw [shown, List.cons_append, readScalar]
  rw [if_neg (not_or.mpr ⟨digits.first_ne rfl, digits.first_ne rfl⟩), if_neg (digits.first_ne rfl),
    if_neg (digits.first_ne rfl), digits.read_moment]
  dsimp only
  rw [digits.read_float, digits.read_integer fits]
  rfl

end CallMonitor.Toml
