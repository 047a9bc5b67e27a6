import CallMonitor.Proofs.Toml.Strings

/-!
Values of documents: numbers and texts, and lists of them. A list is read back from the way it is
laid out, on one line or with a line for each of its values.
-/

namespace CallMonitor.Toml

open CallMonitor.Text

/-- A character that is not passed over between values: no white space, line end or comment. -/
def isSolid (c : Char) : Bool := c ∉ [' ', '\t', '#', '\n', '\r']

/-- A character that starts a number or a text. -/
def startsScalar (c : Char) : Bool := isSolid c && decide (c ∉ ['[', '{', ']'])

theorem starts_scalar_iff {c : Char} :
    startsScalar c = true ↔ isSolid c = true ∧ c ≠ '[' ∧ c ≠ '{' ∧ c ≠ ']' := by
  simp [startsScalar]

structure IsScalar (written : List Char) (item : Item) : Prop where
  starts : ∃ c more, written = c :: more ∧ startsScalar c = true
  reads : ReadsBack readScalar written item

theorem scalar_number {n : Nat} (fits : n ≤ largest) :
    IsScalar (toString n).toList (.integer n) := by
  refine ⟨?_, read_scalar_number fits⟩
  have shown : (toString n).toList = Nat.toDigits 10 n := Nat.toList_repr
  rw [shown]
  cases written : Nat.toDigits 10 n with
  | nil => exact absurd written Nat.toDigits_ne_nil
  | cons c more =>
      obtain ⟨digit, below, rfl⟩ := digit_of_mem (by decide) (written ▸ List.mem_cons_self)
      have starts : ∀ digit < 10, startsScalar (Nat.digitChar digit) = true := by decide
      exact ⟨_, _, rfl, starts digit below⟩

theorem scalar_text (text : String) : IsScalar (writeText text).toList (.text text) := by
  refine ⟨?_, read_scalar_text text⟩
  obtain ⟨mark, more, shape, kind⟩ := write_text_starts text
  refine ⟨mark, more, shape, ?_⟩
  rcases kind with rfl | rfl <;> decide

theorem IsScalar.read_value {written : List Char} {item : Item} (scalar : IsScalar written item)
    (depth : Nat) : ReadsBack (readValue depth) written item := by
  intro rest ends
  obtain ⟨c, more, rfl, starts⟩ := scalar.starts
  cases depth with
  | zero => exact scalar.reads rest ends
  | succ depth =>
      rw [List.cons_append, readValue, ← List.cons_append]
      · exact scalar.reads rest ends
      · rintro _ ⟨⟩
        exact absurd starts (by decide)
      · rintro _ ⟨⟩
        exact absurd starts (by decide)

section Blanks

theorem skip_gap_solid {c : Char} (solid : isSolid c = true) (more : List Char) :
    skipGap (c :: more) = c :: more := by
  have visible : isGap c = false := by
    simp only [isSolid, decide_eq_true_eq, List.mem_cons, not_or] at solid
    simp [isGap, solid.1, solid.2.1]
  rw [skipGap, List.dropWhile_cons_of_neg (by simp [visible])]

theorem skip_blank_solid {c : Char} (solid : isSolid c = true) {gap : List Char}
    (gaps : ∀ d ∈ gap, isGap d = true) (fuel : Nat) (more : List Char) :
    skipBlank (fuel + 1) (gap ++ c :: more) = some (c :: more) := by
  have skipped : skipGap (gap ++ c :: more) = c :: more := by
    rw [skipGap, List.dropWhile_append_of_pos gaps]
    exact skip_gap_solid solid more
  rw [skipBlank, skipped]
  split
  · rename_i same
    cases same
    exact absurd solid (by decide)
  · rename_i same
    cases same
    exact absurd solid (by decide)
  · rename_i same
    cases same
    exact absurd solid (by decide)
  · rfl

theorem skip_lines_solid {c : Char} (solid : isSolid c = true) (more : List Char) :
    skipLines (c :: more) = some (c :: more) :=
  @skip_blank_solid c solid [] (by simp) _ more

/-- A line end is skipped with the white space that indents the next line. -/
theorem skip_lines_indented {c : Char} (solid : isSolid c = true) {gap : List Char}
    (gaps : ∀ d ∈ gap, isGap d = true) (more : List Char) :
    skipLines ('\n' :: (gap ++ c :: more)) = some (c :: more) := by
  rw [skipLines, skipBlank]
  have line : skipGap ('\n' :: (gap ++ c :: more)) = '\n' :: (gap ++ c :: more) := rfl
  rw [line, List.length_cons]
  exact skip_blank_solid solid gaps _ more

end Blanks

section Lists

variable {α : Type} {write : α → String} {item : α → Item} {depth : Nat}

def itemLines (write : α → String) (values : List α) : List Char :=
  values.flatMap fun value => "    ".toList ++ (write value).toList ++ ",\n".toList

/-- A list is read value by value: each is followed by the closing bracket, or by a comma and what
is left of the list. -/
theorem read_list_item {written : List Char} {value : Item} (scalar : IsScalar written value)
    {start rest left : List Char} (skipped : skipLines start = skipLines (written ++ rest))
    (ends : EndsValue rest) {fuel : Nat} {items : List Item}
    (followed : skipLines rest = some (']' :: left) ∧ items = [] ∨
      ∃ more, skipLines rest = some (',' :: more) ∧
        readListFrom (readValue depth) fuel more = some (items, left)) :
    readListFrom (readValue depth) (fuel + 1) start = some (value :: items, left) := by
  have reads := scalar.read_value depth rest ends
  obtain ⟨c, more, rfl, starts⟩ := scalar.starts
  rw [List.cons_append] at reads skipped
  rw [readListFrom, skipped, skip_lines_solid (starts_scalar_iff.mp starts).1]
  split
  · rename_i same
    cases same
  · rename_i same
    cases same
    exact absurd starts (by decide)
  · rename_i same
    cases same
    rcases followed with ⟨last, rfl⟩ | ⟨more, comma, others⟩
    · simp only [reads, last]
    · simp only [reads, comma, others, Option.map_some]

theorem read_item_lines {values : List α} (rest : List Char)
    (scalars : ∀ value ∈ values, IsScalar (write value).toList (item value)) {fuel : Nat}
    (enough : values.length < fuel) :
    readListFrom (readValue depth) fuel ('\n' :: (itemLines write values ++ ']' :: rest)) =
      some (values.map item, rest) := by
  induction values generalizing fuel with
  | nil =>
      obtain ⟨fuel, rfl⟩ := Nat.exists_eq_add_one_of_ne_zero (Nat.ne_of_gt enough)
      rw [readListFrom, itemLines, List.flatMap_nil,
        skip_lines_indented (by decide) (by simp) rest]
      rfl
  | cons value values ih =>
      obtain ⟨fuel, rfl⟩ := Nat.exists_eq_add_one_of_ne_zero (Nat.ne_zero_of_lt enough)
      obtain ⟨scalar, others⟩ := List.forall_mem_cons.mp scalars
      obtain ⟨c, more, shape, starts⟩ := scalar.starts
      let later := ',' :: '\n' :: (itemLines write values ++ ']' :: rest)
      have line : itemLines write (value :: values) ++ ']' :: rest =
          "    ".toList ++ c :: (more ++ later) := by
        simp [itemLines, shape, later]
      have solid := (starts_scalar_iff.mp starts).1
      have skipped : skipLines ('\n' :: ("    ".toList ++ c :: (more ++ later))) =
          skipLines ((write value).toList ++ later) := by
        rw [skip_lines_indented solid (by simp [isGap]), shape, List.cons_append,
          skip_lines_solid solid]
      have reads := ih others (Nat.lt_of_succ_lt_succ enough)
      rw [line]
      exact read_list_item scalar skipped ⟨_, _, rfl, by simp⟩
        (.inr ⟨_, skip_lines_solid (by decide) _, reads⟩)

theorem read_value_list {values : List α}
    (scalars : ∀ value ∈ values, IsScalar (write value).toList (item value)) :
    ReadsBack (readValue (depth + 1)) (writeList (values.map write)).toList
      (.list (values.map item)) := by
  intro rest ends
  match values with
  | [] =>
      have laid : (writeList (([] : List α).map write)).toList ++ rest = '[' :: ']' :: rest := by
        simp [writeList]
      rw [laid, readValue, List.length_cons, readListFrom, skip_lines_solid (by decide)]
      rfl
  | [value] =>
      have scalar := scalars value List.mem_cons_self
      have laid : (writeList ([value].map write)).toList ++ rest =
          '[' :: ((write value).toList ++ ']' :: rest) := by
        simp [writeList]
      have length : ((write value).toList ++ ']' :: rest).length =
          ((write value).toList.length + rest.length) + 1 := by
        rw [List.length_append, List.length_cons, Nat.add_assoc]
      have read := @read_list_item depth _ _ scalar _ _ rest rfl ⟨_, _, rfl, by simp⟩
        ((write value).toList.length + rest.length) []
        (.inl ⟨skip_lines_solid (by decide) rest, rfl⟩)
      rw [laid, readValue, length, read]
      rfl
  | first :: second :: others =>
      have laid : (writeList ((first :: second :: others).map write)).toList ++ rest =
          '[' :: '\n' :: (itemLines write (first :: second :: others) ++ ']' :: rest) := by
        simp [writeList, itemLines, String.toList_join, List.flatMap_map]
      have enough : (first :: second :: others).length <
          ('\n' :: (itemLines write (first :: second :: others) ++ ']' :: rest)).length := by
        have least : (first :: second :: others).length ≤
            (itemLines write (first :: second :: others)).length :=
          length_le_flat_map (fun value => by simp) _
        simp only [List.length_cons, List.length_append] at least ⊢
        omega
      rw [laid, readValue, read_item_lines rest scalars enough]
      rfl

end Lists

end CallMonitor.Toml
