import CallMonitor.Proofs.Json.Strings

/-!
The readers of optional strings and of lists take exactly the texts of the grammar, and so does a
reader of whole texts, if the reader that it is given does. The reader of lists counts its rounds;
there are always enough of them, since every item but the last is followed by a comma.
-/

namespace CallMonitor.Json

open CallMonitor.Text

@[simp] theorem encode_comma : String.utf8EncodeChar ',' = [0x2C] := rfl

@[simp] theorem encode_opening : String.utf8EncodeChar '[' = [0x5B] := rfl

@[simp] theorem encode_closing : String.utf8EncodeChar ']' = [0x5D] := rfl

theorem StringText.start {text : List Char} {value : String} (quoted : StringText text value)
    (rest : Bytes) : ∃ more, utf8 text ++ rest = 0x22 :: more := by
  obtain ⟨spells⟩ := quoted
  exact ⟨_, rfl⟩

theorem accepts_nullable : Accepts readNullable NullableText := by
  intro bytes value rest
  obtain ⟨space, spaces, split⟩ := exists_spaces bytes
  constructor
  · intro read
    unfold readNullable at read
    split at read
    · rename_i after start
      simp only [Option.map_eq_some_iff, Prod.mk.injEq] at read
      obtain ⟨_, word, rfl, rfl⟩ := read
      rw [expect_word_eq_some_iff.mp word] at start
      exact ⟨space, _, spaces, .null, by rw [split, start]; rfl⟩
    · simp only [Option.map_eq_some_iff, Prod.mk.injEq] at read
      obtain ⟨⟨text, after⟩, found, rfl, rfl⟩ := read
      obtain ⟨more, written, spaces', quoted, start⟩ := (accepts_string _ _ _).mp found
      refine ⟨space ++ more, written, spaces.append spaces', .text quoted, ?_⟩
      rw [split, start, utf8_append, List.append_assoc]
  · rintro ⟨space, text, spaces, denotes, rfl⟩
    rw [readNullable, skip_spaces spaces]
    cases denotes with
    | null =>
        have word : utf8 ['n', 'u', 'l', 'l'] = [0x6E, 0x75, 0x6C, 0x6C] := rfl
        rw [word, List.cons_append, skip_space_visible rfl]
        simp [expectWord]
    | @text text value quoted =>
        have read := accepts_string.takes .nil quoted rest
        obtain ⟨more, start⟩ := quoted.start rest
        rw [utf8_nil, List.nil_append, start] at read
        rw [start, skip_space_visible rfl]
        simp [read]

section

variable {α : Type} {read : Reader α} {item : List Char → α → Prop}

theorem exists_spaced (accepts : Accepts read item) {bytes middle rest : Bytes} {value : α}
    {mark : UInt8} (taken : read bytes = some (value, middle))
    (next : skipSpace middle = mark :: rest) :
    ∃ text, Spaced item text value ∧ bytes = utf8 text ++ mark :: rest := by
  obtain ⟨before, text, spaces, denotes, rfl⟩ := (accepts _ _ _).mp taken
  obtain ⟨after, spaces', split⟩ := exists_spaces middle
  refine ⟨_, .around spaces denotes spaces', ?_⟩
  rw [split, next]
  simp

/-- An item is taken with the white space before it; what follows it is found after dropping white
space. -/
theorem Spaced.taken (accepts : Accepts read item) {text : List Char} {value : α}
    (spaced : Spaced item text value) (mark : UInt8) (visible : isSpace mark = false)
    (rest : Bytes) :
    ∃ left, read (utf8 text ++ mark :: rest) = some (value, left) ∧
      skipSpace left = mark :: rest := by
  cases spaced with
  | @around before text after value spaces denotes spaces' =>
      refine ⟨utf8 after ++ mark :: rest, ?_, ?_⟩
      · rw [utf8_append, utf8_append, List.append_assoc, List.append_assoc]
        exact accepts.takes spaces denotes _
      · rw [skip_spaces spaces', skip_space_visible visible]

theorem exists_items (accepts : Accepts read item) {fuel : Nat} {bytes rest : Bytes}
    {values : List α} (taken : readItems read fuel bytes = some (values, rest)) :
    ∃ inner, Items item inner values ∧ bytes = utf8 inner ++ 0x5D :: rest := by
  induction fuel generalizing bytes values with
  | zero => cases taken
  | succ fuel ih =>
      rw [readItems] at taken
      split at taken
      · cases taken
      rename_i value middle first
      split at taken
      · rename_i later next
        simp only [Option.map_eq_some_iff, Prod.mk.injEq] at taken
        obtain ⟨⟨others, left⟩, found, rfl, rfl⟩ := taken
        obtain ⟨text, spaced, rfl⟩ := exists_spaced accepts first next
        obtain ⟨inner, items, rfl⟩ := ih found
        exact ⟨_, .more spaced items, by simp⟩
      · rename_i left next
        cases taken
        obtain ⟨text, spaced, rfl⟩ := exists_spaced accepts first next
        exact ⟨_, .last spaced, rfl⟩
      · cases taken

/-- A reader that is given as many rounds as there are items takes them all. -/
theorem Items.taken (accepts : Accepts read item) {inner : List Char} {values : List α}
    (items : Items item inner values) {fuel : Nat} (enough : values.length ≤ fuel) (rest : Bytes) :
    readItems read fuel (utf8 inner ++ 0x5D :: rest) = some (values, rest) := by
  induction items generalizing fuel with
  | last spaced =>
      obtain ⟨fuel, rfl⟩ := Nat.exists_eq_add_of_le' enough
      obtain ⟨left, first, next⟩ := spaced.taken accepts 0x5D rfl rest
      simp [readItems, first, next]
  | @more text later value values spaced items ih =>
      obtain ⟨fuel, rfl⟩ := Nat.exists_eq_add_of_lt enough
      obtain ⟨left, first, next⟩ := spaced.taken accepts 0x2C rfl (utf8 later ++ 0x5D :: rest)
      have others : readItems read (values.length + fuel) (utf8 later ++ 0x5D :: rest) =
          some (values, rest) := ih (Nat.le_add_right _ _)
      rw [utf8_append, utf8_cons, encode_comma, List.append_assoc, List.append_assoc,
        List.singleton_append, readItems, first]
      simp only [next, others, Option.map_some]

/-- Items are at least as long as they are many, but for one. -/
theorem Items.length_le {inner : List Char} {values : List α} (items : Items item inner values) :
    values.length ≤ (utf8 inner).length + 1 := by
  induction items with
  | last _ => simp
  | more _ _ ih =>
      simp only [List.length_cons, utf8_append, utf8_cons, encode_comma, List.length_append,
        List.length_nil]
      omega

theorem Spaced.after_spaces {space text : List Char} {value : α} (spaces : Spaces space)
    (spaced : Spaced item text value) : Spaced item (space ++ text) value := by
  cases spaced with
  | around spaces' denotes after =>
      rw [← List.append_assoc]
      exact .around (spaces.append spaces') denotes after

theorem Items.after_spaces {space inner : List Char} {values : List α} (spaces : Spaces space)
    (items : Items item inner values) : Items item (space ++ inner) values := by
  cases items with
  | last spaced => exact .last (spaced.after_spaces spaces)
  | more spaced items =>
      rw [← List.append_assoc]
      exact .more (spaced.after_spaces spaces) items

/-- Bytes that start with something other than white space and the end of a list. -/
def StartsItem (bytes : Bytes) : Prop :=
  ∃ first more, bytes = first :: more ∧ isSpace first = false ∧ first ≠ 0x5D

theorem StartsItem.append {bytes : Bytes} (starts : StartsItem bytes) (rest : Bytes) :
    StartsItem (bytes ++ rest) := by
  obtain ⟨first, more, rfl, visible, inside⟩ := starts
  exact ⟨first, more ++ rest, rfl, visible, inside⟩

/-- White space before the first item can be taken away. -/
theorem Items.trimmed (starts : ∀ text value, item text value → StartsItem (utf8 text))
    {inner : List Char} {values : List α} (items : Items item inner values) :
    ∃ space trimmed, Spaces space ∧ inner = space ++ trimmed ∧ Items item trimmed values ∧
      StartsItem (utf8 trimmed) := by
  cases items with
  | last spaced =>
      cases spaced with
      | @around before text after _ spaces denotes spaces' =>
          refine ⟨before, text ++ after, spaces, rfl, .last ?_, ?_⟩
          · exact .around .nil denotes spaces'
          · rw [utf8_append]
            exact (starts _ _ denotes).append _
  | @more _ later _ _ spaced items =>
      cases spaced with
      | @around before text after _ spaces denotes spaces' =>
          refine ⟨before, text ++ after ++ ',' :: later, spaces, by simp, .more ?_ items, ?_⟩
          · exact .around .nil denotes spaces'
          · rw [List.append_assoc, utf8_append]
            exact (starts _ _ denotes).append _

theorem expect_opening {space : List Char} (spaces : Spaces space) (inner : List Char)
    (rest : Bytes) :
    expect 0x5B (utf8 space ++ (utf8 ('[' :: (inner ++ [']'])) ++ rest)) =
      some (utf8 inner ++ 0x5D :: rest) :=
  (expect_eq_some_iff rfl).mpr ⟨space, spaces, by simp⟩

theorem accepts_list (accepts : Accepts read item)
    (starts : ∀ text value, item text value → StartsItem (utf8 text)) :
    Accepts (readList read) (ListText item) := by
  intro bytes values rest
  constructor
  · intro taken
    unfold readList at taken
    split at taken
    · cases taken
    rename_i inside opened
    obtain ⟨space, spaces, rfl⟩ := (expect_eq_some_iff rfl).mp opened
    obtain ⟨before, spaces', split⟩ := exists_spaces inside
    split at taken
    · rename_i after start
      cases taken
      refine ⟨space, _, spaces, .empty spaces', ?_⟩
      rw [split, start]
      simp
    · obtain ⟨inner, items, start⟩ := exists_items accepts taken
      refine ⟨space, _, spaces, .filled (items.after_spaces spaces'), ?_⟩
      rw [split, start]
      simp
  · rintro ⟨space, _, spaces, denotes, rfl⟩
    cases denotes with
    | empty spaces' =>
        rw [readList, expect_opening spaces]
        have ended : skipSpace (0x5D :: rest) = 0x5D :: rest := skip_space_visible rfl rest
        simp only [skip_spaces spaces', ended]
    | filled items =>
        obtain ⟨before, inner, spaces', rfl, items, begins⟩ := items.trimmed starts
        have enough : values.length ≤ (utf8 inner ++ 0x5D :: rest).length := by
          have long := items.length_le
          simp only [List.length_append, List.length_cons]
          omega
        have taken := items.taken accepts enough rest
        obtain ⟨first, more, start, visible, other⟩ := begins.append (0x5D :: rest)
        rw [readList, expect_opening spaces, utf8_append, List.append_assoc]
        simp only [skip_spaces spaces']
        rw [start] at taken ⊢
        rw [skip_space_visible visible]
        split
        · rename_i ended
          cases ended
          exact absurd rfl other
        · exact taken

theorem accepts_whole_text (accepts : Accepts read item) {body : Bytes} {value : α} :
    readWholeText read body = some value ↔
      ∃ text, Spaced item text value ∧ body = utf8 text := by
  constructor
  · intro whole
    unfold readWholeText at whole
    split at whole
    · cases whole
    rename_i found rest taken
    split at whole
    · rename_i ended
      cases whole
      obtain ⟨before, text, spaces, denotes, rfl⟩ := (accepts _ _ _).mp taken
      obtain ⟨after, spaces', split⟩ := exists_spaces rest
      refine ⟨_, .around spaces denotes spaces', ?_⟩
      rw [split, ended]
      simp
    · cases whole
  · rintro ⟨_, spaced, rfl⟩
    cases spaced with
    | around spaces denotes spaces' =>
        have ended := skip_spaces spaces' []
        rw [List.append_nil] at ended
        rw [readWholeText, utf8_append, utf8_append, accepts.takes spaces denotes]
        exact if_pos ended

end

end CallMonitor.Json
