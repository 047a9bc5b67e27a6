import CallMonitor.Proofs.Toml.Numbers

/-!
Texts of documents. Whatever a text holds, it is written in a kind of string that can hold it, and
read back from there: escapes give back their characters, and the marks that close a string do not
occur inside it before its end.
-/

namespace CallMonitor.Toml

open CallMonitor.Text

section Escapes

theorem unicode_digits_known : ∀ code < 128, (unicodeDigits code).length = 4 ∧
    (unicodeDigits code).all (isDigitOf 16) = true ∧ valueOf 16 (unicodeDigits code) = code := by
  decide

theorem read_unicode_escape {c : Char} (small : c.toNat < 128) (rest : List Char) :
    readEscape ('u' :: (unicodeDigits c.toNat ++ rest)) = some (c, rest) := by
  obtain ⟨four, digits, value⟩ := unicode_digits_known c.toNat small
  have taken : takeDigits 16 4 (unicodeDigits c.toNat ++ rest) = some (c.toNat, rest) := by
    unfold takeDigits
    dsimp only
    rw [List.take_left' four, List.drop_left' four, if_pos ⟨four, digits⟩, value]
  have scalar : charOf c.toNat = some c := by
    rw [charOf, if_pos (.inl (by omega)), Char.ofNat_toNat]
  simp [readEscape, taken, scalar]

/-- How a character stands inside a basic string: as it is, or after a backslash by a mark and what
the mark needs. -/
inductive Stands (long : Bool) (c : Char) : List Char → Prop
  | plain (quote : c ≠ '\x22') (backslash : c ≠ '\\')
      (visible : isControl c = false ∨ long = true ∧ c = '\n') : Stands long c [c]
  | escaped {mark : Char} {more : List Char} (solid : isGap mark = false)
      (inside : mark ≠ '\n' ∧ mark ≠ '\r')
      (reads : ∀ rest, readEscape (mark :: (more ++ rest)) = some (c, rest)) :
      Stands long c ('\\' :: mark :: more)

theorem stands_escape_char (long : Bool) (c : Char) : Stands long c (escapeChar long c) := by
  have short {mark : Char} (solid : isGap mark = false) (inside : mark ≠ '\n' ∧ mark ≠ '\r')
      (reads : ∀ rest, readEscape (mark :: rest) = some (c, rest)) :
      Stands long c ['\\', mark] :=
    .escaped solid inside reads
  unfold escapeChar
  split_ifs with backspace tab line wide feed back quote slash control
  · exact short (by decide) (by decide) fun _ => by rw [backspace]; rfl
  · exact short (by decide) (by decide) fun _ => by rw [tab]; rfl
  · subst line
    exact .plain (by decide) (by decide) (.inr ⟨wide, rfl⟩)
  · exact short (by decide) (by decide) fun _ => by rw [line]; rfl
  · exact short (by decide) (by decide) fun _ => by rw [feed]; rfl
  · exact short (by decide) (by decide) fun _ => by rw [back]; rfl
  · exact short (by decide) (by decide) fun _ => by rw [quote]; rfl
  · exact short (by decide) (by decide) fun _ => by rw [slash]; rfl
  · have small : c.toNat < 128 := by
      rcases control with low | rfl
      · omega
      · decide
    exact .escaped (by decide) (by decide) (read_unicode_escape small)
  · refine .plain quote slash (.inl ?_)
    obtain ⟨high, delete⟩ := not_or.mp control
    simp [isControl, delete]
    omega

end Escapes

section Basic

theorem cons_read_some (c : Char) (content rest : List Char) :
    consRead c (some (content, rest)) = some (c :: content, rest) := rfl

/-- One step for each character of the text and one for the closing quote are enough. -/
theorem read_basic_written (chars rest : List Char) {fuel : Nat} (enough : chars.length < fuel) :
    readBasic fuel (chars.flatMap (escapeChar false) ++ '\x22' :: rest) = some (chars, rest) := by
  induction chars generalizing fuel with
  | nil =>
      obtain ⟨fuel, rfl⟩ := Nat.exists_eq_add_one_of_ne_zero (Nat.ne_of_gt enough)
      rfl
  | cons c chars ih =>
      obtain ⟨fuel, rfl⟩ := Nat.exists_eq_add_one_of_ne_zero (Nat.ne_zero_of_lt enough)
      have reads := ih (Nat.lt_of_succ_lt_succ enough)
      rw [List.flatMap_cons, List.append_assoc]
      have stands := stands_escape_char false c
      generalize escapeChar false c = written at stands
      cases stands with
      | plain quote backslash visible =>
          have shown : isControl c = false := by simpa using visible
          rw [List.singleton_append, readBasic, if_neg quote, if_neg backslash, shown, reads]
          rfl
      | escaped solid inside escape =>
          rw [List.cons_append, readBasic, if_neg (by decide), if_pos rfl, List.cons_append, escape]
          dsimp only
          rw [reads, cons_read_some]

theorem take_line_end_inside {mark : Char} (inside : mark ≠ '\n' ∧ mark ≠ '\r')
    (rest : List Char) : takeLineEnd (mark :: rest) = none := by
  unfold takeLineEnd
  split
  · rename_i same
    cases same
    exact absurd rfl inside.1
  · rename_i same
    cases same
    exact absurd rfl inside.2
  · rfl

theorem read_long_basic_written (chars : List Char) {rest : List Char}
    (closes : closeLong '\x22' rest = ([], rest)) {fuel : Nat} (enough : chars.length < fuel) :
    readLongBasic fuel
        (chars.flatMap (escapeChar true) ++ '\x22' :: '\x22' :: '\x22' :: rest) =
      some (chars, rest) := by
  induction chars generalizing fuel with
  | nil =>
      obtain ⟨fuel, rfl⟩ := Nat.exists_eq_add_one_of_ne_zero (Nat.ne_of_gt enough)
      rw [List.flatMap_nil, List.nil_append, readLongBasic, closes]
  | cons c chars ih =>
      obtain ⟨fuel, rfl⟩ := Nat.exists_eq_add_one_of_ne_zero (Nat.ne_zero_of_lt enough)
      have reads := ih (Nat.lt_of_succ_lt_succ enough)
      rw [List.flatMap_cons, List.append_assoc]
      have stands := stands_escape_char true c
      generalize escapeChar true c = written at stands
      cases stands with
      | plain quote backslash visible =>
          have unreturned : c ≠ '\r' := by
            rintro rfl
            exact absurd visible (by decide)
          have shown : ¬(c ≠ '\n' ∧ isControl c = true) := by
            rintro ⟨line, control⟩
            rcases visible with visible | ⟨-, same⟩
            · rw [visible] at control
              cases control
            · exact line same
          rw [List.singleton_append, readLongBasic, if_neg backslash, if_neg shown, reads,
            cons_read_some]
          · rintro _ rfl
            exact absurd rfl quote
          · rintro _ rfl
            exact absurd rfl unreturned
      | escaped solid inside escape =>
          rw [List.cons_append, readLongBasic, if_pos rfl, List.cons_append, skipGap,
            List.dropWhile_cons_of_neg (by simp [solid]), take_line_end_inside inside, escape]
          · dsimp only
            rw [reads, cons_read_some]
          · rintro _ ⟨⟩
          · rintro _ ⟨⟩

end Basic

section Literal

theorem longest_le_apostrophes (current longest : Nat) (chars : List Char) :
    longest ≤ longestApostrophes current longest chars := by
  induction chars generalizing current longest with
  | nil => exact Nat.le_refl longest
  | cons c chars ih =>
      rw [longestApostrophes]
      split
      · exact (Nat.le_max_left _ _).trans (ih _ _)
      · exact ih _ _

/-- A text with three apostrophes in a row has a run of at least three. -/
theorem three_le_apostrophes (current longest : Nat) (before after : List Char) :
    3 ≤ longestApostrophes current longest (before ++ '\x27' :: '\x27' :: '\x27' :: after) := by
  induction before generalizing current longest with
  | nil =>
      simp only [List.nil_append, longestApostrophes, if_true]
      exact le_trans (by omega) (longest_le_apostrophes _ _ after)
  | cons c before ih =>
      rw [List.cons_append, longestApostrophes]
      split <;> exact ih _ _

/-- A text that a literal string of several lines can hold. -/
structure IsLiteral (chars : List Char) : Prop where
  visible : ∀ c ∈ chars, c = '\n' ∨ isControl c = false
  apart : ∀ before after, chars ≠ before ++ '\x27' :: '\x27' :: '\x27' :: after
  last : chars.getLast? ≠ some '\x27'

theorem is_literal_of_fits {chars : List Char} (fits : fitsLiteral chars = true) :
    IsLiteral chars := by
  simp only [fitsLiteral, Bool.and_eq_true, List.all_eq_true, Bool.or_eq_true, beq_iff_eq,
    Bool.not_eq_true', decide_eq_true_eq, bne_iff_ne] at fits
  obtain ⟨⟨visible, short⟩, last⟩ := fits
  refine ⟨visible, ?_, last⟩
  rintro before after rfl
  exact absurd (three_le_apostrophes 0 0 before after) (by omega)

theorem IsLiteral.tail {c : Char} {chars : List Char} (literal : IsLiteral (c :: chars)) :
    IsLiteral chars := by
  refine ⟨fun d member => literal.visible d (List.mem_cons_of_mem c member), ?_, ?_⟩
  · rintro before after rfl
    exact literal.apart (c :: before) after rfl
  · intro last
    apply literal.last
    rw [List.getLast?_cons, last]
    rfl

/-- The marks that close a literal string do not occur before its end, even together with the
text's own apostrophes. -/
theorem IsLiteral.unmarked {c : Char} {chars rest more : List Char}
    (literal : IsLiteral (c :: chars)) :
    c :: (chars ++ '\x27' :: rest) ≠ '\x27' :: '\x27' :: '\x27' :: more := by
  intro same
  match chars with
  | [] =>
      cases same
      exact literal.last rfl
  | [d] =>
      cases same
      exact literal.last rfl
  | d :: e :: others =>
      cases same
      exact literal.apart [] others rfl

theorem read_long_literal_written {chars rest : List Char} (literal : IsLiteral chars)
    (closes : closeLong '\x27' rest = ([], rest)) {fuel : Nat} (enough : chars.length < fuel) :
    readLongLiteral fuel (chars ++ '\x27' :: '\x27' :: '\x27' :: rest) = some (chars, rest) := by
  induction chars generalizing fuel with
  | nil =>
      obtain ⟨fuel, rfl⟩ := Nat.exists_eq_add_one_of_ne_zero (Nat.ne_of_gt enough)
      rw [List.nil_append, readLongLiteral, closes]
  | cons c chars ih =>
      obtain ⟨fuel, rfl⟩ := Nat.exists_eq_add_one_of_ne_zero (Nat.ne_zero_of_lt enough)
      have reads := ih literal.tail (Nat.lt_of_succ_lt_succ enough)
      have visible := literal.visible c List.mem_cons_self
      have shown : ¬(c ≠ '\n' ∧ isControl c = true) := by
        rintro ⟨line, control⟩
        rw [visible.resolve_left line] at control
        cases control
      rw [List.cons_append, readLongLiteral, if_neg shown, reads, cons_read_some]
      · rintro _ rfl same
        exact literal.unmarked (congrArg _ same)
      · rintro _ rfl
        exact absurd visible (by decide)

theorem read_literal_written {chars rest : List Char}
    (plain : ∀ c ∈ chars, c ≠ '\x27' ∧ isControl c = false) :
    readLiteral (chars ++ '\x27' :: rest) = some (chars, rest) := by
  have content : (chars ++ '\x27' :: rest).takeWhile (fun c => c != '\x27' && !isControl c) =
      chars := by
    apply take_while_run
    · intro c member
      simp [plain c member]
    · rintro c ⟨⟩
      rfl
  unfold readLiteral
  dsimp only
  rw [content, List.drop_left]
  rfl

end Literal

section Whole

variable {rest : List Char}

theorem EndsValue.head_ne (ends : EndsValue rest) {mark : Char}
    (other : mark ∉ ['\n', ',', ']']) : rest.head? ≠ some mark := by
  obtain ⟨c, more, rfl, kind⟩ := ends
  rintro ⟨⟩
  exact other (by simpa using kind)

theorem EndsValue.closes (ends : EndsValue rest) {mark : Char}
    (other : mark ∉ ['\n', ',', ']']) : closeLong mark rest = ([], rest) := by
  obtain ⟨c, more, rfl, kind⟩ := ends
  have differs : (c == mark) = false := by
    rw [beq_eq_false_iff_ne]
    rintro rfl
    exact other (by simpa using kind)
  simp [closeLong, differs]

/-- A string of one line is not taken for one of several, though its marks may meet. -/
theorem read_string_short {mark : Char} {content : List Char} (start : content.head? ≠ some mark)
    (after : rest.head? ≠ some mark) :
    readString (mark :: (content ++ mark :: rest)) =
      readShortString (mark :: (content ++ mark :: rest)) := by
  have differs (more : List Char) :
      mark :: (content ++ mark :: rest) ≠ mark :: mark :: mark :: more := by
    intro same
    cases content with
    | nil =>
        cases same
        exact after rfl
    | cons c content =>
        obtain ⟨-, inner⟩ := List.cons_eq_cons.mp same
        obtain ⟨rfl, -⟩ := List.cons_eq_cons.mp inner
        exact start rfl
  unfold readString
  split
  · rename_i same
    obtain ⟨rfl, -⟩ := List.cons_eq_cons.mp same
    exact absurd same (differs _)
  · rename_i same
    obtain ⟨rfl, -⟩ := List.cons_eq_cons.mp same
    exact absurd same (differs _)
  · rfl

theorem head_escaped (chars : List Char) :
    (chars.flatMap (escapeChar false)).head? ≠ some '\x22' := by
  cases chars with
  | nil => simp
  | cons c chars =>
      have stands := stands_escape_char false c
      rw [List.flatMap_cons]
      generalize escapeChar false c = written at stands
      cases stands with
      | plain quote => simpa using quote
      | escaped => simp

/-- What the style chosen for a text says about the text. -/
inductive Styled (chars : List Char) : Style → Prop
  | basic : Styled chars .basic
  | longBasic (lines : '\n' ∈ chars) : Styled chars .longBasic
  | literal (plain : ∀ c ∈ chars, c ≠ '\x27' ∧ isControl c = false) : Styled chars .literal
  | longLiteral (literal : IsLiteral chars) : Styled chars .longLiteral

theorem styled_style_of (chars : List Char) : Styled chars (styleOf chars) := by
  unfold styleOf
  dsimp only
  split_ifs with quoted several lines
  · rw [Bool.and_eq_true] at quoted
    exact .longLiteral (is_literal_of_fits quoted.2)
  · rw [Bool.and_eq_true] at quoted
    have literal := is_literal_of_fits quoted.2
    simp only [Bool.or_eq_true, List.contains_iff_mem, not_or] at several
    refine .literal fun c member => ⟨?_, (literal.visible c member).resolve_left ?_⟩
    · rintro rfl
      exact several.2 member
    · rintro rfl
      exact several.1 member
  · exact .longBasic (List.contains_iff_mem.mp lines)
  · exact .basic

theorem drop_line_end_literal {chars : List Char} (literal : IsLiteral chars) :
    dropLineEnd ((if chars.contains '\n' then ['\n'] else []) ++
        (chars ++ '\x27' :: '\x27' :: '\x27' :: rest)) =
      chars ++ '\x27' :: '\x27' :: '\x27' :: rest := by
  split_ifs with lines
  · rfl
  · rw [List.nil_append, dropLineEnd]
    cases chars with
    | nil => rfl
    | cons c chars =>
        have inside : c ≠ '\n' ∧ c ≠ '\r' := by
          constructor
          · rintro rfl
            exact lines (by simp)
          · rintro rfl
            exact absurd (literal.visible '\r' List.mem_cons_self) (by decide)
        rw [List.cons_append, take_line_end_inside inside]
        rfl

/-- What is written for items is as long as they are many, if something is written for each. -/
theorem length_le_flat_map {α β : Type} {write : α → List β}
    (written : ∀ item, 0 < (write item).length) (items : List α) :
    items.length ≤ (items.flatMap write).length := by
  induction items with
  | nil => simp
  | cons item items ih =>
      have first := written item
      rw [List.flatMap_cons, List.length_append, List.length_cons]
      omega

theorem length_le_escaped (long : Bool) (chars : List Char) :
    chars.length ≤ (chars.flatMap (escapeChar long)).length := by
  apply length_le_flat_map
  intro c
  have stands := stands_escape_char long c
  generalize escapeChar long c = written at stands
  cases stands <;> simp

theorem read_string_written (text : String) :
    ReadsBack readString (writeText text).toList text := by
  intro rest ends
  have styled := styled_style_of text.toList
  unfold writeText
  dsimp only
  rw [String.toList_ofList]
  generalize styleOf text.toList = style at styled
  cases styled with
  | basic =>
      have shape : (['\x22'] ++ text.toList.flatMap (escapeChar false) ++ ['\x22']) ++ rest =
          '\x22' :: (text.toList.flatMap (escapeChar false) ++ '\x22' :: rest) := by simp
      have enough : text.toList.length <
          (text.toList.flatMap (escapeChar false) ++ '\x22' :: rest).length := by
        have least := length_le_escaped false text.toList
        rw [List.length_append, List.length_cons]
        omega
      rw [shape, read_string_short (head_escaped _) (ends.head_ne (by decide)), readShortString,
        read_basic_written _ _ enough]
      simp only [Option.map_some, String.ofList_toList]
  | longBasic lines =>
      have shape : (List.replicate 3 '\x22' ++ ['\n'] ++ text.toList.flatMap (escapeChar true) ++
            List.replicate 3 '\x22') ++ rest =
          '\x22' :: '\x22' :: '\x22' :: ('\n' :: (text.toList.flatMap (escapeChar true) ++
            '\x22' :: '\x22' :: '\x22' :: rest)) := by simp [List.replicate]
      have enough : text.toList.length < ('\n' :: (text.toList.flatMap (escapeChar true) ++
          '\x22' :: '\x22' :: '\x22' :: rest)).length := by
        have least := length_le_escaped true text.toList
        rw [List.length_cons, List.length_append]
        omega
      rw [if_pos (List.contains_iff_mem.mpr lines)]
      dsimp only
      rw [shape, readString, dropLineEnd, takeLineEnd, Option.getD_some,
        read_long_basic_written _ (ends.closes (by decide)) enough]
      simp only [Option.map_some, String.ofList_toList]
  | literal plain =>
      have shape : (['\x27'] ++ text.toList ++ ['\x27']) ++ rest =
          '\x27' :: (text.toList ++ '\x27' :: rest) := by simp
      have start : text.toList.head? ≠ some '\x27' := fun same =>
        (plain '\x27' (List.mem_of_mem_head? same)).1 rfl
      rw [shape, read_string_short start (ends.head_ne (by decide)), readShortString,
        read_literal_written plain]
      simp only [Option.map_some, String.ofList_toList]
  | longLiteral literal =>
      generalize opened : (if text.toList.contains '\n' then ['\n'] else []) = opening
      have shape : (List.replicate 3 '\x27' ++ opening ++ text.toList ++
            List.replicate 3 '\x27') ++ rest =
          '\x27' :: '\x27' :: '\x27' :: (opening ++ (text.toList ++
            '\x27' :: '\x27' :: '\x27' :: rest)) := by simp [List.replicate]
      have enough : text.toList.length <
          (opening ++ (text.toList ++ '\x27' :: '\x27' :: '\x27' :: rest)).length := by
        rw [List.length_append, List.length_append, List.length_cons]
        omega
      dsimp only
      rw [shape, readString, ← opened, drop_line_end_literal literal, opened,
        read_long_literal_written literal (ends.closes (by decide)) enough]
      simp only [Option.map_some, String.ofList_toList]

theorem write_text_starts (text : String) :
    ∃ mark more, (writeText text).toList = mark :: more ∧ (mark = '\x22' ∨ mark = '\x27') := by
  unfold writeText
  dsimp only
  rw [String.toList_ofList]
  cases styleOf text.toList with
  | basic => exact ⟨_, _, rfl, .inl rfl⟩
  | longBasic => exact ⟨_, _, rfl, .inl rfl⟩
  | literal => exact ⟨_, _, rfl, .inr rfl⟩
  | longLiteral => exact ⟨_, _, rfl, .inr rfl⟩

theorem read_scalar_text (text : String) :
    ReadsBack readScalar (writeText text).toList (.text text) := by
  intro rest ends
  have reads := read_string_written text rest ends
  obtain ⟨mark, more, shape, kind⟩ := write_text_starts text
  rw [shape] at reads ⊢
  rw [List.cons_append] at reads ⊢
  rw [readScalar, if_pos kind, reads]
  rfl

end Whole

end CallMonitor.Toml
