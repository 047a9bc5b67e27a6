import CallMonitor.Proofs.Policy.RuleLines
import CallMonitor.Proofs.Text.Lines

/-!
What does not matter in a policy text: white space at the ends of its lines, whether a line ends in
a line feed alone or in a carriage return and a line feed, and whether the last one is ended. One
blank character at a time is taken off a line; it may be the first or the last tab of the line, part
of a blank field, or part of the last field, and the rule line stays the same each time.
-/

namespace CallMonitor.Policy

open CallMonitor.Text

variable {c : Char}

/-- A blank character at the end of a line is a tab after its fields or belongs to a blank field,
both of which are dropped, or it belongs to the last field that is kept. -/
theorem line_fields_concat (blank : isBlank c = true) (line : List Char) :
    lineFields (line ++ [c]) = lineFields line ∨
      ∃ fields last, lineFields line = fields ++ [last] ∧
        lineFields (line ++ [c]) = fields ++ [last ++ [c]] := by
  by_cases tab : c = '\t'
  · -- The tab ends the last field, and the empty one after it is dropped.
    left
    rw [lineFields, tab, split_on_concat_separator, drop_end_while_concat_dropped rfl, lineFields]
  · obtain ⟨fields, last, split, longer⟩ := split_on_concat_other tab line
    rw [lineFields, lineFields, split, longer]
    by_cases empty : allBlank last = true
    · left
      rw [drop_end_while_concat_dropped empty,
        drop_end_while_concat_dropped ((all_blank_concat blank last).trans empty)]
    · right
      rw [Bool.not_eq_true] at empty
      refine ⟨fields, last, drop_end_while_concat empty fields, ?_⟩
      exact drop_end_while_concat ((all_blank_concat blank last).trans empty) fields

/-- A blank character at the end of a line changes neither whether it is a rule line nor what it
says. -/
theorem rule_line_concat (blank : isBlank c = true) (number : Nat) (line : List Char) :
    ruleLine? number (line ++ [c]) = ruleLine? number line := by
  by_cases empty : allBlank line = true
  · have longer := (all_blank_concat blank line).trans empty
    simp [ruleLine?, IsRuleLine, empty, longer]
  have visible : allBlank (line ++ [c]) = allBlank line := all_blank_concat blank line
  have start : (line ++ [c]).head? = line.head? := by
    cases line with
    | nil => exact absurd rfl empty
    | cons first rest => rfl
  -- Either no field changes, or the last one gets longer. That one is the word, which is trimmed,
  -- or the only field of a line that is no rule line.
  rcases line_fields_concat blank line with same | ⟨fields, last, short, long⟩
  · have rule : IsRuleLine (line ++ [c]) ↔ IsRuleLine line := by
      simp only [IsRuleLine, visible, start, same]
    rw [ruleLine?, ruleLine?, same]
    exact if_congr rule rfl rfl
  · have rule : IsRuleLine (line ++ [c]) ↔ IsRuleLine line := by
      simp [IsRuleLine, visible, start, short, long]
    cases fields with
    | nil => simp [ruleLine?, IsRuleLine, short, long]
    | cons method fields =>
        rw [ruleLine?, ruleLine?, short, long, List.getLastD_concat, List.getLastD_concat,
          trim_concat blank]
        apply if_congr rule
        · simp
        · rfl

theorem rule_line_append {blanks : List Char} (blank : allBlank blanks = true) (number : Nat)
    (line : List Char) : ruleLine? number (line ++ blanks) = ruleLine? number line := by
  induction blanks generalizing line with
  | nil => rw [List.append_nil]
  | cons c blanks ih =>
      rw [allBlank, List.all_cons, Bool.and_eq_true] at blank
      rw [List.append_cons, ih blank.2, rule_line_concat blank.1]

theorem rule_line_drop_return (number : Nat) (line : List Char) :
    ruleLine? number (dropReturn '\r' line) = ruleLine? number line := by
  unfold dropReturn
  split
  · rename_i returned
    obtain ⟨start, rfl⟩ := List.getLast?_eq_some_iff.mp returned
    rw [List.dropLast_concat, rule_line_concat rfl]
  · rfl

theorem rule_lines_from_append (number : Nat) (pieces more : List (List Char)) :
    ruleLinesFrom number (pieces ++ more) =
      ruleLinesFrom number pieces ++ ruleLinesFrom (number + pieces.length) more := by
  rw [ruleLinesFrom, List.zipIdx_append, List.filterMap_append, ruleLinesFrom, ruleLinesFrom]

theorem rule_lines_from_singleton (number : Nat) (line : List Char) :
    ruleLinesFrom number [line] = (ruleLine? number line).toList := by
  rw [rule_lines_from_cons, ruleLinesFrom, List.zipIdx_nil, List.filterMap_nil, List.append_nil]

/-- The rule lines of a text are those of the pieces between its line feeds. -/
theorem rule_lines_of_pieces (number : Nat) (text : List Char) :
    ruleLinesFrom number (lines text) = ruleLinesFrom number (splitOn '\n' text) := by
  induction text using line_induction '\n' generalizing number with
  | last line whole =>
      rw [split_on_absent whole]
      by_cases none : line = []
      · rw [none]
        rfl
      · rw [lines_unended whole none]
  | ended line rest whole ih =>
      rw [lines_ended whole, split_on_ended whole, rule_lines_from_cons, rule_lines_from_cons,
        rule_line_drop_return, ih]

theorem Table.parse_congr {text other : String}
    (same : ruleLinesFrom 1 (splitOn '\n' text.toList) =
      ruleLinesFrom 1 (splitOn '\n' other.toList)) :
    Table.parse text = Table.parse other := by
  rw [← rule_lines_of_pieces, ← rule_lines_of_pieces] at same
  rw [Table.parse, Table.parse, Table.read_lines_eq, Table.read_lines_eq, same]

inductive LineEnd
  | feed
  | returnAndFeed
  deriving DecidableEq, Repr

def LineEnd.chars : LineEnd → List Char
  | feed => ['\n']
  | returnAndFeed => ['\r', '\n']

/-- What stands behind the text of a line: white space and the line's end. -/
structure Closing where
  blanks : List Char
  blank : allBlank blanks = true
  one_line : '\n' ∉ blanks
  ending : LineEnd

def Closing.bare (ending : LineEnd) : Closing := ⟨[], rfl, List.not_mem_nil, ending⟩

@[simp] theorem Closing.bare_blanks (ending : LineEnd) : (bare ending).blanks = [] := rfl

@[simp] theorem Closing.bare_ending (ending : LineEnd) : (bare ending).ending = ending := rfl

/-- The text of some lines, each with its closing. The last one may lack its end. -/
def layOut (closings : Nat → Closing) (closed : Bool) : List (List Char) → List Char
  | [] => []
  | line :: rest =>
      line ++ (closings 0).blanks ++
        (if rest = [] ∧ closed = false then [] else (closings 0).ending.chars) ++
        layOut (fun index => closings (index + 1)) closed rest

theorem rule_lines_laid_out (closings : Nat → Closing) (closed : Bool) (number : Nat)
    {written : List (List Char)} (whole : ∀ line ∈ written, '\n' ∉ line) :
    ruleLinesFrom number (splitOn '\n' (layOut closings closed written)) =
      ruleLinesFrom number written := by
  induction written generalizing closings number with
  | nil => rfl
  | cons line rest ih =>
      have later := ih (fun index => closings (index + 1)) (number + 1)
        fun other member => whole other (List.mem_cons_of_mem _ member)
      have unbroken : '\n' ∉ line ++ (closings 0).blanks := by
        rw [List.mem_append, not_or]
        exact ⟨whole line List.mem_cons_self, (closings 0).one_line⟩
      have said := rule_line_append (closings 0).blank number line
      rw [layOut]
      by_cases unended : rest = [] ∧ closed = false
      · rw [if_pos unended, unended.1, layOut, List.append_nil, List.append_nil,
          split_on_absent unbroken, rule_lines_from_singleton, rule_lines_from_singleton, said]
      · rw [if_neg unended, rule_lines_from_cons, ← later]
        cases (closings 0).ending with
        | feed =>
            rw [LineEnd.chars, List.append_assoc, List.singleton_append, split_on_ended unbroken,
              rule_lines_from_cons, said]
        | returnAndFeed =>
            have returned : '\n' ∉ line ++ (closings 0).blanks ++ ['\r'] := by
              rw [List.mem_append, not_or]
              exact ⟨unbroken, by decide⟩
            rw [LineEnd.chars, List.append_assoc, List.cons_append, List.append_cons,
              List.singleton_append, split_on_ended returned, rule_lines_from_cons,
              rule_line_concat rfl, said]

theorem exists_lay_out (text : List Char) :
    ∃ (endings : Nat → LineEnd) (closed : Bool),
      text = layOut (fun index => .bare (endings index)) closed (lines text) := by
  induction text using line_induction '\n' with
  | last line whole =>
      refine ⟨fun _ => .feed, false, ?_⟩
      by_cases none : line = []
      · rw [none]
        rfl
      · rw [lines_unended whole none]
        simp [layOut]
  | ended line rest whole ih =>
      obtain ⟨endings, closed, laid⟩ := ih
      have ended : ∃ ending : LineEnd,
          line ++ ['\n'] = dropReturn '\r' line ++ ending.chars := by
        unfold dropReturn
        split
        · rename_i returned
          obtain ⟨start, rfl⟩ := List.getLast?_eq_some_iff.mp returned
          exact ⟨.returnAndFeed, by simp [LineEnd.chars]⟩
        · exact ⟨.feed, rfl⟩
      obtain ⟨ending, closing⟩ := ended
      rw [lines_ended whole, List.append_cons, closing]
      by_cases none : lines rest = []
      · rw [none, layOut] at laid
        refine ⟨fun _ => ending, true, ?_⟩
        rw [none, laid]
        simp [layOut]
      · refine ⟨fun index => if index = 0 then ending else endings (index - 1), closed, ?_⟩
        rw [layOut, if_neg fun both => none both.1]
        simp [← laid]

theorem lay_out_pieces (text : List Char) :
    layOut (fun _ => .bare .feed) false (splitOn '\n' text) = text := by
  induction text using line_induction '\n' with
  | last line whole =>
      rw [split_on_absent whole]
      simp [layOut]
  | ended line rest whole ih =>
      rw [split_on_ended whole, layOut, if_neg fun both => split_on_ne_nil '\n' rest both.1, ih]
      simp [LineEnd.chars]

/-- A text with a carriage return before each line feed. -/
def withReturns (text : List Char) : List Char :=
  text.flatMap fun c => if c = '\n' then ['\r', '\n'] else [c]

theorem with_returns_unended {line : List Char} (whole : '\n' ∉ line) :
    withReturns line = line := by
  induction line with
  | nil => rfl
  | cons c line ih =>
      rw [List.mem_cons, not_or] at whole
      rw [withReturns, List.flatMap_cons, if_neg (Ne.symm whole.1), ← withReturns, ih whole.2]
      rfl

theorem rule_lines_with_returns (number : Nat) (text : List Char) :
    ruleLinesFrom number (splitOn '\n' (withReturns text)) =
      ruleLinesFrom number (splitOn '\n' text) := by
  induction text using line_induction '\n' generalizing number with
  | last line whole => rw [with_returns_unended whole]
  | ended line rest whole ih =>
      have returned : '\n' ∉ line ++ ['\r'] := by simp [whole]
      have split : withReturns (line ++ '\n' :: rest) =
          line ++ ['\r'] ++ '\n' :: withReturns rest := by
        rw [withReturns, List.flatMap_append, List.flatMap_cons, ← withReturns, ← withReturns,
          with_returns_unended whole]
        simp
      rw [split, split_on_ended returned, split_on_ended whole, rule_lines_from_cons,
        rule_lines_from_cons, rule_line_concat rfl, ih]

/-- White space at the end of a text, also a line feed, adds no rule line. -/
theorem rule_lines_concat (blank : isBlank c = true) (number : Nat) (text : List Char) :
    ruleLinesFrom number (splitOn '\n' (text ++ [c])) =
      ruleLinesFrom number (splitOn '\n' text) := by
  by_cases feed : c = '\n'
  · rw [feed, split_on_concat_separator, rule_lines_from_append]
    exact List.append_nil _
  · obtain ⟨pieces, last, split, longer⟩ := split_on_concat_other feed text
    rw [split, longer, rule_lines_from_append, rule_lines_from_append, rule_lines_from_singleton,
      rule_lines_from_singleton, rule_line_concat blank]

theorem rule_lines_ended (ending : LineEnd) (number : Nat) (text : List Char) :
    ruleLinesFrom number (splitOn '\n' (text ++ ending.chars)) =
      ruleLinesFrom number (splitOn '\n' text) := by
  cases ending with
  | feed => exact rule_lines_concat rfl number text
  | returnAndFeed =>
      rw [LineEnd.chars, List.append_cons, rule_lines_concat rfl, rule_lines_concat rfl]

/-- Any policy text. It is laid out from its lines, and also from the pieces between its line feeds,
of which the last may be empty; and however either are laid out, with any white space behind each
of them and any ends, the same table or the same error is read. The same holds with a carriage
return put before every line feed, and with one line end more at the end. -/
theorem line_ends_immaterial (text : String) :
    (∃ (endings : Nat → LineEnd) (closed : Bool), text.toList =
      layOut (fun index => .bare (endings index)) closed (lines text.toList)) ∧
    (∀ closings closed,
      Table.parse (String.ofList (layOut closings closed (lines text.toList))) =
        Table.parse text) ∧
    layOut (fun _ => .bare .feed) false (splitOn '\n' text.toList) = text.toList ∧
    (∀ closings closed,
      Table.parse (String.ofList (layOut closings closed (splitOn '\n' text.toList))) =
        Table.parse text) ∧
    Table.parse (String.ofList (withReturns text.toList)) = Table.parse text ∧
    (∀ ending : LineEnd,
      Table.parse (String.ofList (text.toList ++ ending.chars)) = Table.parse text ∧
      Table.parse (String.ofList (withReturns text.toList ++ ending.chars)) =
        Table.parse text) := by
  refine ⟨exists_lay_out _, ?_, lay_out_pieces _, ?_, ?_, ?_⟩
  · intro closings closed
    apply Table.parse_congr
    rw [String.toList_ofList, rule_lines_laid_out, rule_lines_of_pieces]
    intro line member
    exact not_mem_of_mem_lines member
  · intro closings closed
    apply Table.parse_congr
    rw [String.toList_ofList, rule_lines_laid_out]
    intro piece member
    exact not_mem_of_mem_split_on member
  · apply Table.parse_congr
    rw [String.toList_ofList, rule_lines_with_returns]
  · intro ending
    constructor
    · apply Table.parse_congr
      rw [String.toList_ofList, rule_lines_ended]
    · apply Table.parse_congr
      rw [String.toList_ofList, rule_lines_ended, rule_lines_with_returns]

/-- A tab behind a lone method, and white space behind a word that is no verdict. -/
example : Table.parse "f\t\r\n\ng\tblock\u3000\t \n" = .error (.invalidVerdict 3 "block") := rfl

end CallMonitor.Policy
