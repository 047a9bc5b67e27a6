import CallMonitor.Proofs.Text.Fields

/-!
How a text falls into lines. A line ends at a line feed and loses one carriage return before it;
what follows the last line feed is a line of its own, unless it is empty, and loses nothing. With
this the lines of every text are known.
-/

namespace CallMonitor.Text

variable {α : Type} [DecidableEq α]

def dropReturn (cr : α) (line : List α) : List α :=
  if line.getLast? = some cr then line.dropLast else line

section Ends

variable {lf cr : α} {line : List α}

theorem drop_returns_ended (differ : lf ≠ cr) (whole : lf ∉ line) (rest : List α) :
    dropReturns lf cr (line ++ lf :: rest) =
      dropReturn cr line ++ lf :: dropReturns lf cr rest := by
  induction line with
  | nil =>
      rw [List.nil_append, dropReturns, if_neg fun both => differ both.1]
      simp [dropReturn]
  | cons c line ih =>
      rw [List.mem_cons, not_or] at whole
      rw [List.cons_append, dropReturns, ih whole.2]
      cases line with
      | nil => by_cases same : c = cr <;> simp [dropReturn, same]
      | cons next line =>
          have inside : ¬next = lf := fun same => whole.2 (same ▸ List.mem_cons_self)
          rw [if_neg (by simp [inside])]
          by_cases last : (next :: line).getLast? = some cr
          · have also : (c :: next :: line).getLast? = some cr := by
              rw [List.getLast?_cons_cons]
              exact last
            rw [dropReturn, dropReturn, if_pos last, if_pos also]
            rfl
          · have also : ¬(c :: next :: line).getLast? = some cr := by
              rw [List.getLast?_cons_cons]
              exact last
            rw [dropReturn, dropReturn, if_neg last, if_neg also]
            rfl

theorem drop_returns_unended (whole : lf ∉ line) : dropReturns lf cr line = line := by
  induction line with
  | nil => rfl
  | cons c line ih =>
      rw [List.mem_cons, not_or] at whole
      have kept : ¬(c = cr ∧ line.head? = some lf) :=
        fun both => whole.2 (List.mem_of_mem_head? both.2)
      rw [dropReturns, if_neg kept, ih whole.2]

theorem split_ended_ended (whole : lf ∉ line) (rest : List α) :
    splitEnded lf (line ++ lf :: rest) = line :: splitEnded lf rest := by
  induction line with
  | nil => rw [List.nil_append, splitEnded, if_pos rfl]
  | cons c line ih =>
      rw [List.mem_cons, not_or] at whole
      rw [List.cons_append, splitEnded, if_neg (Ne.symm whole.1), ih whole.2]

theorem split_ended_unended (whole : lf ∉ line) (some : line ≠ []) :
    splitEnded lf line = [line] := by
  induction line with
  | nil => exact absurd rfl some
  | cons c line ih =>
      rw [List.mem_cons, not_or] at whole
      rw [splitEnded, if_neg (Ne.symm whole.1)]
      cases line with
      | nil => rfl
      | cons next line => rw [ih whole.2 (by simp)]

end Ends

theorem not_mem_drop_return {mark cr : α} {line : List α} (whole : mark ∉ line) :
    mark ∉ dropReturn cr line := by
  unfold dropReturn
  split
  · exact fun member => whole (List.dropLast_subset line member)
  · exact whole

/-- What holds of every text without a line feed, and of an ended line before a text of which it
holds, holds of all texts. -/
theorem line_induction (lf : α) {motive : List α → Prop}
    (last : ∀ line, lf ∉ line → motive line)
    (ended : ∀ line rest, lf ∉ line → motive rest → motive (line ++ lf :: rest))
    (items : List α) : motive items := by
  have behind : ∀ line, lf ∉ line → motive (line ++ items) := by
    induction items with
    | nil =>
        intro line whole
        rw [List.append_nil]
        exact last line whole
    | cons c rest ih =>
        intro line whole
        by_cases feed : c = lf
        · rw [feed]
          exact ended line rest whole (ih [] List.not_mem_nil)
        · have longer := ih (line ++ [c]) (by simp [whole, Ne.symm feed])
          rw [List.append_assoc] at longer
          exact longer
  exact behind [] List.not_mem_nil

/-- What pieces between line feeds are as lines: those that are ended lose one carriage return, and
the last piece is no line if it is empty. -/
def asLines (cr : α) (pieces : List (List α)) : List (List α) :=
  pieces.dropLast.map (dropReturn cr) ++
    if pieces.getLastD [] = [] then [] else [pieces.getLastD []]

theorem split_ended_drop_returns {lf cr : α} (differ : lf ≠ cr) (items : List α) :
    splitEnded lf (dropReturns lf cr items) = asLines cr (splitOn lf items) := by
  induction items using line_induction lf with
  | last line whole =>
      rw [drop_returns_unended whole, split_on_absent whole, asLines]
      by_cases none : line = []
      · simp [none, splitEnded]
      · simp [none, split_ended_unended whole none]
  | ended line rest whole ih =>
      rw [drop_returns_ended differ whole, split_ended_ended (not_mem_drop_return whole),
        split_on_ended whole, ih]
      cases pieces : splitOn lf rest with
      | nil => exact absurd pieces (split_on_ne_nil lf rest)
      | cons next more => simp [asLines]

theorem lines_ended {line : List Char} (whole : '\n' ∉ line) (rest : List Char) :
    lines (line ++ '\n' :: rest) = dropReturn '\r' line :: lines rest := by
  rw [lines, drop_returns_ended (by decide) whole,
    split_ended_ended (not_mem_drop_return whole)]
  rfl

theorem lines_unended {line : List Char} (whole : '\n' ∉ line) (some : line ≠ []) :
    lines line = [line] := by
  rw [lines, drop_returns_unended whole, split_ended_unended whole some]

end CallMonitor.Text
