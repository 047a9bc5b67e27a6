import CallMonitor.Text.Blank
import CallMonitor.Text.Split
import Mathlib.Data.List.Basic

/-!
Fields and lines as pieces of a text: what is joined is split again, and no piece holds what it was
split at.
-/

namespace CallMonitor.Text

section Pieces

variable {α : Type} [DecidableEq α]

theorem split_on_eq (separator : α) (items : List α) :
    splitOn separator items = items.splitOn separator := by
  induction items with
  | nil => rfl
  | cons c rest ih =>
      rw [splitOn, ih]
      simp only [List.splitOn, List.splitOnP_cons_eq_if_modifyHead, beq_iff_eq]
      split
      · rfl
      · cases split : rest.splitOnP (· == separator) with
        | nil => exact absurd split (List.splitOnP_ne_nil _ _)
        | cons field fields => rfl

theorem split_on_intercalate {separator : α} {fields : List (List α)} (some : fields ≠ [])
    (whole : ∀ field ∈ fields, separator ∉ field) :
    splitOn separator ([separator].intercalate fields) = fields := by
  rw [split_on_eq]
  exact List.splitOn_intercalate separator whole some

theorem split_on_absent {separator : α} {items : List α} (absent : separator ∉ items) :
    splitOn separator items = [items] := by
  have whole : ∀ field ∈ [items], separator ∉ field := by
    intro field member
    rw [List.mem_singleton.mp member]
    exact absent
  have split := split_on_intercalate (List.cons_ne_nil _ _) whole
  rw [List.intercalate_singleton] at split
  exact split

theorem split_on_ne_nil (separator : α) (items : List α) : splitOn separator items ≠ [] := by
  rw [split_on_eq]
  exact List.splitOnP_ne_nil _ _

theorem split_on_ended {separator : α} {field : List α} (whole : separator ∉ field)
    (rest : List α) :
    splitOn separator (field ++ separator :: rest) = field :: splitOn separator rest := by
  induction field with
  | nil => rw [List.nil_append, splitOn, if_pos rfl]
  | cons c field ih =>
      rw [List.mem_cons, not_or] at whole
      rw [List.cons_append, splitOn, if_neg (Ne.symm whole.1), ih whole.2]

theorem split_on_append (separator : α) (items rest : List α) :
    splitOn separator (items ++ separator :: rest) =
      splitOn separator items ++ splitOn separator rest := by
  induction items with
  | nil => simp [splitOn]
  | cons c items ih =>
      rw [List.cons_append, splitOn, splitOn, ih]
      cases pieces : splitOn separator items with
      | nil => exact absurd pieces (split_on_ne_nil separator items)
      | cons field fields => by_cases same : c = separator <;> simp [same]

theorem split_on_concat_separator (separator : α) (items : List α) :
    splitOn separator (items ++ [separator]) = splitOn separator items ++ [[]] :=
  split_on_append separator items []

theorem split_on_concat_other {separator c : α} (other : c ≠ separator) (items : List α) :
    ∃ fields last, splitOn separator items = fields ++ [last] ∧
      splitOn separator (items ++ [c]) = fields ++ [last ++ [c]] := by
  induction items with
  | nil => exact ⟨[], [], rfl, by simp [splitOn, other]⟩
  | cons d rest ih =>
      obtain ⟨fields, last, split, longer⟩ := ih
      rw [List.cons_append, splitOn, splitOn, split, longer]
      by_cases same : d = separator
      · exact ⟨[] :: fields, last, by simp [same], by simp [same]⟩
      · cases fields with
        | nil => exact ⟨[], d :: last, by simp [same], by simp [same]⟩
        | cons first fields => exact ⟨(d :: first) :: fields, last, by simp [same], by simp [same]⟩

theorem not_mem_of_mem_split_on {separator : α} {items field : List α}
    (member : field ∈ splitOn separator items) : separator ∉ field := by
  induction items generalizing field with
  | nil =>
      rw [splitOn, List.mem_singleton] at member
      simp [member]
  | cons c rest ih =>
      rw [splitOn] at member
      split at member
      · rcases List.mem_cons.mp member with rfl | later
        · exact List.not_mem_nil
        · exact ih later
      · rename_i other
        split at member
        · rw [List.mem_singleton.mp member]
          simp [Ne.symm other]
        · rename_i first fields split
          rw [split] at ih
          rcases List.mem_cons.mp member with rfl | later
          · simp [Ne.symm other, ih List.mem_cons_self]
          · exact ih (List.mem_cons_of_mem _ later)

theorem subset_of_mem_split_on {separator : α} {items field : List α}
    (member : field ∈ splitOn separator items) : field ⊆ items := by
  induction items generalizing field with
  | nil =>
      rw [splitOn, List.mem_singleton] at member
      simp [member]
  | cons c rest ih =>
      rw [splitOn] at member
      split at member
      · rcases List.mem_cons.mp member with rfl | later
        · exact List.nil_subset _
        · exact List.subset_cons_of_subset c (ih later)
      · split at member
        · rw [List.mem_singleton.mp member]
          simp
        · rename_i first fields split
          rw [split] at ih
          rcases List.mem_cons.mp member with rfl | later
          · exact List.cons_subset_cons c (ih List.mem_cons_self)
          · exact List.subset_cons_of_subset c (ih (List.mem_cons_of_mem _ later))

theorem split_ended_ne_nil {lf : α} {items : List α} (some : items ≠ []) :
    splitEnded lf items ≠ [] := by
  cases items with
  | nil => exact absurd rfl some
  | cons c rest =>
      rw [splitEnded]
      split
      · exact List.cons_ne_nil _ _
      · split <;> exact List.cons_ne_nil _ _

/-- Lines are fields between line ends; only an empty field at the end is no line. -/
theorem split_ended_starts (lf : α) (items : List α) :
    splitEnded lf items <+: splitOn lf items := by
  induction items with
  | nil => exact List.nil_prefix
  | cons c rest ih =>
      rw [splitEnded, splitOn]
      split
      · exact (List.prefix_cons_inj []).mpr ih
      · cases rest with
        | nil => exact List.prefix_rfl
        | cons next rest =>
            cases ended : splitEnded lf (next :: rest) with
            | nil => exact absurd ended (split_ended_ne_nil (List.cons_ne_nil _ _))
            | cons line lines =>
                rw [ended] at ih
                rcases ih with ⟨after, split⟩
                rw [← split]
                exact List.prefix_append _ _

end Pieces

theorem mem_intercalate {α : Type} {separator : List α} {c : α} {fields : List (List α)}
    (member : c ∈ separator.intercalate fields) :
    c ∈ separator ∨ ∃ field ∈ fields, c ∈ field := by
  induction fields with
  | nil => cases member
  | cons field fields ih =>
      cases fields with
      | nil =>
          rw [List.intercalate_singleton] at member
          exact .inr ⟨field, List.mem_cons_self, member⟩
      | cons next fields =>
          rw [List.intercalate_cons_cons, List.mem_append, List.mem_append] at member
          rcases member with (inside | between) | later
          · exact .inr ⟨field, List.mem_cons_self, inside⟩
          · exact .inl between
          · rcases ih later with between | ⟨other, among, inside⟩
            · exact .inl between
            · exact .inr ⟨other, List.mem_cons_of_mem _ among, inside⟩

theorem intercalate_concat {α : Type} (separator : List α) (fields : List (List α))
    (last : List α) :
    separator.intercalate (fields ++ [last]) =
      (fields.flatMap fun field => field ++ separator) ++ last := by
  induction fields with
  | nil => simp
  | cons field fields ih =>
      cases fields with
      | nil => simp [List.intercalate_cons_cons]
      | cons next fields =>
          rw [List.cons_append, List.cons_append, List.intercalate_cons_cons, List.flatMap_cons,
            ← List.cons_append, ih, List.append_assoc, List.append_assoc, List.append_assoc]

theorem not_mem_of_mem_lines {text line : List Char} (member : line ∈ lines text) :
    '\n' ∉ line :=
  not_mem_of_mem_split_on ((split_ended_starts _ _).subset member)

theorem drop_end_while_concat {α : Type} {p : α → Bool} {last : α} (kept : p last = false)
    (items : List α) : dropEndWhile p (items ++ [last]) = items ++ [last] := by
  rw [dropEndWhile, List.reverse_append, List.reverse_singleton, List.singleton_append,
    List.dropWhile_cons_of_neg (by simp [kept]), List.reverse_cons, List.reverse_reverse]

theorem drop_end_while_concat_dropped {α : Type} {p : α → Bool} {last : α} (dropped : p last = true)
    (items : List α) : dropEndWhile p (items ++ [last]) = dropEndWhile p items := by
  rw [dropEndWhile, List.reverse_append, List.reverse_singleton, List.singleton_append,
    List.dropWhile_cons_of_pos dropped, dropEndWhile]

theorem drop_end_while_starts {α : Type} (p : α → Bool) (items : List α) :
    dropEndWhile p items <+: items := by
  rw [← List.reverse_suffix, dropEndWhile, List.reverse_reverse]
  exact List.dropWhile_suffix p

theorem all_blank_concat {c : Char} (blank : isBlank c = true) (line : List Char) :
    allBlank (line ++ [c]) = allBlank line := by
  simp [allBlank, blank]

theorem trim_concat {c : Char} (blank : isBlank c = true) (text : List Char) :
    trim (text ++ [c]) = trim text := by
  rw [trim, trim, List.dropWhile_append]
  by_cases none : text.dropWhile isBlank = []
  · simp [none, blank]
  · simp [none, drop_end_while_concat_dropped blank]

end CallMonitor.Text
