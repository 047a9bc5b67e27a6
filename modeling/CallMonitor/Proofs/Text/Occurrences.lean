import CallMonitor.Text.Split
import Mathlib.Data.List.Infix

/-!
The search for a text inside another finds every occurrence, and nothing else. An occurrence does
not reach over a character that the text it is of does not have.
-/

namespace CallMonitor.Text

theorem occurs_in_eq_true_iff {α : Type} [DecidableEq α] (needle text : List α) :
    occursIn needle text = true ↔ needle <:+: text := by
  induction text with
  | nil => rw [occursIn, List.isEmpty_iff, List.infix_nil]
  | cons c rest ih =>
      rw [occursIn, Bool.or_eq_true, List.isPrefixOf_iff_prefix, ih, List.infix_cons_iff]

section Marks

variable {α : Type} {mark : α} {word : List α}

theorem prefix_before_mark (absent : mark ∉ word) (before after : List α) :
    word <+: before ++ mark :: after ↔ word <+: before := by
  induction before generalizing word with
  | nil =>
      cases word with
      | nil => simp
      | cons c word =>
          rw [List.mem_cons, not_or] at absent
          simp [Ne.symm absent.1]
  | cons d before ih =>
      cases word with
      | nil => simp
      | cons c word =>
          rw [List.mem_cons, not_or] at absent
          rw [List.cons_append, List.cons_prefix_cons, List.cons_prefix_cons, ih absent.2]

theorem infix_at_mark (absent : mark ∉ word) (before after : List α) :
    word <:+: before ++ mark :: after ↔ word <:+: before ∨ word <:+: after := by
  induction before with
  | nil =>
      have start := prefix_before_mark absent [] after
      rw [List.nil_append] at start
      rw [List.nil_append, List.infix_cons_iff, start, List.prefix_nil, List.infix_nil]
  | cons c before ih =>
      have start := prefix_before_mark absent (c :: before) after
      rw [List.cons_append] at start
      rw [List.cons_append, List.infix_cons_iff, start, ih, List.infix_cons_iff, or_assoc]

end Marks

end CallMonitor.Text
