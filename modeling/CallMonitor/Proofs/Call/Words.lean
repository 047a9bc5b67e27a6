import CallMonitor.Proofs.Call.Payload
import CallMonitor.Proofs.Log.Tags

/-!
Words in the line that describes a call. A word has none of the characters that separate, quote or
escape the parts of the line, so it cannot reach over the end of a part, and escaping leaves it
whole. Main statement: the words of the line are those of its labels and of its single parts.
-/

namespace CallMonitor.Call

open CallMonitor.Text

/-- The characters that stand around the parts of a call's line, and the one that escapes. -/
def marks : List Char := [quoteMark, '\\', ' ', '-', '>', ';', ':']

structure IsWord (word : List Char) : Prop where
  some : word ≠ []
  unmarked : ∀ mark ∈ marks, mark ∉ word

theorem prefix_escaped {word : List Char} (noQuote : quoteMark ∉ word) (noEscape : '\\' ∉ word)
    (value : List Char) : word <+: escapeQuotes value ↔ word <+: value := by
  induction value generalizing word with
  | nil => rfl
  | cons d value ih =>
      cases word with
      | nil => simp
      | cons c word =>
          rw [List.mem_cons, not_or] at noQuote noEscape
          by_cases quote : d = quoteMark
          · simp [escapeQuotes, quote, Ne.symm noQuote.1, Ne.symm noEscape.1]
          · rw [escapeQuotes, if_neg quote, List.cons_prefix_cons, List.cons_prefix_cons,
              ih noQuote.2 noEscape.2]

namespace IsWord

variable {word : List Char} (isWord : IsWord word)

include isWord

theorem not_in_nothing : ¬word <:+: [] := by
  rw [List.infix_nil]
  exact isWord.some

theorem at_mark {mark : Char} (member : mark ∈ marks) (before after : List Char) :
    word <:+: before ++ mark :: after ↔ word <:+: before ∨ word <:+: after :=
  infix_at_mark (isWord.unmarked mark member) before after

theorem behind_mark {mark : Char} (member : mark ∈ marks) (after : List Char) :
    word <:+: mark :: after ↔ word <:+: after := by
  have apart := isWord.at_mark member [] after
  rw [List.nil_append, or_iff_right isWord.not_in_nothing] at apart
  exact apart

/-- A word is found in an escaped text exactly if it stands in the text. -/
theorem in_escaped (value : List Char) : word <:+: escapeQuotes value ↔ word <:+: value := by
  induction value with
  | nil => rfl
  | cons d value ih =>
      by_cases quote : d = quoteMark
      · rw [escapeQuotes, if_pos quote, quote, isWord.behind_mark (by decide),
          isWord.behind_mark (by decide), isWord.behind_mark (by decide), ih]
      · have start := prefix_escaped (isWord.unmarked quoteMark (by decide))
          (isWord.unmarked '\\' (by decide)) (d :: value)
        rw [escapeQuotes, if_neg quote] at start ⊢
        rw [List.infix_cons_iff, List.infix_cons_iff, start, ih]

theorem in_enclosed (value : String) : word <:+: enclose value ↔ word <:+: value.toList := by
  rw [enclose, List.cons_append, isWord.behind_mark (by decide), isWord.at_mark (by decide),
    or_iff_left isWord.not_in_nothing, isWord.in_escaped]

theorem behind_marks {separator : List Char} (marked : ∀ mark ∈ separator, mark ∈ marks)
    (after : List Char) : word <:+: separator ++ after ↔ word <:+: after := by
  induction separator with
  | nil => rfl
  | cons mark separator ih =>
      rw [List.cons_append, isWord.behind_mark (marked mark List.mem_cons_self),
        ih fun other member => marked other (List.mem_cons_of_mem _ member)]

/-- A word among pieces with marks between them stands in one of the pieces. -/
theorem in_joined {separator : List Char} (some : separator ≠ [])
    (marked : ∀ mark ∈ separator, mark ∈ marks) (pieces : List (List Char)) :
    word <:+: joinWith separator pieces ↔ ∃ piece ∈ pieces, word <:+: piece := by
  induction pieces with
  | nil => simp [joinWith, isWord.not_in_nothing]
  | cons piece pieces ih =>
      cases pieces with
      | nil => simp [joinWith]
      | cons next pieces =>
          cases separator with
          | nil => exact absurd rfl some
          | cons mark more =>
              have rest : ∀ other ∈ more, other ∈ marks := fun other member =>
                marked other (List.mem_cons_of_mem _ member)
              rw [joinWith, List.append_assoc, List.cons_append,
                isWord.at_mark (marked mark List.mem_cons_self), isWord.behind_marks rest, ih]
              simp

theorem in_parameter (parameter : Parameter) :
    word <:+: Record.describeParameter parameter ↔
      word <:+: parameter.typeName.toList ∨ word <:+: parameter.value.toList := by
  rw [Record.describeParameter, List.append_assoc, List.singleton_append,
    isWord.at_mark (by decide), isWord.in_enclosed, isWord.in_enclosed]

theorem in_parameters (parameters : List Parameter) :
    word <:+: Record.describeParameters parameters ↔ ∃ parameter ∈ parameters,
      word <:+: parameter.typeName.toList ∨ word <:+: parameter.value.toList := by
  rw [Record.describeParameters, isWord.in_joined (by decide) (by simp [marks])]
  simp only [List.mem_map, exists_exists_and_eq_and, isWord.in_parameter]

theorem in_trace (frames : List String) :
    word <:+: ("->".intercalate frames).toList ↔ ∃ frame ∈ frames, word <:+: frame.toList := by
  rw [← isWord.in_escaped, ← Record.describe_frames, Record.describeFrames,
    isWord.in_joined (by decide) (by simp [marks])]
  simp only [List.mem_map, exists_exists_and_eq_and, isWord.in_escaped]

/-- A word in what stands under a label, or before it, or in the label's name. -/
theorem at_label {label name : List Char} (named : label = ';' :: name ++ [':'])
    (before after : List Char) :
    word <:+: before ++ label ++ after ↔
      word <:+: before ∨ word <:+: name ∨ word <:+: after := by
  simp only [named, List.append_assoc, List.cons_append, List.nil_append]
  rw [isWord.at_mark (by decide), isWord.at_mark (by decide)]

end IsWord

namespace Record

def parts (record : Record) : List String :=
  [record.thread, record.className, record.method, record.returnClass] ++
    record.parameters.map Parameter.typeName ++ record.parameters.map Parameter.value ++
    record.frames

def labels : List String := ["TId", "objCls", "mthd", "retCls", "params", "stacktrace"]

/-- The words of a call's line are those of the labels and those of the single parts. Nothing is
assumed of the parts: quotes, escapes, separators and labels may stand in all of them. -/
theorem word_in_payload_iff {word : List Char} (isWord : IsWord word) (record : Record) :
    word <:+: record.payload.toList ↔
      (∃ label ∈ labels, word <:+: label.toList) ∨ ∃ part ∈ record.parts, word <:+: part.toList := by
  have first : "TId:".toList = "TId".toList ++ [':'] := rfl
  have className : ";objCls:".toList = ';' :: "objCls".toList ++ [':'] := rfl
  have method : ";mthd:".toList = ';' :: "mthd".toList ++ [':'] := rfl
  have returnClass : ";retCls:".toList = ';' :: "retCls".toList ++ [':'] := rfl
  have parameters : ";params:".toList = ';' :: "params".toList ++ [':'] := rfl
  have trace : ";stacktrace:".toList = ';' :: "stacktrace".toList ++ [':'] := rfl
  rw [payload_toList, isWord.at_label trace, isWord.at_label parameters,
    isWord.at_label returnClass, isWord.at_label method, isWord.at_label className, first,
    List.append_assoc, List.singleton_append, isWord.at_mark (by decide), isWord.in_enclosed,
    isWord.in_enclosed, isWord.in_enclosed, isWord.in_enclosed, isWord.in_parameters,
    isWord.in_trace]
  simp only [labels, parts, List.mem_append, List.mem_map, List.mem_cons, List.not_mem_nil,
    or_false, or_and_right, and_or_left, exists_or, exists_eq_left, exists_exists_and_eq_and]
  grind only

/-- A word that is in no label stands in the line of a call exactly if it stands in a part. -/
theorem word_in_payload_iff_in_part {word : List Char} (isWord : IsWord word)
    (unlabelled : ∀ label ∈ labels, ¬word <:+: label.toList) (record : Record) :
    word <:+: record.payload.toList ↔ ∃ part ∈ record.parts, word <:+: part.toList := by
  rw [word_in_payload_iff isWord]
  apply or_iff_right
  rintro ⟨label, member, inside⟩
  exact unlabelled label member inside

/-- The tags mark by mark, since there are too many characters to decide this for all of them. -/
theorem is_word_tags : IsWord Log.serverTag.toList ∧ IsWord Log.agentTag.toList := by
  refine ⟨⟨by decide, ?_⟩, by decide, ?_⟩ <;>
    simp only [marks, List.forall_mem_cons, List.not_mem_nil, false_imp_iff, implies_true] <;>
    decide

theorem server_tag_in_payload_iff (record : Record) :
    Log.serverTag.toList <:+: record.payload.toList ↔
      ∃ part ∈ record.parts, Log.serverTag.toList <:+: part.toList :=
  word_in_payload_iff_in_part is_word_tags.1 (by decide) record

theorem agent_tag_in_payload_iff (record : Record) :
    Log.agentTag.toList <:+: record.payload.toList ↔
      ∃ part ∈ record.parts, Log.agentTag.toList <:+: part.toList :=
  word_in_payload_iff_in_part is_word_tags.2 (by decide) record

theorem tagged_payload_iff (record : Record) :
    Log.Tagged record.payload ↔ ∃ part ∈ record.parts, Log.Tagged part := by
  rw [Log.Tagged, server_tag_in_payload_iff, agent_tag_in_payload_iff]
  simp only [Log.Tagged, and_or_left, exists_or]

end Record

end CallMonitor.Call
