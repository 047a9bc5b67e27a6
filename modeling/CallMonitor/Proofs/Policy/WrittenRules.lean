import CallMonitor.Proofs.Policy.Identities
import CallMonitor.Proofs.Policy.RuleLines
import CallMonitor.Proofs.Text.Fields
import CallMonitor.Proofs.Text.Lines

/-!
Rules in their written form, one in a line, with lines between them that say nothing. What is
written is read back as it was, and a table that was read holds nothing that could not be written,
but for methods that start like a comment.
-/

namespace CallMonitor.Policy

open CallMonitor.Text

/-- A rule that can be written in a line. -/
structure Rule.IsPlain (rule : Rule) : Prop where
  solid : ∀ c ∈ rule.method.toList, isBlank c = false
  noComment : rule.method.toList.head? ≠ some '#'
  whole : ∀ matcher ∈ rule.matchers, '\t' ∉ matcher.toList ∧ '\n' ∉ matcher.toList

instance : DecidablePred Rule.IsPlain := fun rule =>
  -- Through the list: to try all characters one by one would take too long.
  have : Decidable (∀ c ∈ rule.method.toList, isBlank c = false) := List.decidableBAll _ _
  decidable_of_iff ((∀ c ∈ rule.method.toList, isBlank c = false) ∧
      rule.method.toList.head? ≠ some '#' ∧
      ∀ matcher ∈ rule.matchers, '\t' ∉ matcher.toList ∧ '\n' ∉ matcher.toList)
    ⟨fun ⟨solid, noComment, whole⟩ => ⟨solid, noComment, whole⟩,
      fun plain => ⟨plain.solid, plain.noComment, plain.whole⟩⟩

/-- A line that says nothing: it is blank, or a comment, or has no tab. -/
def IsSilent (line : List Char) : Prop :=
  allBlank line = true ∨ line.head? = some '#' ∨ '\t' ∉ line

instance : DecidablePred IsSilent := fun _ =>
  inferInstanceAs (Decidable (_ = true ∨ _ = some '#' ∨ '\t' ∉ _))

theorem not_is_rule_line {line : List Char} (silent : IsSilent line) : ¬IsRuleLine line := by
  rintro ⟨visible, noComment, two⟩
  rcases silent with blank | comment | noTab
  · rw [blank] at visible
    cases visible
  · exact noComment comment
  · exact noTab (tab_mem_of_two_fields two)

theorem rule_of_silent {line : List Char} (silent : IsSilent line) :
    ruleOfLine line = .ok none := by
  rw [rule_of_line 0, ruleLine?, if_neg (not_is_rule_line silent)]

/-- A line that says nothing still says nothing without a carriage return at its end. -/
theorem IsSilent.drop_return {line : List Char} (silent : IsSilent line) :
    IsSilent (dropReturn '\r' line) := by
  unfold dropReturn
  split
  · rename_i returned
    rcases silent with blank | comment | noTab
    · left
      rw [allBlank, List.all_eq_true] at blank ⊢
      intro c member
      exact blank c (List.dropLast_subset line member)
    · right
      left
      cases line with
      | nil => cases comment
      | cons first rest =>
          cases rest with
          | nil =>
              cases comment
              cases returned
          | cons next rest => exact comment
    · right
      right
      intro member
      exact noTab (List.dropLast_subset line member)
  · exact silent

namespace Rule

def fields (rule : Rule) : List (List Char) :=
  rule.method.toList :: rule.matchers.map String.toList ++ [rule.verdict.word.toList]

theorem to_line_toList (rule : Rule) : rule.toLine.toList = ['\t'].intercalate rule.fields := by
  rw [toLine, String.toList_intercalate]
  simp [fields]

theorem word_visible (verdict : Verdict) : allBlank verdict.word.toList = false := by
  cases verdict <;> decide

theorem trim_word (verdict : Verdict) : trim verdict.word.toList = verdict.word.toList := by
  cases verdict <;> decide

variable {rule : Rule}

theorem IsPlain.field (plain : rule.IsPlain) {field : List Char} (member : field ∈ rule.fields) :
    '\t' ∉ field ∧ '\n' ∉ field := by
  rw [fields, List.mem_append, List.mem_cons, List.mem_map, List.mem_singleton] at member
  rcases member with (rfl | ⟨matcher, among, rfl⟩) | rfl
  · constructor
    · intro tab
      cases plain.solid '\t' tab
    · intro feed
      cases plain.solid '\n' feed
  · exact plain.whole matcher among
  · cases rule.verdict <;> decide

theorem IsPlain.one_line (plain : rule.IsPlain) : '\n' ∉ rule.toLine.toList := by
  rw [to_line_toList]
  intro feed
  rcases mem_intercalate feed with between | ⟨field, member, inside⟩
  · revert between
    decide
  · exact (plain.field member).2 inside

theorem IsPlain.split (plain : rule.IsPlain) :
    splitOn '\t' rule.toLine.toList = rule.fields := by
  rw [to_line_toList]
  apply split_on_intercalate
  · simp [fields]
  · intro field member
    exact (plain.field member).1

theorem IsPlain.line_fields (plain : rule.IsPlain) :
    lineFields rule.toLine.toList = rule.fields := by
  rw [lineFields, plain.split, fields]
  exact drop_end_while_concat (word_visible rule.verdict) _

theorem IsPlain.is_rule_line (plain : rule.IsPlain) : IsRuleLine rule.toLine.toList := by
  have last : rule.verdict.word.toList ∈ rule.fields := by simp [fields]
  refine ⟨?_, ?_, ?_⟩
  · -- The word is a piece of the line, and it is not blank.
    rw [← Bool.not_eq_true]
    intro blank
    have visible := word_visible rule.verdict
    rw [← plain.split] at last
    rw [allBlank, List.all_eq_true] at blank
    rw [allBlank, List.all_eq_false] at visible
    rcases visible with ⟨c, member, solid⟩
    exact solid (blank c (subset_of_mem_split_on last member))
  · rw [to_line_toList, fields]
    cases started : rule.method.toList with
    | nil => cases rule.matchers <;> simp
    | cons first rest =>
        have noComment := plain.noComment
        rw [started] at noComment
        cases rule.matchers <;> simpa using noComment
  · rw [plain.line_fields, fields]
    simp

theorem IsPlain.rule_of_line (plain : rule.IsPlain) :
    ruleOfLine rule.toLine.toList = .ok (some rule) := by
  have solid : strip rule.method.toList = rule.method.toList := by
    rw [strip, List.filter_eq_self]
    intro c member
    rw [plain.solid c member]
    rfl
  have last : rule.fields.getLastD [] = rule.verdict.word.toList := by
    rw [fields, List.getLastD_eq_getLast?, List.getLast?_concat]
    rfl
  have between : rule.fields.tail.dropLast = rule.matchers.map String.toList := by
    rw [fields, List.cons_append, List.tail_cons, List.dropLast_concat]
  rw [Policy.rule_of_line 0, ruleLine?, if_pos plain.is_rule_line, plain.line_fields, last, between]
  simp [fields, RuleLine.rule?, solid, trim_word, Verdict.of_word_word]

/-- A rule's line ends in its verdict, so it has no carriage return to lose. -/
theorem drop_return_to_line (rule : Rule) :
    dropReturn '\r' rule.toLine.toList = rule.toLine.toList := by
  have last : rule.toLine.toList.getLast? = rule.verdict.word.toList.getLast? := by
    rw [to_line_toList, fields, intercalate_concat, List.getLast?_append]
    cases rule.verdict <;> rfl
  rw [dropReturn, last, if_neg]
  cases rule.verdict <;> decide

end Rule

/-- A line of a policy text: a rule, or a line that says nothing. -/
inductive Entry
  | rule (rule : Rule)
  | note (text : String)
  deriving DecidableEq, Repr

namespace Entry

def line : Entry → String
  | rule stated => stated.toLine
  | note text => text

def rule? : Entry → Option Rule
  | rule stated => some stated
  | note _ => none

/-- An entry that can stand in a line of its own. -/
def IsPlain : Entry → Prop
  | rule stated => stated.IsPlain
  | note text => IsSilent text.toList ∧ '\n' ∉ text.toList

instance : DecidablePred Entry.IsPlain
  | rule stated => inferInstanceAs (Decidable stated.IsPlain)
  | note text => inferInstanceAs (Decidable (IsSilent text.toList ∧ '\n' ∉ text.toList))

/-- The text of some entries, with an end to every line. -/
def write (entries : List Entry) : String :=
  String.join (entries.map fun entry => entry.line ++ "\n")

def rules (entries : List Entry) : List Rule := entries.filterMap rule?

theorem write_cons (entry : Entry) (entries : List Entry) :
    (write (entry :: entries)).toList = entry.line.toList ++ '\n' :: (write entries).toList := by
  simp [write, String.join_cons]

variable {entry : Entry}

theorem IsPlain.one_line (plain : entry.IsPlain) : '\n' ∉ entry.line.toList := by
  cases entry with
  | rule stated => exact Rule.IsPlain.one_line plain
  | note text => exact plain.2

theorem IsPlain.rule_of_line (plain : entry.IsPlain) :
    ruleOfLine entry.line.toList = .ok entry.rule? ∧
      ruleOfLine (dropReturn '\r' entry.line.toList) = .ok entry.rule? := by
  cases entry with
  | rule stated =>
      have read : ruleOfLine stated.toLine.toList = .ok (some stated) :=
        Rule.IsPlain.rule_of_line plain
      constructor
      · exact read
      · rw [line, stated.drop_return_to_line]
        exact read
  | note text =>
      constructor
      · exact rule_of_silent plain.1
      · exact rule_of_silent plain.1.drop_return

end Entry

namespace Table

theorem read_lines_cons {line : List Char} {stated : Option Rule}
    (read : ruleOfLine line = .ok stated) (table : Table) (number : Nat)
    (rest : List (List Char)) :
    readLines table number (line :: rest) =
      readLines (table.insertAll stated.toList) (number + 1) rest := by
  rw [readLines, read]
  cases stated <;> rfl

/-- Entries that are written state their rules, and the lines after them are read into the table
with these. -/
theorem read_written (entries : List Entry) (plain : ∀ entry ∈ entries, entry.IsPlain)
    (rest : List Char) (table : Table) (number : Nat) :
    readLines table number (lines ((Entry.write entries).toList ++ rest)) =
      readLines (table.insertAll (Entry.rules entries)) (number + entries.length) (lines rest) := by
  induction entries generalizing table number with
  | nil => rfl
  | cons entry entries ih =>
      have first := plain entry List.mem_cons_self
      have later := ih fun other member => plain other (List.mem_cons_of_mem _ member)
      rw [Entry.write_cons, List.append_assoc, List.cons_append, lines_ended first.one_line,
        read_lines_cons first.rule_of_line.2, later]
      have rules : Entry.rules (entry :: entries) = entry.rule?.toList ++ Entry.rules entries := by
        rw [Entry.rules, List.filterMap_cons]
        cases entry.rule? <;> rfl
      rw [rules, insertAll, insertAll, insertAll, List.foldl_append, List.length_cons,
        Nat.add_right_comm, Nat.add_assoc]

theorem read_written_last {entries : List Entry} {last : Entry}
    (plain : ∀ entry ∈ entries ++ [last], entry.IsPlain) :
    readLines empty 1 (lines ((Entry.write entries).toList ++ last.line.toList)) =
      .ok (empty.insertAll (Entry.rules (entries ++ [last]))) := by
  have lastPlain := plain last (by simp)
  have firstPlain : ∀ entry ∈ entries, entry.IsPlain := by
    intro entry member
    exact plain entry (List.mem_append_left _ member)
  have stated : Entry.rules (entries ++ [last]) = Entry.rules entries ++ last.rule?.toList := by
    rw [Entry.rules, List.filterMap_append]
    cases said : last.rule? <;> simp [Entry.rules, said]
  rw [read_written entries firstPlain, stated, insertAll, insertAll, List.foldl_append]
  by_cases none : last.line.toList = []
  · -- An empty line is no line of its own at the end of a text, and it says nothing.
    have silent := lastPlain.rule_of_line.1
    rw [none, rule_of_silent (.inl rfl)] at silent
    rw [none, ← Except.ok.inj silent]
    rfl
  · rw [lines_unended lastPlain.one_line none, read_lines_cons lastPlain.rule_of_line.1]
    rfl

theorem plain_of_stated {text : String} {line : RuleLine} (member : line ∈ ruleLines text) :
    (∀ c ∈ line.method.toList, isBlank c = false) ∧
      ∀ matcher ∈ line.matchers, '\t' ∉ matcher.toList ∧ '\n' ∉ matcher.toList := by
  rw [ruleLines, ruleLinesFrom, List.mem_filterMap] at member
  rcases member with ⟨⟨raw, number⟩, numbered, known⟩
  have among : raw ∈ lines text.toList := List.fst_mem_of_mem_zipIdx numbered
  unfold ruleLine? at known
  split at known
  · cases known
    constructor
    · intro c member
      rw [String.toList_ofList, strip, List.mem_filter] at member
      simpa using member.2
    · intro matcher member
      rcases List.mem_map.mp member with ⟨field, inside, rfl⟩
      have piece : field ∈ splitOn '\t' raw := by
        apply (drop_end_while_starts allBlank _).subset
        exact List.mem_of_mem_tail (List.dropLast_subset _ inside)
      rw [String.toList_ofList]
      constructor
      · exact not_mem_of_mem_split_on piece
      · intro feed
        exact not_mem_of_mem_lines among (subset_of_mem_split_on piece feed)
  · cases known

theorem plain_of_parse {text : String} {table : Table} (parsed : parse text = .ok table) :
    (∀ rule ∈ table.rules, (∀ c ∈ rule.method.toList, isBlank c = false) ∧
        ∀ matcher ∈ rule.matchers, '\t' ∉ matcher.toList ∧ '\n' ∉ matcher.toList) ∧
      (table.rules.map Rule.identity).Nodup := by
  rw [(parse_cases parsed).2]
  constructor
  · intro rule member
    -- Every identity in the table is that of a rule line, and the verdict does not matter here.
    have stated := (mem_identities_insert_all _ rule.identity).mp (List.mem_map_of_mem member)
    rcases List.mem_map.mp stated with ⟨twin, among, same⟩
    rcases List.mem_filterMap.mp among with ⟨line, inside, said⟩
    rw [RuleLine.rule?, Option.map_eq_some_iff] at said
    rcases said with ⟨verdict, -, rfl⟩
    rcases Prod.mk.inj same with ⟨methods, matchers⟩
    rw [← methods, ← matchers]
    exact plain_of_stated inside
  · exact nodup_identities_insert_all _

end Table

/-- Any rules of pairwise different identities whose methods have no white space and do not start
like a comment, and whose matchers have no tab and no line feed, with any lines between them that
say nothing. Their text is read back as just these rules in this order, whether or not its last line
is ended.

Whatever can be read has rules of pairwise different identities, whose methods have no white space,
and whose matchers have no tab and no line feed. -/
theorem written_rules_read_back :
    (∀ entries : List Entry, (∀ entry ∈ entries, entry.IsPlain) →
      ((Entry.rules entries).map Rule.identity).Nodup →
      Table.parse (Entry.write entries) = .ok ⟨Entry.rules entries⟩ ∧
        ∀ before last, entries = before ++ [last] →
          Table.parse (Entry.write before ++ last.line) = .ok ⟨Entry.rules entries⟩) ∧
    ∀ (text : String) (table : Table), Table.parse text = .ok table →
      (∀ rule ∈ table.rules, (∀ c ∈ rule.method.toList, isBlank c = false) ∧
        ∀ matcher ∈ rule.matchers, '\t' ∉ matcher.toList ∧ '\n' ∉ matcher.toList) ∧
      (table.rules.map Rule.identity).Nodup := by
  constructor
  · intro entries plain distinct
    have table := Table.insert_all_distinct distinct
    constructor
    · have read := Table.read_written entries plain [] .empty 1
      rw [List.append_nil, table] at read
      exact read
    · rintro before last rfl
      have read := Table.read_written_last plain
      rw [table] at read
      rw [Table.parse, String.toList_append]
      exact read
  · intro text table parsed
    exact Table.plain_of_parse parsed

/-- Rules with an empty method, with blank and empty matchers, and with one matcher in two rules. -/
def oddEntries : List Entry :=
  [.note "# f\tDeny\r", .rule ⟨"", ["", " "], .deny⟩, .note " \t\t", .note "Mock",
    .rule ⟨"f(#)", ["\r", "#"], .mock⟩, .rule ⟨"", [], .allow⟩, .rule ⟨"f(#)", ["\r"], .allow⟩]

theorem odd_entries_read_back :
    ((∀ entry ∈ oddEntries, entry.IsPlain) ∧
        ((Entry.rules oddEntries).map Rule.identity).Nodup) ∧
      Table.parse (Entry.write oddEntries) =
        .ok ⟨[⟨"", ["", " "], .deny⟩, ⟨"f(#)", ["\r", "#"], .mock⟩, ⟨"", [], .allow⟩,
          ⟨"f(#)", ["\r"], .allow⟩]⟩ ∧
      Table.parse "#f\tDeny\n #f\t\r\tDeny" = .ok ⟨[⟨"#f", ["\r"], .deny⟩]⟩ ∧
      ([Rule.mk "#f" ["\r"] .deny].map Rule.identity).Nodup := by
  have plain : ∀ entry ∈ oddEntries, entry.IsPlain := by decide
  have distinct : ((Entry.rules oddEntries).map Rule.identity).Nodup := by decide
  have comment : Table.parse "#f\tDeny\n #f\t\r\tDeny" = .ok ⟨[⟨"#f", ["\r"], .deny⟩]⟩ := rfl
  refine ⟨⟨plain, distinct⟩, ?_, comment, ?_⟩
  · exact (written_rules_read_back.1 oddEntries plain distinct).1
  · exact (written_rules_read_back.2 _ _ comment).2

end CallMonitor.Policy
