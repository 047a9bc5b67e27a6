import CallMonitor.Proofs.Policy.Lookup
import CallMonitor.Proofs.Text.Fields

/-!
What a policy text means, told from its lines. Some lines are rule lines; each says a method,
matchers and a word. Main statement: whether a text can be read, which line it fails on, and what
its table decides, from the rule lines alone.
-/

namespace CallMonitor.Policy

open CallMonitor.Text

/-- A rule line is not blank, is no comment, and has at least two fields up to its last one that is
not blank. -/
def IsRuleLine (line : List Char) : Prop :=
  allBlank line = false ∧ line.head? ≠ some '#' ∧ 2 ≤ (lineFields line).length

instance : DecidablePred IsRuleLine := fun _ =>
  inferInstanceAs (Decidable (_ = false ∧ _ ≠ some '#' ∧ 2 ≤ _))

/-- What a rule line says, and its number among all lines. -/
structure RuleLine where
  number : Nat
  method : String
  /-- The fields between the first one and the last one. -/
  matchers : List String
  /-- The last field without white space around it. -/
  word : String
  deriving DecidableEq, Repr

/-- What a line says, if it is a rule line. -/
def ruleLine? (number : Nat) (line : List Char) : Option RuleLine :=
  if IsRuleLine line then
    some { number
           method := String.ofList (strip ((lineFields line).headD []))
           matchers := (lineFields line).tail.dropLast.map String.ofList
           word := String.ofList (trim ((lineFields line).getLastD [])) }
  else none

/-- The rule lines among lines of which the first one has a number. -/
def ruleLinesFrom (number : Nat) (rest : List (List Char)) : List RuleLine :=
  (rest.zipIdx number).filterMap fun line => ruleLine? line.2 line.1

theorem rule_lines_from_cons (number : Nat) (line : List Char) (rest : List (List Char)) :
    ruleLinesFrom number (line :: rest) =
      (ruleLine? number line).toList ++ ruleLinesFrom (number + 1) rest := by
  simp only [ruleLinesFrom, List.zipIdx_cons, List.filterMap_cons]
  cases ruleLine? number line <;> rfl

/-- The rule lines of a text. All lines count, from one on. -/
def ruleLines (text : String) : List RuleLine := ruleLinesFrom 1 (lines text.toList)

/-- The rule that a rule line states, if its word is a verdict. -/
def RuleLine.rule? (line : RuleLine) : Option Rule :=
  (Verdict.ofWord? line.word).map fun verdict => ⟨line.method, line.matchers, verdict⟩

/-- The word of a rule line is that of a verdict, in every letter. -/
def RuleLine.IsValid (line : RuleLine) : Prop :=
  line.word = "Allow" ∨ line.word = "Deny" ∨ line.word = "Mock"

theorem RuleLine.is_valid_iff (line : RuleLine) : line.IsValid ↔ line.rule?.isSome = true := by
  rw [RuleLine.rule?, Option.isSome_map]
  constructor
  · rintro (allow | deny | mock)
    · rw [allow]
      decide
    · rw [deny]
      decide
    · rw [mock]
      decide
  · intro known
    obtain ⟨verdict, found⟩ := Option.isSome_iff_exists.mp known
    have word := Verdict.word_of_of_word found
    cases verdict with
    | allow => exact .inl word.symm
    | deny => exact .inr (.inl word.symm)
    | mock => exact .inr (.inr word.symm)

theorem RuleLine.rule_is_none_iff (line : RuleLine) :
    line.rule?.isNone = true ↔ ¬line.IsValid := by
  rw [line.is_valid_iff, Option.isNone_iff_eq_none, Option.not_isSome_iff_eq_none]

theorem map_rule_of_valid {stated : List RuleLine} (valid : ∀ line ∈ stated, line.IsValid) :
    stated.map RuleLine.rule? = (stated.filterMap RuleLine.rule?).map some := by
  induction stated with
  | nil => rfl
  | cons line rest ih =>
      have known := line.is_valid_iff.mp (valid line List.mem_cons_self)
      obtain ⟨rule, stated⟩ := Option.isSome_iff_exists.mp known
      have later := ih fun other member => valid other (List.mem_cons_of_mem _ member)
      rw [List.map_cons, List.filterMap_cons, stated, List.map_cons, later]

theorem tab_mem_of_two_fields {line : List Char} (two : 2 ≤ (lineFields line).length) :
    '\t' ∈ line := by
  by_contra absent
  have few := (drop_end_while_starts allBlank (splitOn '\t' line)).length_le
  rw [split_on_absent absent] at few
  rw [lineFields, split_on_absent absent] at two
  have one : [line].length = 1 := rfl
  omega

/-- The rule that a line states is the one of its rule line. A line that is none states none. -/
theorem rule_of_line (number : Nat) (line : List Char) :
    ruleOfLine line =
      match ruleLine? number line with
      | none => .ok none
      | some found =>
          match found.rule? with
          | none => .error found.word
          | some rule => .ok (some rule) := by
  unfold ruleOfLine readLine ruleLine?
  by_cases skipped : allBlank line = true ∨ '\t' ∉ line ∨ line.head? = some '#'
  · have none : ¬IsRuleLine line := by
      rintro ⟨visible, noComment, two⟩
      rcases skipped with blank | noTab | comment
      · rw [visible] at blank
        cases blank
      · exact noTab (tab_mem_of_two_fields two)
      · exact noComment comment
    rw [if_pos skipped, if_neg none]
  rw [if_neg skipped]
  rw [not_or, not_or, Bool.not_eq_true, Decidable.not_not] at skipped
  obtain ⟨visible, -, noComment⟩ := skipped
  cases fields : lineFields line with
  | nil =>
      have none : ¬IsRuleLine line := by
        rintro ⟨-, -, two⟩
        rw [fields] at two
        cases two
      rw [if_neg none]
  | cons method rest =>
      cases last : rest.getLast? with
      | none =>
          have none : ¬IsRuleLine line := by
            rintro ⟨-, -, two⟩
            rw [fields, List.getLast?_eq_none_iff.mp last, List.length_singleton] at two
            omega
          simp only [last, if_neg none]
      | some word =>
          have rest_ne : rest ≠ [] := by
            rintro rfl
            cases last
          have two : 2 ≤ (lineFields line).length := by
            have some := List.length_pos_iff.mpr rest_ne
            rw [fields, List.length_cons]
            omega
          have lastOf : (method :: rest).getLastD [] = word := by
            simp [List.getLastD_eq_getLast?, List.getLast?_cons, last]
          rw [if_pos ⟨visible, noComment, two⟩]
          simp only [last, lastOf, List.headD_cons, List.tail_cons, RuleLine.rule?, Rule.make,
            normalMethod, String.toList_ofList]
          cases Verdict.ofWord? (String.ofList (trim word)) <;> rfl

namespace Table

/-- Reading lines into a table states the rules of the rule lines one after the other, and ends at
the first one whose word is no verdict. -/
theorem read_lines_eq (table : Table) (number : Nat) (rest : List (List Char)) :
    readLines table number rest =
      match (ruleLinesFrom number rest).find? fun line => line.rule?.isNone with
      | some line => .error (.invalidVerdict line.number line.word)
      | none => .ok (table.insertAll ((ruleLinesFrom number rest).filterMap RuleLine.rule?)) := by
  -- The table so far and the number of the next line are arbitrary.
  induction rest generalizing table number with
  | nil => rfl
  | cons line rest ih =>
      rw [readLines, rule_of_line number line, rule_lines_from_cons]
      cases stated : ruleLine? number line with
      | none => exact ih table (number + 1)
      | some found =>
          have counted : found.number = number := by
            unfold ruleLine? at stated
            split at stated
            · rw [← Option.some.inj stated]
            · cases stated
          cases said : found.rule? with
          | none =>
              simp only [Option.toList_some, List.singleton_append, List.find?_cons, said,
                Option.isNone_none, counted]
          | some rule =>
              simp only [Option.toList_some, List.singleton_append, List.find?_cons, said,
                Option.isNone_some, List.filterMap_cons]
              rw [ih (table.insert rule) (number + 1)]
              rfl

theorem parse_of_valid {text : String} (valid : ∀ line ∈ ruleLines text, line.IsValid) :
    parse text = .ok (empty.insertAll ((ruleLines text).filterMap RuleLine.rule?)) := by
  have all : ((ruleLines text).find? fun line => line.rule?.isNone) = none := by
    rw [List.find?_eq_none]
    intro line member invalid
    exact line.rule_is_none_iff.mp invalid (valid line member)
  unfold ruleLines at all
  rw [parse, read_lines_eq, all]
  rfl

theorem parse_of_invalid {text : String} {before after : List RuleLine} {line : RuleLine}
    (split : ruleLines text = before ++ line :: after)
    (valid : ∀ earlier ∈ before, earlier.IsValid) (invalid : ¬line.IsValid) :
    parse text = .error (.invalidVerdict line.number line.word) := by
  have first : ((ruleLines text).find? fun line => line.rule?.isNone) = some line := by
    rw [List.find?_eq_some_iff_append]
    refine ⟨line.rule_is_none_iff.mpr invalid, before, after, split, ?_⟩
    intro earlier member
    rw [Bool.not_eq_true', ← Bool.not_eq_true, earlier.rule_is_none_iff, not_not]
    exact valid earlier member
  unfold ruleLines at first
  rw [parse, read_lines_eq, first]

theorem lookup_insert_all (rules : List Rule) (query : Query) :
    ((∀ rule ∈ rules, rule.affects query = false) →
        (empty.insertAll rules).lookup query = .allow) ∧
      ∀ before first after, rules = before ++ first :: after →
        (∀ earlier ∈ before, earlier.affects query = false) → first.affects query = true →
        ∃ last, IsLastOf rules first.identity last ∧
          (empty.insertAll rules).lookup query = last.verdict := by
  have decided := find_insert_all rules query
  constructor
  · intro unaffected
    have none : (rules.find? fun rule => rule.affects query) = none := by
      rw [List.find?_eq_none]
      intro rule member
      simp [unaffected rule member]
    rw [none] at decided
    rw [lookup, decided]
    rfl
  · intro before first after split unaffected affected
    have found : (rules.find? fun rule => rule.affects query) = some first := by
      rw [List.find?_eq_some_iff_append]
      refine ⟨affected, before, after, split, ?_⟩
      intro earlier member
      rw [unaffected earlier member]
      rfl
    rw [found] at decided
    obtain ⟨last, isLast, deciding⟩ := decided
    exact ⟨last, isLast, by rw [lookup, deciding]⟩

end Table

theorem valid_or_first_invalid (stated : List RuleLine) :
    (∀ line ∈ stated, line.IsValid) ∨ ∃ before line after, stated = before ++ line :: after ∧
      (∀ earlier ∈ before, earlier.IsValid) ∧ ¬line.IsValid := by
  cases first : stated.find? fun line => line.rule?.isNone with
  | none =>
      rw [List.find?_eq_none] at first
      refine .inl fun line member => ?_
      have known := first line member
      rw [line.rule_is_none_iff, not_not] at known
      exact known
  | some line =>
      rw [List.find?_eq_some_iff_append] at first
      obtain ⟨invalid, before, after, split, earlier⟩ := first
      refine .inr ⟨before, line, after, split, ?_, line.rule_is_none_iff.mp invalid⟩
      intro other member
      have known := earlier other member
      rw [Bool.not_eq_true', ← Bool.not_eq_true, other.rule_is_none_iff, not_not] at known
      exact known

/-- A text that can be read has valid rule lines only, and its table holds what they state. -/
theorem Table.parse_cases {text : String} {table : Table} (parsed : Table.parse text = .ok table) :
    (∀ line ∈ ruleLines text, line.IsValid) ∧
      table = Table.empty.insertAll ((ruleLines text).filterMap RuleLine.rule?) := by
  rcases valid_or_first_invalid (ruleLines text) with
    valid | ⟨before, line, after, split, earlier, invalid⟩
  · exact ⟨valid, Except.ok.inj (parsed.symm.trans (Table.parse_of_valid valid))⟩
  · rw [Table.parse_of_invalid split earlier invalid] at parsed
    cases parsed

/-- Any text. It can be read exactly if the word of every rule line is a verdict. Otherwise the
first rule line without one is reported, with its number among all lines and its word. What can be
read states one rule for each rule line, in their order; a query that none of them affects is
allowed, and any other is decided by the last statement of the first rule that affects it. -/
theorem parse_by_rule_lines (text : String) :
    ((∃ table, Table.parse text = .ok table) ↔ ∀ line ∈ ruleLines text, line.IsValid) ∧
      (∀ error, Table.parse text = .error error ↔
        ∃ before line after, ruleLines text = before ++ line :: after ∧
          (∀ earlier ∈ before, earlier.IsValid) ∧ ¬line.IsValid ∧
          error = .invalidVerdict line.number line.word) ∧
      ∀ table, Table.parse text = .ok table →
        ∃ rules, (ruleLines text).map RuleLine.rule? = rules.map some ∧ ∀ query,
          ((∀ rule ∈ rules, rule.affects query = false) → table.lookup query = .allow) ∧
          ∀ before first after, rules = before ++ first :: after →
            (∀ earlier ∈ before, earlier.affects query = false) → first.affects query = true →
            ∃ last, IsLastOf rules first.identity last ∧ table.lookup query = last.verdict := by
  rcases valid_or_first_invalid (ruleLines text) with
    valid | ⟨before, line, after, split, earlier, invalid⟩
  · have parsed := Table.parse_of_valid valid
    refine ⟨⟨fun _ => valid, fun _ => ⟨_, parsed⟩⟩, ?_, ?_⟩
    · intro error
      constructor
      · intro failed
        rw [parsed] at failed
        cases failed
      · rintro ⟨before, line, after, split, -, invalid, -⟩
        exact absurd (valid line (by simp [split])) invalid
    · intro table reads
      obtain rfl := Except.ok.inj (parsed.symm.trans reads)
      exact ⟨_, map_rule_of_valid valid, Table.lookup_insert_all _⟩
  · have failed := Table.parse_of_invalid split earlier invalid
    refine ⟨⟨?_, fun valid => ?_⟩, ?_, ?_⟩
    · rintro ⟨table, parsed⟩
      rw [failed] at parsed
      cases parsed
    · exact absurd (valid line (by simp [split])) invalid
    · intro error
      constructor
      · intro reported
        rw [failed] at reported
        exact ⟨before, line, after, split, earlier, invalid, (Except.error.inj reported).symm⟩
      · rintro ⟨otherBefore, other, otherAfter, otherSplit, otherEarlier, otherInvalid, rfl⟩
        exact Table.parse_of_invalid otherSplit otherEarlier otherInvalid
    · intro table parsed
      rw [failed] at parsed
      cases parsed

/-- A rule that is stated again, with other white space in its method. -/
example :
    (Table.parse "f\tAllow\n# f\tMock\n f \tDeny\t\r\n").map (·.lookup ⟨"f", []⟩) = .ok .deny :=
  rfl

end CallMonitor.Policy
