import CallMonitor.Proofs.Policy.RuleLines

/-!
Rules of one method say nothing about calls of another. What a table finds for a query depends on
the rules of the query's method alone, in the order in which they were stated, so two policies with
the same rule lines of a method agree on all its calls.
-/

namespace CallMonitor.Policy

open CallMonitor.Text

/-- A rule is about a call if it names the call's method, up to white space. -/
def Rule.Names (method : String) (rule : Rule) : Prop := rule.method = normalMethod method

instance (method : String) : DecidablePred (Rule.Names method) := fun rule =>
  inferInstanceAs (Decidable (rule.method = normalMethod method))

theorem Rule.names_of_affects {rule : Rule} {query : Query} (affected : rule.affects query = true) :
    rule.Names query.method := by
  rw [affects, Bool.and_eq_true, decide_eq_true_eq] at affected
  exact affected.1

namespace Table

theorem find_insert_other (table : Table) {rule : Rule} {query : Query}
    (other : ¬rule.Names query.method) :
    (table.insert rule).find? query = table.find? query := by
  rw [find_insert]
  cases found : table.find? query with
  | none =>
      have unaffected : rule.affects query = false := by
        rw [← Bool.not_eq_true]
        exact fun affected => other (Rule.names_of_affects affected)
      simp [unaffected]
  | some first =>
      have named : first.Names query.method := by
        apply Rule.names_of_affects
        exact List.find?_some (p := fun other : Rule => other.affects query) found
      have distinct : first.identity ≠ rule.identity := by
        intro same
        apply other
        rw [Rule.Names, ← named]
        exact (congrArg Prod.fst same).symm
      simp [distinct]

/-- What a table finds for a query, it finds among the rules of the query's method. -/
theorem find_of_method (rules : List Rule) (query : Query) :
    (empty.insertAll rules).find? query =
      (empty.insertAll (rules.filter fun rule => rule.Names query.method)).find? query := by
  induction rules using List.reverseRecOn with
  | nil => rfl
  | append_singleton rules rule ih =>
      rw [List.filter_append, insert_all_append]
      by_cases named : rule.Names query.method
      · have kept : [rule].filter (fun rule => rule.Names query.method) = [rule] := by
          simp [named]
        rw [kept, insert_all_append, find_insert, find_insert, ih]
      · have dropped : [rule].filter (fun rule => rule.Names query.method) = [] := by
          simp [named]
        rw [dropped, List.append_nil, find_insert_other _ named]
        exact ih

end Table

/-- What a policy text states about a method: the matchers and the word of each of its rule lines,
in their order. -/
def statements (method : String) (text : String) : List (List String × String) :=
  ((ruleLines text).filter fun line => line.method = normalMethod method).map fun line =>
    (line.matchers, line.word)

/-- The rule that a statement about a method makes, if its word is a verdict. -/
def ruleOfStatement? (method : String) (statement : List String × String) : Option Rule :=
  (Verdict.ofWord? statement.2).map fun verdict =>
    ⟨normalMethod method, statement.1, verdict⟩

theorem RuleLine.method_of_rule {line : RuleLine} {rule : Rule} (said : line.rule? = some rule) :
    rule.method = line.method := by
  rw [rule?, Option.map_eq_some_iff] at said
  rcases said with ⟨verdict, -, rfl⟩
  rfl

/-- The rules of a method, among those that a text states, are those of the statements about it. -/
theorem rules_of_statements (method : String) (stated : List RuleLine) :
    (stated.filterMap RuleLine.rule?).filter (fun rule => rule.Names method) =
      ((stated.filter fun line => line.method = normalMethod method).map fun line =>
        (line.matchers, line.word)).filterMap (ruleOfStatement? method) := by
  induction stated with
  | nil => rfl
  | cons line rest ih =>
      by_cases named : line.method = normalMethod method
      · have same : ruleOfStatement? method (line.matchers, line.word) = line.rule? := by
          rw [ruleOfStatement?, RuleLine.rule?, named]
        rw [List.filter_cons_of_pos (by simpa using named), List.map_cons, List.filterMap_cons,
          List.filterMap_cons, same]
        cases said : line.rule? with
        | none => exact ih
        | some rule =>
            have names : rule.Names method := (RuleLine.method_of_rule said).trans named
            rw [List.filter_cons_of_pos (by simpa using names), ih]
      · rw [List.filter_cons_of_neg (by simpa using named), List.filterMap_cons]
        cases said : line.rule? with
        | none => exact ih
        | some rule =>
            have other : ¬rule.Names method := by
              intro names
              exact named ((RuleLine.method_of_rule said).symm.trans names)
            rw [List.filter_cons_of_neg (by simpa using other)]
            exact ih

def methodOf? (line : List Char) : Option String :=
  (ruleLine? 0 line).map RuleLine.method

theorem rule_line_number (number : Nat) (line : List Char) :
    ruleLine? number line =
      (ruleLine? 0 line).map fun said => { said with number := number } := by
  unfold ruleLine?
  split <;> rfl

theorem normal_of_rule_line {number : Nat} {line : List Char} {said : RuleLine}
    (known : ruleLine? number line = some said) : normalMethod said.method = said.method := by
  unfold ruleLine? at known
  split at known
  · cases known
    simp only [normalMethod, String.toList_ofList, strip_strip]
  · cases known

theorem normal_of_mem_rule_lines {text : String} {line : RuleLine}
    (member : line ∈ ruleLines text) : normalMethod line.method = line.method := by
  rw [ruleLines, ruleLinesFrom, List.mem_filterMap] at member
  rcases member with ⟨numbered, -, known⟩
  exact normal_of_rule_line known

/-- The statements about a method are those of its lines, wherever these stand. -/
theorem statements_of_lines (method : String) (text : String) :
    statements method text =
      ((lines text.toList).filter fun line =>
        methodOf? line = some (normalMethod method)).filterMap fun line =>
          (ruleLine? 0 line).map fun said => (said.matchers, said.word) := by
  unfold statements ruleLines
  generalize lines text.toList = rest
  -- Lines are numbered from anywhere, since the tail's numbers start later.
  generalize 1 = number
  induction rest generalizing number with
  | nil => rfl
  | cons line rest ih =>
      rw [rule_lines_from_cons, List.filter_append, List.map_append, ih, rule_line_number]
      cases known : ruleLine? 0 line with
      | none => simp [methodOf?, known]
      | some said =>
          by_cases named : said.method = normalMethod method <;>
            simp [methodOf?, known, named]

namespace Table

/-- What a text's table finds for a call, told from the text's statements about the method. -/
theorem find_of_statements {text : String} {table : Table} (parsed : parse text = .ok table)
    (query : Query) :
    table.find? query =
      (empty.insertAll ((statements query.method text).filterMap
        (ruleOfStatement? query.method))).find? query := by
  rw [(parse_cases parsed).2, find_of_method, rules_of_statements]
  rfl

theorem lookup_of_find {first second : Table} {query : Query}
    (same : first.find? query = second.find? query) :
    first.lookup query = second.lookup query := by
  rw [lookup, lookup, same]

theorem find_of_same_statements {first second : String} {table other : Table}
    (parsed : parse first = .ok table) (parsedToo : parse second = .ok other) (query : Query)
    (same : statements query.method first = statements query.method second) :
    table.find? query = other.find? query := by
  rw [find_of_statements parsed, find_of_statements parsedToo, same]

end Table

theorem valid_of_statements {first second : String}
    (same : ∀ method, statements method first = statements method second)
    (valid : ∀ line ∈ ruleLines first, line.IsValid) :
    ∀ line ∈ ruleLines second, line.IsValid := by
  intro line member
  have named := (normal_of_mem_rule_lines member).symm
  have stated : (line.matchers, line.word) ∈ statements line.method second := by
    apply List.mem_map.mpr
    exact ⟨line, List.mem_filter.mpr ⟨member, decide_eq_true named⟩, rfl⟩
  rw [← same, statements, List.mem_map] at stated
  rcases stated with ⟨twin, among, equal⟩
  have known := valid twin (List.mem_filter.mp among).1
  have words : twin.word = line.word := congrArg Prod.snd equal
  rw [RuleLine.IsValid, ← words]
  exact known

/-- Two texts that can be read and state the same about a method, in the same order: for a call of
this method both tables find the same rule with the same verdict, or none, and decide the same,
whatever else the texts say and wherever they say it.

Where two texts have the same lines of every method in the same order, as when the lines of one are
reordered and those of one method keep their order, the second can be read if the first can, and
every call is decided alike. -/
theorem methods_decided_apart :
    (∀ (first second : String) (table other : Table) (method : String),
      Table.parse first = .ok table → Table.parse second = .ok other →
      statements method first = statements method second → ∀ resources,
        table.find? ⟨method, resources⟩ = other.find? ⟨method, resources⟩ ∧
          table.lookup ⟨method, resources⟩ = other.lookup ⟨method, resources⟩) ∧
    ∀ (first second : String) (table : Table), Table.parse first = .ok table →
      (∀ method, ((lines first.toList).filter fun line => methodOf? line = some method) =
        (lines second.toList).filter fun line => methodOf? line = some method) →
      ∃ other, Table.parse second = .ok other ∧ ∀ query,
        table.find? query = other.find? query ∧ table.lookup query = other.lookup query := by
  constructor
  · intro first second table other method parsed parsedToo same resources
    have found := Table.find_of_same_statements parsed parsedToo ⟨method, resources⟩ same
    exact ⟨found, Table.lookup_of_find found⟩
  · intro first second table parsed sameLines
    have same : ∀ method, statements method first = statements method second := by
      intro method
      rw [statements_of_lines, statements_of_lines, sameLines]
    have valid := valid_of_statements same (Table.parse_cases parsed).1
    have parsedToo := Table.parse_of_valid valid
    refine ⟨_, parsedToo, fun query => ?_⟩
    have found := Table.find_of_same_statements parsed parsedToo query (same query.method)
    exact ⟨found, Table.lookup_of_find found⟩

/-- A rule that is stated twice, with a rule of another method between its statements. -/
def scattered : String := "g\thttp\tDeny\nf\tMock\n g \thttp\tAllow"

/-- The same rules, with the other one first. -/
def gathered : String := "# f\nf\tMock\n\ng\thttp\tDeny\n g \thttp\tAllow\n"

theorem reordered_policy_decides_alike :
    Table.parse scattered = .ok ⟨[⟨"g", ["http"], .allow⟩, ⟨"f", [], .mock⟩]⟩ ∧
      Table.parse gathered = .ok ⟨[⟨"f", [], .mock⟩, ⟨"g", ["http"], .allow⟩]⟩ ∧
      (∀ resources, Table.find? ⟨[⟨"g", ["http"], .allow⟩, ⟨"f", [], .mock⟩]⟩ ⟨"g", resources⟩ =
        Table.find? ⟨[⟨"f", [], .mock⟩, ⟨"g", ["http"], .allow⟩]⟩ ⟨"g", resources⟩) ∧
      ∃ other, Table.parse gathered = .ok other ∧ ∀ query,
        Table.find? ⟨[⟨"g", ["http"], .allow⟩, ⟨"f", [], .mock⟩]⟩ query = other.find? query := by
  have parsed : Table.parse scattered = .ok ⟨[⟨"g", ["http"], .allow⟩, ⟨"f", [], .mock⟩]⟩ := rfl
  have parsedToo : Table.parse gathered = .ok ⟨[⟨"f", [], .mock⟩, ⟨"g", ["http"], .allow⟩]⟩ := rfl
  have named : ∀ text ∈ [scattered, gathered], ∀ line ∈ lines text.toList,
      methodOf? line ∈ [none, some "f", some "g"] := by decide
  have sameLines : ∀ method,
      ((lines scattered.toList).filter fun line => methodOf? line = some method) =
        (lines gathered.toList).filter fun line => methodOf? line = some method := by
    intro method
    by_cases known : method = "f" ∨ method = "g"
    · rcases known with rfl | rfl <;> decide
    · have nothing : ∀ text ∈ [scattered, gathered],
          ((lines text.toList).filter fun line => methodOf? line = some method) = [] := by
        intro text among
        apply List.filter_eq_nil_iff.mpr
        intro line member
        have one := named text among line member
        grind
      rw [nothing scattered (by simp), nothing gathered (by simp)]
  refine ⟨parsed, parsedToo, fun resources => ?_, ?_⟩
  · exact (methods_decided_apart.1 _ _ _ _ "g" parsed parsedToo (by decide) resources).1
  · rcases methods_decided_apart.2 _ _ _ parsed sameLines with ⟨other, read, alike⟩
    exact ⟨other, read, fun query => (alike query).1⟩

end CallMonitor.Policy
