import CallMonitor.Bindings
import CallMonitor.Proofs.Cli.Evaluations
import CallMonitor.Proofs.Policy.Identities
import CallMonitor.Proofs.Policy.RuleLines
import CallMonitor.Proofs.Policy.WrittenRules
import CallMonitor.Proofs.Text.Utf8

/-!
Everybody who reads a policy reads the same: the agent, who answers every call by what stands at the
policy's path at that moment; the evaluation of one call, for people; and the count of a policy's
rules, for other programs. They differ only in what they make of a policy that cannot be used. The
agent then allows the call, and the others fail.

What a policy states is told from the bytes at its path, without a table.
-/

namespace CallMonitor.Policy

open CallMonitor.Text

/-- The rules that a policy states: none if nothing stands at its path; one for each rule line, if
a text stands there and all its rule lines are valid. Anything else states nothing at all. -/
inductive StatedAt : PathState → List Rule → Prop
  | nowhere {state : PathState} (missing : state.found = false) : StatedAt state []
  | text {text : String} {rules : List Rule}
      (valid : (ruleLines text).map RuleLine.rule? = rules.map some) :
      StatedAt (.file (encodeUtf8 text)) rules

/-- A rule decides a query among rules that are stated one after the other: it is the last
statement of the first rule that affects the query. -/
def Decides (rules : List Rule) (query : Query) (rule : Rule) : Prop :=
  ∃ before first after, rules = before ++ first :: after ∧
    (∀ earlier ∈ before, earlier.affects query = false) ∧ first.affects query = true ∧
    IsLastOf rules first.identity rule

theorem Decides.mem {rules : List Rule} {query : Query} {rule : Rule}
    (decides : Decides rules query rule) : rule ∈ rules := by
  obtain ⟨_, _, _, _, _, _, isLast⟩ := decides
  exact isLast.mem

theorem Decides.find {rules : List Rule} {query : Query} {rule : Rule}
    (decides : Decides rules query rule) :
    (Table.empty.insertAll rules).find? query = some rule := by
  obtain ⟨before, first, after, split, unaffected, affected, isLast⟩ := decides
  have found : (rules.find? fun other => other.affects query) = some first := by
    rw [List.find?_eq_some_iff_append]
    refine ⟨affected, before, after, split, ?_⟩
    intro earlier member
    simp [unaffected earlier member]
  have decided := Table.find_insert_all rules query
  rw [found] at decided
  obtain ⟨last, lastOf, finds⟩ := decided
  rw [finds, lastOf.unique isLast]

theorem Table.find_eq_some_iff (rules : List Rule) (query : Query) (rule : Rule) :
    (empty.insertAll rules).find? query = some rule ↔ Decides rules query rule := by
  refine ⟨fun finds => ?_, Decides.find⟩
  have decided := find_insert_all rules query
  cases found : rules.find? fun other => other.affects query with
  | none =>
      simp only [found] at decided
      rw [decided] at finds
      cases finds
  | some first =>
      simp only [found] at decided
      obtain ⟨last, isLast, deciding⟩ := decided
      obtain rfl := Option.some.inj (deciding.symm.trans finds)
      obtain ⟨affected, before, after, split, unaffected⟩ :=
        List.find?_eq_some_iff_append.mp found
      refine ⟨before, first, after, split, ?_, affected, isLast⟩
      intro earlier member
      simpa using unaffected earlier member

theorem Table.find_is_some_iff (rules : List Rule) (query : Query) :
    ((empty.insertAll rules).find? query).isSome = true ↔
      ∃ rule ∈ rules, rule.affects query = true := by
  have decided := find_insert_all rules query
  rw [← List.find?_isSome]
  cases found : rules.find? fun other => other.affects query with
  | none =>
      simp only [found] at decided
      simp [decided]
  | some first =>
      simp only [found] at decided
      obtain ⟨last, -, deciding⟩ := decided
      simp [deciding]

theorem StatedAt.load {state : PathState} {rules : List Rule} (stated : StatedAt state rules)
    (path : String) : Table.load path state = .ok (Table.empty.insertAll rules) := by
  cases stated with
  | nowhere missing =>
      rw [Table.load, missing]
      rfl
  | @text text rules valid =>
      have all : ∀ line ∈ ruleLines text, line.IsValid := by
        intro line member
        have known : line.rule? ∈ rules.map some := by
          rw [← valid]
          exact List.mem_map_of_mem member
        obtain ⟨rule, -, said⟩ := List.mem_map.mp known
        rw [line.is_valid_iff, ← said]
        rfl
      have same : (ruleLines text).filterMap RuleLine.rule? = rules := by
        have identical := congrArg (List.filterMap id) valid
        simpa [List.filterMap_map] using identical
      have read : (PathState.file (encodeUtf8 text)).readText = .ok text := by
        simp only [PathState.readText, PathState.read, decode_utf8_eq_some_iff.mpr rfl]
      simp only [Table.load, PathState.found, if_true, read, Table.parse_of_valid all, same]

theorem not_stated_of_load {path : String} {state : PathState} {error : PolicyError}
    (failed : Table.load path state = .error error) : ¬∃ rules, StatedAt state rules := by
  rintro ⟨rules, stated⟩
  rw [stated.load path] at failed
  cases failed

theorem Table.load_cases (path : String) (state : PathState) :
    (∃ rules, StatedAt state rules ∧ load path state = .ok (empty.insertAll rules)) ∨
      (¬∃ rules, StatedAt state rules) ∧ ∃ error, load path state = .error error := by
  have refused : ∀ error, load path state = .error error →
      (¬∃ rules, StatedAt state rules) ∧ ∃ error, load path state = .error error :=
    fun error failed => ⟨not_stated_of_load failed, error, failed⟩
  have nowhere : state.found = false →
      ∃ rules, StatedAt state rules ∧ load path state = .ok (empty.insertAll rules) := by
    intro missing
    have stated : StatedAt state [] := .nowhere missing
    exact ⟨[], stated, stated.load path⟩
  cases state with
  | absent => exact .inl (nowhere rfl)
  | unreachable reason => exact .inl (nowhere rfl)
  | directory => exact .inr (refused _ rfl)
  | file contents =>
      cases decoded : decodeUtf8 contents with
      | none =>
          apply Or.inr
          apply refused (.unreadable path .notUtf8)
          simp [load, PathState.found, PathState.readText, PathState.read, decoded]
      | some text =>
          have loaded : load path (.file contents) = parse text := by
            simp [load, PathState.found, PathState.readText, PathState.read, decoded]
          rcases valid_or_first_invalid (ruleLines text) with
            valid | ⟨before, line, after, split, earlier, invalid⟩
          · left
            have stated : StatedAt (.file (encodeUtf8 text)) _ := .text (map_rule_of_valid valid)
            rw [← decode_utf8_eq_some_iff.mp decoded] at stated
            exact ⟨_, stated, stated.load path⟩
          · apply Or.inr
            apply refused (.invalidVerdict line.number line.word)
            rw [loaded]
            exact parse_of_invalid split earlier invalid

/-- What happens at a policy's path, and what an agent is asked meanwhile. -/
inductive Happening
  | changed (state : PathState)
  | asked (query : Query)

/-- The questions among some happenings, each with what stood at the path when it was asked. -/
def questions (state : PathState) : List Happening → List (PathState × Query)
  | [] => []
  | .changed next :: rest => questions next rest
  | .asked query :: rest => (state, query) :: questions state rest

/-- What an agent answers, one question after the other. -/
def answers {τ ρ : Type} (agent : Agent τ ρ) (state : PathState) : List Happening → List Verdict
  | [] => []
  | .changed next :: rest => answers agent next rest
  | .asked query :: rest =>
      (agent.verdict state query).1 :: answers (agent.verdict state query).2 state rest

theorem verdict_by_path {τ ρ : Type} (agent : Agent τ ρ) (state : PathState) (query : Query) :
    (agent.verdict state query).1 = verdictUnder agent.policyPath state query ∧
      (agent.verdict state query).2.policyPath = agent.policyPath := by
  unfold Agent.verdict
  cases Table.load agent.policyPath state <;> exact ⟨rfl, rfl⟩

theorem answers_eq {τ ρ : Type} (agent : Agent τ ρ) (state : PathState)
    (happenings : List Happening) :
    answers agent state happenings =
      (questions state happenings).map fun asked =>
        verdictUnder agent.policyPath asked.1 asked.2 := by
  -- An answer leaves some other agent, with the same policy path.
  induction happenings generalizing agent state with
  | nil => rfl
  | cons happening rest ih =>
      cases happening with
      | changed next => exact ih agent next
      | asked query =>
          obtain ⟨answer, path⟩ := verdict_by_path agent state query
          rw [answers, questions, List.map_cons, ih, answer, path]

theorem verdict_under_eq_iff (path : String) (state : PathState) (query : Query)
    (verdict : Verdict) :
    verdictUnder path state query = verdict ↔
      (∃ rules rule, StatedAt state rules ∧ Decides rules query rule ∧ rule.verdict = verdict) ∨
        verdict = .allow ∧ ¬∃ rules rule, StatedAt state rules ∧ Decides rules query rule := by
  by_cases decided : ∃ rules rule, StatedAt state rules ∧ Decides rules query rule
  · obtain ⟨rules, rule, stated, decides⟩ := decided
    have answer : verdictUnder path state query = rule.verdict := by
      simp only [verdictUnder, stated.load path, Table.lookup, decides.find]
    rw [answer]
    constructor
    · intro same
      exact .inl ⟨rules, rule, stated, decides, same⟩
    · rintro (⟨others, other, statedToo, decidesToo, same⟩ | ⟨-, none⟩)
      · have tables := Except.ok.inj ((stated.load path).symm.trans (statedToo.load path))
        have found := decidesToo.find
        rw [← tables, decides.find] at found
        rw [Option.some.inj found, same]
      · exact absurd ⟨rules, rule, stated, decides⟩ none
  · have answer : verdictUnder path state query = .allow := by
      rw [verdictUnder]
      rcases Table.load_cases path state with ⟨rules, stated, loaded⟩ | ⟨-, error, failed⟩
      · have none : (Table.empty.insertAll rules).find? query = none := by
          rw [Option.eq_none_iff_forall_ne_some]
          intro rule found
          exact decided ⟨rules, rule, stated, (Table.find_eq_some_iff rules query rule).mp found⟩
        simp only [loaded, Table.lookup, none, Verdict.fallback]
      · simp only [failed, Verdict.fallback]
    rw [answer]
    constructor
    · intro same
      exact .inr ⟨same.symm, decided⟩
    · rintro (⟨rules, rule, stated, decides, -⟩ | ⟨same, -⟩)
      · exact absurd ⟨rules, rule, stated, decides⟩ decided
      · exact same.symm

section Summaries

theorem Rule.summary_eq (rule : Rule) :
    rule.summary =
      rule.method ++
        (if rule.matchers.isEmpty then "" else " [" ++ ", ".intercalate rule.matchers ++ "]") ++
        " -> " ++ rule.verdict.word := by
  obtain ⟨method, matchers, verdict⟩ := rule
  cases matchers with
  | nil => simp [summary]
  | cons first others => simp [summary, String.append_assoc]

theorem Rule.summary_one_line {rule : Rule}
    (solid : ∀ c ∈ rule.method.toList, isBlank c = false)
    (whole : ∀ matcher ∈ rule.matchers, '\n' ∉ matcher.toList) :
    '\n' ∉ rule.summary.toList := by
  have method : '\n' ∉ rule.method.toList := by
    intro feed
    have visible := solid _ feed
    revert visible
    decide
  have matchers : '\n' ∉ [',', ' '].intercalate (rule.matchers.map String.toList) := by
    intro feed
    rcases mem_intercalate feed with between | ⟨field, among, inside⟩
    · revert between
      decide
    · obtain ⟨matcher, listed, rfl⟩ := List.mem_map.mp among
      exact whole matcher listed inside
  have word : '\n' ∉ rule.verdict.word.toList := by cases rule.verdict <;> decide
  rw [summary_eq]
  cases rule.matchers.isEmpty <;> simp [method, matchers, word]

theorem StatedAt.one_line {state : PathState} {rules : List Rule} (stated : StatedAt state rules) :
    ∀ rule ∈ rules, '\n' ∉ rule.summary.toList := by
  intro rule member
  cases stated with
  | nowhere missing => cases member
  | @text text rules valid =>
      have known : some rule ∈ (ruleLines text).map RuleLine.rule? :=
        valid ▸ List.mem_map_of_mem member
      obtain ⟨line, inside, said⟩ := List.mem_map.mp known
      rw [RuleLine.rule?, Option.map_eq_some_iff] at said
      obtain ⟨verdict, -, rfl⟩ := said
      obtain ⟨solid, whole⟩ := Table.plain_of_stated inside
      exact Rule.summary_one_line solid fun matcher listed => (whole matcher listed).2

end Summaries

/-- Whatever comes to stand at its policy's path, and whatever an agent is asked meanwhile: every
answer depends on what stands there at that moment alone. It is the verdict of the rule that
decides, if something readable stands there and all its rule lines are valid, and `allow` otherwise.

The other readers agree with it. A policy that states rules is read by all of them: an evaluation
gives the same verdict and the rule that decides, which there is exactly if some rule affects the
call, and the count is the number of different identities, up to 32 bits. A policy that states
nothing is read by none of them, and the agent allows the call.

What the command then prints is the evaluation, and nothing else. The verdict is found in it in
every format, and in all but the compact one the rule, or that there is none; if there is no
evaluation, nothing is printed and the command fails. -/
theorem policy_readers_agree {τ ρ : Type} :
    (∀ (agent : Agent τ ρ) (state : PathState) (happenings : List Happening),
      answers agent state happenings =
        (questions state happenings).map fun asked =>
          verdictUnder agent.policyPath asked.1 asked.2) ∧
    (∀ (path : String) (state : PathState) (query : Query),
      (∀ verdict, verdictUnder path state query = verdict ↔
        (∃ rules rule, StatedAt state rules ∧ Decides rules query rule ∧
          rule.verdict = verdict) ∨
        verdict = .allow ∧ ¬∃ rules rule, StatedAt state rules ∧ Decides rules query rule) ∧
      ((∃ rules found, StatedAt state rules ∧
          Table.load path state = .ok (Table.empty.insertAll rules) ∧
          (let evaluation : Cli.Evaluation := ⟨query, found, verdictUnder path state query,
            (rules.map Rule.identity).dedup.length⟩
          Cli.Evaluation.ofState path state query = .ok evaluation ∧
          ∀ format colours, Cli.readShown format colours (evaluation.shown format colours) =
            some ⟨verdictUnder path state query,
              if format = .compact then none
              else found.map fun rule =>
                rule.method ++
                  (if rule.matchers.isEmpty then ""
                    else " [" ++ ", ".intercalate rule.matchers ++ "]") ++
                  " -> " ++ rule.verdict.word⟩) ∧
          (∀ rule, found = some rule ↔ Decides rules query rule) ∧
          (found.isSome = true ↔ ∃ rule ∈ rules, rule.affects query = true) ∧
          Bindings.validatePolicyFile path state =
            .ok ((rules.map Rule.identity).dedup.length % 4294967296)) ∨
        (¬∃ rules, StatedAt state rules) ∧ verdictUnder path state query = .allow ∧
          ∃ error, Table.load path state = .error error ∧
            Cli.Evaluation.ofState path state query = .error error ∧
            Bindings.validatePolicyFile path state = .error (.ofFailure (.policy error)))) ∧
    ∀ (world : Cli.Enclosure) (session : Cli.Session) (format : Cli.Format) (query : Query)
        (path : String),
      (Cli.evaluate Cli.Enclosure.surroundings session format query (some path)).run world =
        match Cli.Evaluation.ofState path (world.files.look path) query with
        | .error error =>
            (.error (.under ("Failed to load policy file " ++ path) error.message error.causes),
              world)
        | .ok evaluation =>
            (.ok (),
              { world with
                printed := world.printed ++ evaluation.shown format session.colours }) := by
  refine ⟨answers_eq, fun path state query => ⟨verdict_under_eq_iff path state query, ?_⟩,
    Cli.evaluate_run⟩
  rcases Table.load_cases path state with ⟨rules, stated, loaded⟩ | ⟨none, error, failed⟩
  · left
    have decides := Table.find_eq_some_iff rules query
    refine ⟨rules, (Table.empty.insertAll rules).find? query, stated, loaded, ⟨?_, ?_⟩,
      decides, Table.find_is_some_iff rules query, ?_⟩
    · simp only [Cli.Evaluation.ofState, verdictUnder, loaded, Table.size_insert_all]
      rfl
    · intro format colours
      simp only [← Rule.summary_eq]
      exact Cli.read_shown format colours fun rule found =>
        stated.one_line rule ((decides rule).mp found).mem
    · simp only [Bindings.validatePolicyFile, loaded, Table.size_insert_all]
  · right
    refine ⟨none, ?_, error, failed, ?_, ?_⟩
    · simp only [verdictUnder, failed, Verdict.fallback]
    · simp only [Cli.Evaluation.ofState, failed]
    · simp only [Bindings.validatePolicyFile, failed]

/-- One line without a verdict among others, and every call is allowed. -/
example :
    verdictUnder "rules" (.file (encodeUtf8 "f\tDeny\ng\tdeny\n")) ⟨"f", []⟩ = .allow ∧
      verdictUnder "rules" (.file (encodeUtf8 "f\tDeny\ng\tDeny\n")) ⟨"f", []⟩ = .deny :=
  ⟨rfl, rfl⟩

end CallMonitor.Policy
