import CallMonitor.Policy.Table
import Mathlib.Data.List.Induction

/-!
Lookups in a table that rules have been stated into one after the other. The place of a rule comes
from its first statement and its verdict from the last one, so the rule that decides a query is the
last statement of the first rule that affects it.
-/

namespace CallMonitor.Policy

theorem Rule.affects_with_verdict (rule : Rule) (verdict : Verdict) (query : Query) :
    ({ rule with verdict := verdict } : Rule).affects query = rule.affects query := rfl

theorem Rule.affects_of_identity {rule other : Rule} (same : rule.identity = other.identity)
    (query : Query) : rule.affects query = other.affects query := by
  obtain ⟨method, matchers⟩ := Prod.mk.inj same
  simp only [Rule.affects, method, matchers]

theorem Rule.with_verdict_of_identity {rule other : Rule} (same : rule.identity = other.identity) :
    { rule with verdict := other.verdict } = other := by
  obtain ⟨method, matchers⟩ := Prod.mk.inj same
  cases other
  simp only [method, matchers]

/-- The last rule of a list with an identity: no rule after it has that identity. -/
def IsLastOf (rules : List Rule) (identity : String × List String) (last : Rule) : Prop :=
  ∃ upTo rest, rules = upTo ++ last :: rest ∧ last.identity = identity ∧
    ∀ later ∈ rest, later.identity ≠ identity

theorem is_last_of_append (rules : List Rule) (rule : Rule) :
    IsLastOf (rules ++ [rule]) rule.identity rule :=
  ⟨rules, [], rfl, rfl, by simp⟩

theorem IsLastOf.same {rules : List Rule} {identity : String × List String} {last : Rule}
    (isLast : IsLastOf rules identity last) : last.identity = identity := by
  obtain ⟨_, _, _, same, _⟩ := isLast
  exact same

theorem IsLastOf.mem {rules : List Rule} {identity : String × List String} {last : Rule}
    (isLast : IsLastOf rules identity last) : last ∈ rules := by
  obtain ⟨upTo, rest, split, -, -⟩ := isLast
  rw [split]
  exact List.mem_append_cons_self

theorem IsLastOf.append_other {rules : List Rule} {identity : String × List String} {last : Rule}
    (isLast : IsLastOf rules identity last) {rule : Rule} (other : rule.identity ≠ identity) :
    IsLastOf (rules ++ [rule]) identity last := by
  obtain ⟨upTo, rest, split, same, later⟩ := isLast
  refine ⟨upTo, rest ++ [rule], by rw [split, List.append_assoc, List.cons_append], same, ?_⟩
  intro candidate member
  rcases List.mem_append.mp member with inside | added
  · exact later candidate inside
  · rw [List.mem_singleton.mp added]
    exact other

/-- Read from its end, the list has the rule as its first one with the identity. -/
theorem IsLastOf.find_reverse {rules : List Rule} {identity : String × List String} {last : Rule}
    (isLast : IsLastOf rules identity last) :
    (rules.reverse.find? fun rule => rule.identity = identity) = some last := by
  obtain ⟨upTo, rest, split, same, later⟩ := isLast
  rw [List.find?_eq_some_iff_append]
  refine ⟨decide_eq_true same, rest.reverse, upTo.reverse, by simp [split], ?_⟩
  intro between member
  have differs := later between (List.mem_reverse.mp member)
  simp [differs]

theorem IsLastOf.unique {rules : List Rule} {identity : String × List String} {last other : Rule}
    (isLast : IsLastOf rules identity last) (isOther : IsLastOf rules identity other) :
    last = other :=
  Option.some.inj (isLast.find_reverse.symm.trans isOther.find_reverse)

namespace Table

/-- Stating one more rule: a rule with its identity that decided a query takes its verdict, and it
decides those queries that nothing has decided before. -/
theorem find_insert (table : Table) (rule : Rule) (query : Query) :
    (table.insert rule).find? query =
      match table.find? query with
      | some found =>
          some (if found.identity = rule.identity then { found with verdict := rule.verdict }
            else found)
      | none => if rule.affects query then some rule else none := by
  obtain ⟨rules⟩ := table
  simp only [insert, find?]
  induction rules with
  | nil =>
      simp only [place, List.find?_cons, List.find?_nil]
      cases rule.affects query <;> rfl
  | cons first rest ih =>
      by_cases same : first.identity = rule.identity
      · have alike := Rule.affects_of_identity same query
        simp only [place, same, if_true, List.find?_cons, Rule.affects_with_verdict]
        cases affected : first.affects query with
        | true => simp [same]
        | false =>
            -- The rule that was stated again does not affect the query either.
            rw [affected] at alike
            cases found : rest.find? fun other => other.affects query with
            | none => simp [← alike]
            | some other =>
                have affects := List.find?_some found
                have distinct : other.identity ≠ rule.identity := by
                  intro equal
                  have also := Rule.affects_of_identity equal query
                  rw [affects, ← alike] at also
                  cases also
                simp [distinct]
      · simp only [place, same, if_false, List.find?_cons]
        cases first.affects query with
        | true => simp [same]
        | false => exact ih

theorem insert_all_append (table : Table) (rules : List Rule) (rule : Rule) :
    table.insertAll (rules ++ [rule]) = (table.insertAll rules).insert rule := by
  simp [insertAll]

/-- The rule that decides a query is the last one with the identity of the first one, among those
stated, that affects it. -/
theorem find_insert_all (rules : List Rule) (query : Query) :
    match rules.find? fun rule => rule.affects query with
    | none => (empty.insertAll rules).find? query = none
    | some first => ∃ last, IsLastOf rules first.identity last ∧
        (empty.insertAll rules).find? query = some last := by
  -- Rules are stated in order, so a table grows by the last rule of the list.
  induction rules using List.reverseRecOn with
  | nil => rfl
  | append_singleton rules rule ih =>
      rw [insert_all_append, find_insert, List.find?_append]
      cases decided : rules.find? fun other => other.affects query with
      | none =>
          simp only [decided] at ih
          simp only [ih, Option.none_or, List.find?_cons, List.find?_nil]
          cases rule.affects query with
          | false => rfl
          | true => exact ⟨rule, is_last_of_append rules rule, rfl⟩
      | some first =>
          simp only [decided] at ih
          obtain ⟨last, isLast, found⟩ := ih
          have same := isLast.same
          simp only [found, Option.some_or]
          by_cases again : last.identity = rule.identity
          · rw [if_pos again, Rule.with_verdict_of_identity again]
            refine ⟨rule, ?_, rfl⟩
            rw [← same, again]
            exact is_last_of_append rules rule
          · rw [if_neg again]
            refine ⟨last, isLast.append_other ?_, rfl⟩
            rw [← same]
            exact fun equal => again equal.symm

end Table

end CallMonitor.Policy
