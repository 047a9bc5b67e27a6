import CallMonitor.Policy.Table
import CallMonitor.Proofs.Text.Occurrences

/-!
When a rule speaks about a call. The resources count only as one text, run together, so a matcher
may start in one resource and end in a later one, and matchers may overlap. What a table finds
depends on the call's method up to white space and on that one text, and resources that come on
before or after leave no rule behind.
-/

namespace CallMonitor.Policy

open CallMonitor.Text

theorem occurs_in_iff_split {needle text : String} :
    occursIn needle.toList text.toList = true ↔
      ∃ before after, text = before ++ needle ++ after := by
  rw [occurs_in_eq_true_iff]
  constructor
  · rintro ⟨before, after, joined⟩
    refine ⟨String.ofList before, String.ofList after, ?_⟩
    rw [← String.toList_inj, ← joined]
    simp only [String.toList_append, String.toList_ofList]
  · rintro ⟨before, after, rfl⟩
    refine ⟨before.toList, after.toList, ?_⟩
    simp only [String.toList_append]

theorem eq_normal_method_iff {method other : String} :
    method = normalMethod other ↔
      method.toList = other.toList.filter fun c => !isBlank c := by
  rw [normalMethod, ← String.toList_inj, String.toList_ofList, strip]

namespace Rule

variable {rule : Rule} {query other : Query}

theorem affects_iff :
    rule.affects query = true ↔ rule.method = normalMethod query.method ∧
      ∀ matcher ∈ rule.matchers, ∃ before after,
        String.join query.resources = before ++ matcher ++ after := by
  rw [affects, Bool.and_eq_true, decide_eq_true_eq, List.all_eq_true, ← String.toList_join]
  simp only [occurs_in_iff_split]

/-- Of a call only the method's visible characters and the text of all its resources count. -/
theorem affects_congr (methods : normalMethod query.method = normalMethod other.method)
    (texts : String.join query.resources = String.join other.resources) :
    rule.affects query = rule.affects other := by
  rw [Bool.eq_iff_iff, affects_iff, affects_iff, methods, texts]

theorem affects_of_more {method : String} {resources : List String}
    (affected : rule.affects ⟨method, resources⟩ = true) (before after : List String) :
    rule.affects ⟨method, before ++ resources ++ after⟩ = true := by
  rw [affects_iff] at affected ⊢
  obtain ⟨named, occur⟩ := affected
  refine ⟨named, fun matcher among => ?_⟩
  obtain ⟨left, right, text⟩ := occur matcher among
  refine ⟨String.join before ++ left, right ++ String.join after, ?_⟩
  simp only [String.join_append] at text ⊢
  rw [text]
  simp only [String.append_assoc]

end Rule

/-- A rule affects a call exactly if the call's method is the rule's once all white space is taken
out of it, and each matcher stands somewhere in the text that all resources make together. A table
therefore finds the same rule for calls that are alike in these two things, and a rule that affects
a call affects it too when resources come on before or after. -/
theorem rules_match_by_text :
    (∀ (rule : Rule) (query : Query), rule.affects query = true ↔
      rule.method.toList = query.method.toList.filter (fun c => !isBlank c) ∧
        ∀ matcher ∈ rule.matchers, ∃ before after,
          String.join query.resources = before ++ matcher ++ after) ∧
    (∀ (table : Table) (query other : Query),
      query.method.toList.filter (fun c => !isBlank c) =
          other.method.toList.filter (fun c => !isBlank c) →
        String.join query.resources = String.join other.resources →
        table.find? query = table.find? other) ∧
    ∀ (rule : Rule) (method : String) (before resources after : List String),
      rule.affects ⟨method, resources⟩ = true →
        rule.affects ⟨method, before ++ resources ++ after⟩ = true := by
  refine ⟨?_, ?_, ?_⟩
  · intro rule query
    rw [Rule.affects_iff, eq_normal_method_iff]
  · intro table query other methods texts
    have same : normalMethod query.method = normalMethod other.method :=
      eq_normal_method_iff.mpr (methods ▸ eq_normal_method_iff.mp rfl)
    have alike : (fun rule : Rule => rule.affects query) = fun rule => rule.affects other := by
      funext rule
      exact Rule.affects_congr same texts
    rw [Table.find?, Table.find?, alike]
  · intro rule method before resources after affected
    exact Rule.affects_of_more affected before after

/-- A rule with two matchers that overlap, each across the end of a resource. -/
def straddling : Rule := .make "a.b( int )" ["ab", "bc"] .deny

theorem straddling_rule_found :
    straddling.affects ⟨"a.b(\tint)", ["xa", "", "b", "cy"]⟩ = true ∧
      Table.find? ⟨[straddling]⟩ ⟨"a.b(\tint)", ["xa", "", "b", "cy"]⟩ =
        Table.find? ⟨[straddling]⟩ ⟨"a . b(int)", ["xabcy"]⟩ ∧
      straddling.affects ⟨"a.b(\tint)", ["z"] ++ ["xa", "", "b", "cy"] ++ ["", "z"]⟩ = true := by
  have affected : straddling.affects ⟨"a.b(\tint)", ["xa", "", "b", "cy"]⟩ = true := by decide
  obtain ⟨-, finds, more⟩ := rules_match_by_text
  exact ⟨affected, finds _ _ _ (by decide) (by decide), more _ _ _ _ _ affected⟩

end CallMonitor.Policy
