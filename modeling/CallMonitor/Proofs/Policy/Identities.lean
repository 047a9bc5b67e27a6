import CallMonitor.Proofs.Policy.Lookup
import Mathlib.Data.List.Dedup

/-!
The identities in a table. Stating a rule adds its identity, unless it is there already, so a table
has one rule for each identity among the rules that were stated into it.
-/

namespace CallMonitor.Policy.Table

theorem place_new {rule : Rule} {rules : List Rule}
    (new : rule.identity ∉ rules.map Rule.identity) : place rule rules = rules ++ [rule] := by
  induction rules with
  | nil => rfl
  | cons first rest ih =>
      rw [List.map_cons, List.mem_cons, not_or] at new
      rw [place, if_neg (Ne.symm new.1), ih new.2, List.cons_append]

/-- The first rule with the identity takes the verdict. Without one the rule comes at the end. -/
theorem place_cases (rule : Rule) (rules : List Rule) :
    (∃ before old after, rules = before ++ old :: after ∧ old.identity = rule.identity ∧
      place rule rules = before ++ { old with verdict := rule.verdict } :: after) ∨
    rule.identity ∉ rules.map Rule.identity ∧ place rule rules = rules ++ [rule] := by
  by_cases known : rule.identity ∈ rules.map Rule.identity
  · left
    induction rules with
    | nil => cases known
    | cons first rest ih =>
        by_cases same : first.identity = rule.identity
        · exact ⟨[], first, rest, rfl, same, by rw [place, if_pos same]; rfl⟩
        · have among : rule.identity ∈ rest.map Rule.identity :=
            (List.mem_cons.mp known).resolve_left (Ne.symm same)
          obtain ⟨before, old, after, split, agrees, placed⟩ := ih among
          refine ⟨first :: before, old, after, ?_, agrees, ?_⟩
          · rw [split, List.cons_append]
          · rw [place, if_neg same, placed, List.cons_append]
  · exact .inr ⟨known, place_new known⟩

/-- A rule stated again leaves the identities as they are, and any other adds its own at the end. -/
theorem map_identity_place (rule : Rule) (rules : List Rule) :
    (place rule rules).map Rule.identity =
      if rule.identity ∈ rules.map Rule.identity then rules.map Rule.identity
      else rules.map Rule.identity ++ [rule.identity] := by
  rcases place_cases rule rules with ⟨before, old, after, split, agrees, placed⟩ | ⟨new, placed⟩
  · have known : rule.identity ∈ rules.map Rule.identity := by
      rw [split, ← agrees]
      exact List.mem_map_of_mem (List.mem_append_right _ List.mem_cons_self)
    rw [if_pos known, placed, split, List.map_append, List.map_append]
    rfl
  · rw [if_neg new, placed, List.map_append, List.map_singleton]

theorem insert_all_distinct {rules : List Rule} (distinct : (rules.map Rule.identity).Nodup) :
    empty.insertAll rules = ⟨rules⟩ := by
  induction rules using List.reverseRecOn with
  | nil => rfl
  | append_singleton rules rule ih =>
      rw [List.map_append, List.map_singleton, List.nodup_append] at distinct
      have new : rule.identity ∉ rules.map Rule.identity := by
        intro known
        exact distinct.2.2 _ known _ (List.mem_singleton_self _) rfl
      rw [insert_all_append, ih distinct.1, insert, place_new new]

theorem mem_identities_insert (table : Table) (rule : Rule) (identity : String × List String) :
    identity ∈ (table.insert rule).rules.map Rule.identity ↔
      identity ∈ table.rules.map Rule.identity ∨ identity = rule.identity := by
  rw [insert, map_identity_place]
  split
  · rename_i known
    constructor
    · exact .inl
    · rintro (member | rfl)
      · exact member
      · exact known
  · rw [List.mem_append, List.mem_singleton]

theorem nodup_identities_insert {table : Table} (distinct : (table.rules.map Rule.identity).Nodup)
    (rule : Rule) : ((table.insert rule).rules.map Rule.identity).Nodup := by
  rw [insert, map_identity_place]
  split
  · exact distinct
  · rename_i new
    rw [← List.concat_eq_append]
    exact distinct.concat new

theorem mem_identities_insert_all (rules : List Rule) (identity : String × List String) :
    identity ∈ (empty.insertAll rules).rules.map Rule.identity ↔
      identity ∈ rules.map Rule.identity := by
  induction rules using List.reverseRecOn with
  | nil => rfl
  | append_singleton rules rule ih =>
      rw [insert_all_append, mem_identities_insert, ih, List.map_append, List.mem_append,
        List.map_singleton, List.mem_singleton]

theorem nodup_identities_insert_all (rules : List Rule) :
    ((empty.insertAll rules).rules.map Rule.identity).Nodup := by
  induction rules using List.reverseRecOn with
  | nil => exact List.nodup_nil
  | append_singleton rules rule ih =>
      rw [insert_all_append]
      exact nodup_identities_insert ih rule

theorem size_insert_all (rules : List Rule) :
    (empty.insertAll rules).size = (rules.map Rule.identity).dedup.length := by
  have same : ((empty.insertAll rules).rules.map Rule.identity).Perm
      (rules.map Rule.identity).dedup := by
    rw [List.perm_ext_iff_of_nodup (nodup_identities_insert_all rules) (List.nodup_dedup _)]
    intro identity
    rw [mem_identities_insert_all, List.mem_dedup]
  rw [size, ← List.length_map Rule.identity]
  exact same.length_eq

end CallMonitor.Policy.Table
