import CallMonitor.Proofs.Policy.Identities

/-!
What a table holds once rules have been stated into it, told without the table: one rule for each
identity among those stated, in the order in which the identities came up first, and each as it was
stated last. These three things leave one table only.
-/

namespace CallMonitor.Policy.Table

/-- A table holds what was stated. Every identity that was stated has one rule and no other has
any; rules stand in the order of their first statements; each is its last statement. -/
structure Holds (table : Table) (stated : List Rule) : Prop where
  once : ∀ identity, (table.rules.map Rule.identity).count identity =
    if identity ∈ stated.map Rule.identity then 1 else 0
  ordered : (table.rules.map Rule.identity).Pairwise fun earlier later =>
    (stated.map Rule.identity).idxOf earlier < (stated.map Rule.identity).idxOf later
  latest : ∀ rule ∈ table.rules, IsLastOf stated rule.identity rule

section Insertion

variable {table : Table}

/-- Where identities do not repeat, one rule at most is concerned. -/
theorem insert_cases (distinct : (table.rules.map Rule.identity).Nodup) (rule : Rule) :
    (∃ before old after, table.rules = before ++ old :: after ∧
      old.identity = rule.identity ∧ (∀ other ∈ before ++ after, other.identity ≠ rule.identity) ∧
      (table.insert rule).rules = before ++ { old with verdict := rule.verdict } :: after) ∨
    (∀ other ∈ table.rules, other.identity ≠ rule.identity) ∧
      (table.insert rule).rules = table.rules ++ [rule] := by
  rcases place_cases rule table.rules with ⟨before, old, after, split, agrees, placed⟩ |
    ⟨new, placed⟩
  · refine .inl ⟨before, old, after, split, agrees, ?_, placed⟩
    intro other member equal
    have moved : (old.identity :: (before ++ after).map Rule.identity).Nodup := by
      rw [split] at distinct
      refine (List.Perm.nodup_iff ?_).mp distinct
      rw [← List.map_cons]
      exact List.perm_middle.map _
    refine (List.nodup_cons.mp moved).1 ?_
    rw [agrees, ← equal]
    exact List.mem_map_of_mem member
  · refine .inr ⟨?_, placed⟩
    intro other member equal
    exact new (equal ▸ List.mem_map_of_mem member)

theorem mem_insert (distinct : (table.rules.map Rule.identity).Nodup) {rule other : Rule}
    (member : other ∈ (table.insert rule).rules) :
    other = rule ∨ other ∈ table.rules ∧ other.identity ≠ rule.identity := by
  rcases insert_cases distinct rule with ⟨before, old, after, split, agrees, others, placed⟩ |
    ⟨others, placed⟩
  · rw [placed, Rule.with_verdict_of_identity agrees, List.mem_append, List.mem_cons] at member
    rcases member with earlier | rfl | later
    · exact .inr ⟨split ▸ List.mem_append_left _ earlier,
        others other (List.mem_append_left _ earlier)⟩
    · exact .inl rfl
    · exact .inr ⟨split ▸ List.mem_append_right _ (List.mem_cons_of_mem _ later),
        others other (List.mem_append_right _ later)⟩
  · rw [placed, List.mem_append, List.mem_singleton] at member
    rcases member with known | rfl
    · exact .inr ⟨known, others other known⟩
    · exact .inl rfl

end Insertion

section Stated

variable {stated : List Rule}

theorem ordered_insert_all (stated : List Rule) :
    ((empty.insertAll stated).rules.map Rule.identity).Pairwise fun earlier later =>
      (stated.map Rule.identity).idxOf earlier < (stated.map Rule.identity).idxOf later := by
  induction stated using List.reverseRecOn with
  | nil => exact List.Pairwise.nil
  | append_singleton stated rule ih =>
      have known {identity : String × List String}
          (member : identity ∈ (empty.insertAll stated).rules.map Rule.identity) :
          identity ∈ stated.map Rule.identity :=
        (mem_identities_insert_all stated identity).mp member
      have still {identity : String × List String} (member : identity ∈ stated.map Rule.identity) :
          ((stated ++ [rule]).map Rule.identity).idxOf identity =
            (stated.map Rule.identity).idxOf identity := by
        rw [List.map_append, List.idxOf_append_of_mem member]
      have kept := ih.imp_of_mem fun earlier later before => by
        rwa [← still (known earlier), ← still (known later)] at before
      rw [insert_all_append, insert, map_identity_place]
      split
      · exact kept
      · rename_i new
        rw [mem_identities_insert_all] at new
        refine List.pairwise_append.mpr ⟨kept, List.pairwise_singleton _ _, ?_⟩
        intro earlier member later last
        obtain rfl := List.mem_singleton.mp last
        rw [still (known member), List.map_append, List.idxOf_append_of_notMem new]
        exact Nat.lt_add_right _ (List.idxOf_lt_length_of_mem (known member))

theorem latest_insert_all (stated : List Rule) :
    ∀ rule ∈ (empty.insertAll stated).rules, IsLastOf stated rule.identity rule := by
  induction stated using List.reverseRecOn with
  | nil =>
      rintro rule ⟨⟩
  | append_singleton stated rule ih =>
      intro other member
      rw [insert_all_append] at member
      rcases mem_insert (nodup_identities_insert_all stated) member with rfl | ⟨among, differs⟩
      · exact is_last_of_append stated other
      · exact (ih other among).append_other differs.symm

theorem holds_insert_all (stated : List Rule) : (empty.insertAll stated).Holds stated := by
  refine ⟨?_, ordered_insert_all stated, latest_insert_all stated⟩
  intro identity
  rw [(nodup_identities_insert_all stated).count]
  simp only [mem_identities_insert_all]

theorem Holds.unique {table other : Table} (holds : table.Holds stated)
    (also : other.Holds stated) : table = other := by
  have identities : table.rules.map Rule.identity = other.rules.map Rule.identity := by
    refine List.Perm.eq_of_pairwise ?_ holds.ordered also.ordered ?_
    · intro earlier later _ _ before after
      exact absurd after (Nat.lt_asymm before)
    · rw [List.perm_iff_count]
      intro identity
      rw [holds.once, also.once]
  -- A rule is found from its identity as the last one that was stated with it.
  have found {table : Table} (holds : table.Holds stated) :
      table.rules.map some = (table.rules.map Rule.identity).map fun identity =>
        stated.reverse.find? fun rule => rule.identity = identity := by
    rw [List.map_map]
    refine List.map_congr_left ?_
    intro rule member
    exact (holds.latest rule member).find_reverse.symm
  have rules : table.rules.map some = other.rules.map some := by
    rw [found holds, found also, identities]
  obtain ⟨rules⟩ := table
  obtain ⟨others⟩ := other
  exact congrArg Table.mk ((List.map_inj_right fun _ _ => Option.some.inj).mp rules)

end Stated

/-- The table that rules are stated into one after the other, starting from the empty one, is the
one that holds them: a rule for each identity, in the order of first statements, as it was stated
last. It has as many rules as there are different identities. One more rule changes the verdict of
the single rule with its identity and nothing else, or comes at the end if there is no such rule. -/
theorem table_of_statements (stated : List Rule) :
    (∀ table, empty.insertAll stated = table ↔ table.Holds stated) ∧
    (empty.insertAll stated).size = (stated.map Rule.identity).dedup.length ∧
    ∀ rule,
      (∃ before old after, (empty.insertAll stated).rules = before ++ old :: after ∧
        old.identity = rule.identity ∧
        (∀ other ∈ before ++ after, other.identity ≠ rule.identity) ∧
        (empty.insertAll (stated ++ [rule])).rules =
          before ++ { old with verdict := rule.verdict } :: after) ∨
      (∀ other ∈ (empty.insertAll stated).rules, other.identity ≠ rule.identity) ∧
        (empty.insertAll (stated ++ [rule])).rules =
          (empty.insertAll stated).rules ++ [rule] := by
  refine ⟨?_, size_insert_all stated, ?_⟩
  · intro table
    constructor
    · rintro rfl
      exact holds_insert_all stated
    · exact (holds_insert_all stated).unique
  · intro rule
    rw [insert_all_append]
    exact insert_cases (nodup_identities_insert_all stated) rule

end CallMonitor.Policy.Table
