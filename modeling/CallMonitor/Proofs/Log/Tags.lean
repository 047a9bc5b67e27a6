import CallMonitor.Log.Entry
import CallMonitor.Proofs.Text.Occurrences

/-!
Reserved tags in payloads, and what the checks of the call log make of them: the abort names the
payload that was given, or the first tagged one among the entries.
-/

namespace CallMonitor.Log

open CallMonitor.Text

def Tagged (payload : String) : Prop :=
  serverTag.toList <:+: payload.toList ∨ agentTag.toList <:+: payload.toList

theorem is_tagged_iff (payload : String) : isTagged payload = true ↔ Tagged payload := by
  rw [isTagged, Bool.or_eq_true, occurs_in_eq_true_iff, occurs_in_eq_true_iff, Tagged]

instance : DecidablePred Tagged := fun payload => decidable_of_iff _ (is_tagged_iff payload)

theorem is_tagged_eq_false_iff (payload : String) : isTagged payload = false ↔ ¬Tagged payload := by
  rw [← is_tagged_iff, Bool.not_eq_true]

def FirstTagged (entries : List Entry) (entry : Entry) : Prop :=
  Tagged entry.payload ∧ ∃ before later, entries = before ++ entry :: later ∧
    ∀ earlier ∈ before, ¬Tagged earlier.payload

theorem first_tagged_cons_of_tagged {head : Entry} (tagged : Tagged head.payload)
    (entries : List Entry) (entry : Entry) :
    FirstTagged (head :: entries) entry ↔ entry = head := by
  constructor
  · rintro ⟨_, before, later, split, clean⟩
    cases before with
    | nil =>
        rw [List.nil_append, List.cons.injEq] at split
        exact split.1.symm
    | cons first before =>
        rw [List.cons_append, List.cons.injEq] at split
        exact absurd (split.1 ▸ tagged) (clean first List.mem_cons_self)
  · rintro rfl
    refine ⟨tagged, [], entries, rfl, ?_⟩
    intro earlier member
    cases member

theorem first_tagged_cons_of_untagged {head : Entry} (untagged : ¬Tagged head.payload)
    (entries : List Entry) (entry : Entry) :
    FirstTagged (head :: entries) entry ↔ FirstTagged entries entry := by
  constructor
  · rintro ⟨tagged, before, later, split, clean⟩
    cases before with
    | nil =>
        rw [List.nil_append, List.cons.injEq] at split
        exact absurd (split.1 ▸ tagged) untagged
    | cons first before =>
        rw [List.cons_append, List.cons.injEq] at split
        exact ⟨tagged, before, later, split.2, fun earlier member =>
          clean earlier (List.mem_cons_of_mem _ member)⟩
  · rintro ⟨tagged, before, later, rfl, clean⟩
    refine ⟨tagged, head :: before, later, rfl, ?_⟩
    intro earlier member
    rcases List.mem_cons.mp member with rfl | member
    · exact untagged
    · exact clean earlier member

theorem exists_first_tagged_iff (entries : List Entry) :
    (∃ entry, FirstTagged entries entry) ↔ ∃ entry ∈ entries, Tagged entry.payload := by
  induction entries with
  | nil => simp [FirstTagged]
  | cons head entries ih =>
      by_cases tagged : Tagged head.payload
      · simp only [first_tagged_cons_of_tagged tagged, exists_eq, true_iff]
        exact ⟨head, List.mem_cons_self, tagged⟩
      · simp only [first_tagged_cons_of_untagged tagged, ih, List.mem_cons, or_and_right,
          exists_or, exists_eq_left, tagged, false_or]

theorem check_payload_eq_error_iff (payload : String) (abort : SelfReference) :
    checkPayload payload = .error abort ↔ Tagged payload ∧ abort.payload = payload := by
  rw [← is_tagged_iff, checkPayload]
  cases abort
  cases isTagged payload <;> simp [eq_comm]

theorem check_entries_eq_error_iff (entries : List Entry) (abort : SelfReference) :
    checkEntries entries = .error abort ↔
      ∃ entry, FirstTagged entries entry ∧ abort.payload = entry.payload := by
  induction entries with
  | nil => simp [checkEntries, FirstTagged]
  | cons head entries ih =>
      rw [checkEntries, Entry.isTagged]
      by_cases tagged : Tagged head.payload
      · simp only [first_tagged_cons_of_tagged tagged, exists_eq_left,
          (is_tagged_iff _).mpr tagged, if_true]
        cases abort
        simp [eq_comm]
      · simp only [first_tagged_cons_of_untagged tagged, (is_tagged_eq_false_iff _).mpr tagged,
          Bool.false_eq_true, if_false, ih]

end CallMonitor.Log
