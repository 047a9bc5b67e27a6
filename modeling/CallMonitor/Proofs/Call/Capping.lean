import CallMonitor.Call.Value
import Mathlib.Data.List.Basic

/-!
Values that are cut to a fixed number of characters. The limit and what is kept of a longer value
count characters, the room for the cut mark counts bytes. The two fit because the mark has as many
bytes as characters, so a cut value is exactly as long as the longest value that is kept whole.
-/

namespace CallMonitor.Call

variable {value other : String}

theorem cap_of_short (short : value.length ≤ 1024) : capLength value = value := by
  rw [← String.length_toList] at short
  exact if_pos short

theorem cap_of_long (long : 1024 < value.length) :
    (capLength value).toList = value.toList.take 1000 ++ cutMark.toList := by
  rw [← String.length_toList] at long
  have cut : ¬value.toList.length ≤ valueLimit := Nat.not_le.mpr long
  have room : valueLimit - cutMark.utf8ByteSize = 1000 := by rw [cut_mark_size, valueLimit]
  simp only [capLength, cut, if_false, room, String.toList_ofList]

theorem length_cap (value : String) : (capLength value).length = min value.length 1024 := by
  rcases Nat.lt_or_ge 1024 value.length with long | short
  · have kept : (value.toList.take 1000).length = 1000 := by
      rw [List.length_take, String.length_toList]
      omega
    rw [← String.length_toList, cap_of_long long, List.length_append, kept, cut_mark_length]
    omega
  · rw [cap_of_short short]
    omega

theorem cap_eq_self_iff : capLength value = value ↔ value.length ≤ 1024 := by
  refine ⟨fun same => ?_, cap_of_short⟩
  have length := length_cap value
  rw [same] at length
  omega

theorem starts_cap (value : String) :
    value.toList.take (min value.length 1000) <+: (capLength value).toList := by
  rcases Nat.lt_or_ge 1024 value.length with long | short
  · have kept : min value.length 1000 = 1000 := by omega
    rw [kept, cap_of_long long]
    exact List.prefix_append _ _
  · rw [cap_of_short short]
    exact List.take_prefix _ _

theorem cap_eq_cap_iff (long : 1024 < value.length) (also : 1024 < other.length) :
    capLength value = capLength other ↔ value.toList.take 1000 = other.toList.take 1000 := by
  rw [← String.toList_inj, cap_of_long long, cap_of_long also, List.append_left_inj]

/-- A value is left as it is exactly if it has at most 1024 characters. What comes of any value has
as many characters as it or 1024, starts as it does for up to 1000 characters, and is left as it is
from then on. Of two values that are both longer the same comes exactly if their first 1000
characters agree. The mark's bytes leave room for these 1000 characters, and with the mark's own
characters they come to the limit. -/
theorem long_values_cut (value : String) :
    (capLength value = value ↔ value.length ≤ 1024) ∧
    (capLength value).length = min value.length 1024 ∧
    value.toList.take (min value.length 1000) <+: (capLength value).toList ∧
    capLength (capLength value) = capLength value ∧
    (∀ other : String, 1024 < value.length → 1024 < other.length →
      (capLength value = capLength other ↔
        value.toList.take 1000 = other.toList.take 1000)) ∧
    cutMark.utf8ByteSize ≤ valueLimit ∧
      valueLimit - cutMark.utf8ByteSize + cutMark.length = 1024 := by
  refine ⟨cap_eq_self_iff, length_cap value, starts_cap value, ?_, ?_, by decide, by decide⟩
  · apply cap_of_short
    rw [length_cap]
    exact Nat.min_le_right _ _
  · intro other long also
    exact cap_eq_cap_iff long also

/-- A value whose first `kept` characters have two bytes each, with one character more behind them
than the mark has. -/
def overlong (kept : Nat) (last : Char) : String :=
  String.ofList (List.replicate kept 'é' ++ List.replicate 25 last)

theorem length_overlong (kept : Nat) (last : Char) : (overlong kept last).length = kept + 25 := by
  simp only [overlong, String.length_ofList, List.length_append, List.length_replicate]

theorem take_overlong (kept : Nat) (last : Char) :
    (overlong kept last).toList.take kept = List.replicate kept 'é' := by
  rw [overlong, String.toList_ofList, List.take_left' List.length_replicate]

theorem overlong_cut_alike :
    1024 < (overlong 1000 'a').length ∧ 1024 < (overlong 1000 'b').length ∧
      capLength (overlong 1000 'a') = capLength (overlong 1000 'b') := by
  have long (last : Char) : 1024 < (overlong 1000 last).length := by
    rw [length_overlong]
    decide
  obtain ⟨-, -, -, -, alike, -⟩ := long_values_cut (overlong 1000 'a')
  refine ⟨long 'a', long 'b', (alike (overlong 1000 'b') (long 'a') (long 'b')).mpr ?_⟩
  rw [take_overlong, take_overlong]

end CallMonitor.Call
