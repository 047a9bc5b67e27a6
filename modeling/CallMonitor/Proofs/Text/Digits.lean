import Mathlib.Data.List.TakeWhile
import CallMonitor.Toml.Scan
import CallMonitor.Net.Address

/-!
Written numbers. The digits of a number in a base up to sixteen are read back by adding up, whoever
reads them, and they start with a zero only if the number is zero.
-/

namespace CallMonitor.Text

section Runs

variable {α : Type} {p : α → Bool} {run rest : List α}

/-- What follows a run of characters does not go on with it. -/
def Stops (p : α → Bool) (rest : List α) : Prop := ∀ c, rest.head? = some c → p c = false

theorem take_while_run (all : ∀ c ∈ run, p c = true) (stops : Stops p rest) :
    (run ++ rest).takeWhile p = run := by
  rw [List.takeWhile_append_of_pos all]
  cases rest with
  | nil => simp
  | cons c rest => simp [stops c rfl]

theorem drop_while_run (all : ∀ c ∈ run, p c = true) (stops : Stops p rest) :
    (run ++ rest).dropWhile p = rest := by
  rw [List.dropWhile_append_of_pos all]
  cases rest with
  | nil => rfl
  | cons c rest => simp [stops c rfl]

end Runs

section Digits

variable {base : Nat}

theorem to_digits_step (two : 1 < base) {n : Nat} (large : base ≤ n) :
    Nat.toDigits base n = Nat.toDigits base (n / base) ++ [Nat.digitChar (n % base)] := by
  have positive : 0 < n / base := Nat.div_pos large (by omega)
  have last : n % base < base := Nat.mod_lt _ (by omega)
  have joined := Nat.toDigits_append_toDigits two positive last
  rw [Nat.div_add_mod, Nat.toDigits_of_lt_base last] at joined
  exact joined.symm

theorem digit_of_mem (two : 1 < base) {n : Nat} {c : Char} (member : c ∈ Nat.toDigits base n) :
    ∃ digit < base, c = Nat.digitChar digit := by
  induction n using Nat.strong_induction_on with
  | _ n ih =>
      by_cases small : n < base
      · rw [Nat.toDigits_of_lt_base small, List.mem_singleton] at member
        exact ⟨n, small, member⟩
      · have large : base ≤ n := Nat.le_of_not_lt small
        rw [to_digits_step two large, List.mem_append, List.mem_singleton] at member
        rcases member with earlier | last
        · exact ih (n / base) (Nat.div_lt_self (by omega) two) earlier
        · exact ⟨n % base, Nat.mod_lt _ (by omega), last⟩

/-- Digits add up to their number, if each of them is known. -/
theorem fold_to_digits (two : 1 < base) {value : Char → Option Nat}
    (known : ∀ digit < base, value (Nat.digitChar digit) = some digit) (n : Nat) :
    (Nat.toDigits base n).foldl (fun sum c => sum * base + (value c).getD 0) 0 = n := by
  induction n using Nat.strong_induction_on with
  | _ n ih =>
      by_cases small : n < base
      · rw [Nat.toDigits_of_lt_base small]
        simp [known n small]
      · have large : base ≤ n := Nat.le_of_not_lt small
        have last : n % base < base := Nat.mod_lt _ (by omega)
        rw [to_digits_step two large, List.foldl_append,
          ih (n / base) (Nat.div_lt_self (by omega) two)]
        simp only [List.foldl_cons, List.foldl_nil, known _ last, Option.getD_some]
        exact Nat.div_add_mod' n base

theorem head_ne_zero (two : 1 < base) (below : base ≤ 16) {n : Nat} (positive : 0 < n) :
    (Nat.toDigits base n).head? ≠ some '0' := by
  induction n using Nat.strong_induction_on with
  | _ n ih =>
      by_cases small : n < base
      · rw [Nat.toDigits_of_lt_base small]
        have visible : ∀ digit < 16, 0 < digit → Nat.digitChar digit ≠ '0' := by decide
        simpa using visible n (by omega) positive
      · have large : base ≤ n := Nat.le_of_not_lt small
        have smaller := ih (n / base) (Nat.div_lt_self (by omega) two)
          (Nat.div_pos large (by omega))
        rw [to_digits_step two large]
        cases written : Nat.toDigits base (n / base) with
        | nil => exact absurd written Nat.toDigits_ne_nil
        | cons first others => simpa [written] using smaller

end Digits

theorem known_hex_digit : ∀ digit < 16, Toml.hexValue (Nat.digitChar digit) = some digit := by
  decide

theorem known_address_digit : ∀ digit < 16, Net.digitValue (Nat.digitChar digit) = some digit := by
  decide

end CallMonitor.Text
