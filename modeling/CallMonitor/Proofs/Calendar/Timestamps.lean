import CallMonitor.Proofs.Calendar.Dates
import Mathlib.Data.String.Basic

/-!
Timestamps as texts. A timestamp consists of numbers in fields of fixed widths, so two of them
compare as texts like their numbers, the first that differs deciding; and those compare like the
instants.
-/

namespace CallMonitor

/-- Texts of one length decide the order of what starts with them, unless they are the same. -/
theorem append_lt_append_iff {first second rest other : List Char}
    (same : first.length = second.length) :
    first ++ rest < second ++ other ↔ first < second ∨ first = second ∧ rest < other := by
  induction first generalizing second with
  | nil =>
      obtain rfl := List.length_eq_zero_iff.mp same.symm
      simp
  | cons c first ih =>
      cases second with
      | nil => cases same
      | cons c' second =>
          rw [List.cons_append, List.cons_append, List.cons_lt_cons_iff, List.cons_lt_cons_iff,
            ih (Nat.succ.inj same), List.cons.injEq]
          tauto

section Digits

variable {width m n : Nat}

theorem digit_char_lt_iff : ∀ m < 10, ∀ n < 10, m.digitChar < n.digitChar ↔ m < n := by
  decide

theorem digit_char_inj : ∀ m < 10, ∀ n < 10, m.digitChar = n.digitChar → m = n := by
  decide

theorem padded_one (small : n < 10) : padded 1 n = [n.digitChar] := by
  rw [padded, Nat.toDigits_of_lt_base small]
  rfl

/-- The last digit of a number in a field, and the number without it in a field one shorter. -/
theorem padded_succ (some : 0 < width) :
    padded (width + 1) n = padded width (n / 10) ++ [(n % 10).digitChar] := by
  unfold padded
  by_cases single : n < 10
  · obtain ⟨width, rfl⟩ := Nat.exists_eq_succ_of_ne_zero (Nat.ne_of_gt some)
    rw [Nat.toDigits_of_lt_base single, Nat.div_eq_of_lt single, Nat.mod_eq_of_lt single]
    simp [List.replicate_succ', Nat.toDigits_of_lt_base]
  · rw [Nat.toDigits_eq_if (by decide), if_neg single]
    simp

theorem length_padded (some : 0 < width) (small : n < 10 ^ width) :
    (padded width n).length = width := by
  have short := (Nat.length_toDigits_le_iff (b := 10) (by decide) some).mpr small
  rw [padded, List.length_append, List.length_replicate]
  omega

theorem padded_inj (some : 0 < width) (small : m < 10 ^ width) (small' : n < 10 ^ width) :
    padded width m = padded width n ↔ m = n := by
  refine ⟨fun same => ?_, congrArg _⟩
  induction width generalizing m n with
  | zero => contradiction
  | succ width ih =>
      cases Nat.eq_zero_or_pos width with
      | inl last =>
          subst last
          rw [padded_one small, padded_one small', List.singleton_inj] at same
          exact digit_char_inj m small n small' same
      | inr more =>
          rw [padded_succ more, padded_succ more] at same
          obtain ⟨front, digit⟩ := List.append_inj' same rfl
          have front := ih more (by omega) (by omega) front
          have digit := digit_char_inj _ (Nat.mod_lt m (by decide)) _ (Nat.mod_lt n (by decide))
            (List.singleton_inj.mp digit)
          omega

theorem padded_lt_iff (some : 0 < width) (small : m < 10 ^ width) (small' : n < 10 ^ width) :
    padded width m < padded width n ↔ m < n := by
  induction width generalizing m n with
  | zero => contradiction
  | succ width ih =>
      cases Nat.eq_zero_or_pos width with
      | inl last =>
          subst last
          rw [padded_one small, padded_one small', List.cons_lt_cons_iff]
          simp [digit_char_lt_iff m small n small']
      | inr more =>
          have front : m / 10 < 10 ^ width := by omega
          have front' : n / 10 < 10 ^ width := by omega
          have length : (padded width (m / 10)).length = (padded width (n / 10)).length := by
            rw [length_padded more front, length_padded more front']
          have digit := digit_char_lt_iff _ (Nat.mod_lt m (by decide)) _ (Nat.mod_lt n (by decide))
          rw [padded_succ more, padded_succ more, append_lt_append_iff length,
            ih more front front', padded_inj more front front', List.cons_lt_cons_iff, digit]
          simp only [List.lt_irrefl, and_false, or_false]
          omega

end Digits

/-- Numbers in fields: each field has a width and marks that stand after it. -/
def writeFields : List (Nat × List Char) → List Nat → List Char
  | (width, marks) :: layout, n :: numbers =>
      padded width n ++ (marks ++ writeFields layout numbers)
  | _, _ => []

/-- Every number has a field that it fits into. -/
def FitFields : List (Nat × List Char) → List Nat → Prop :=
  List.Forall₂ fun field n => 0 < field.1 ∧ n < 10 ^ field.1

section Fields

variable {layout : List (Nat × List Char)} {first second : List Nat}

theorem length_write_fields (fit : FitFields layout first) :
    (writeFields layout first).length = (layout.map fun field => field.1 + field.2.length).sum := by
  induction fit with
  | nil => rfl
  | @cons field n layout numbers fits later ih =>
      rw [writeFields, List.length_append, List.length_append, ih,
        length_padded fits.1 fits.2, List.map_cons, List.sum_cons, Nat.add_assoc]

/-- Texts of one layout compare like the lists of their numbers. -/
theorem write_fields_lt_iff (fit : FitFields layout first) (fit' : FitFields layout second) :
    writeFields layout first < writeFields layout second ↔ first < second := by
  induction fit generalizing second with
  | nil =>
      cases fit'
      simp [writeFields]
  | @cons field n layout numbers fits later ih =>
      cases fit' with
      | @cons _ n' _ numbers' fits' later' =>
          have length : (padded field.1 n).length = (padded field.1 n').length := by
            rw [length_padded fits.1 fits.2, length_padded fits'.1 fits'.2]
          rw [writeFields, writeFields, append_lt_append_iff length,
            append_lt_append_iff rfl, padded_lt_iff fits.1 fits.2 fits'.2,
            padded_inj fits.1 fits.2 fits'.2, ih later', List.cons_lt_cons_iff]
          simp

end Fields

namespace Instant

def layout : List (Nat × List Char) :=
  [(4, ['-']), (2, ['-']), (2, [' ']), (2, [':']), (2, [':']), (2, ['.']), (3, [])]

/-- The numbers in a timestamp: year, month, day, hour, minute, second and millisecond. -/
def fields (instant : Instant) : List Nat :=
  [instant.date.year.toNat, instant.date.month, instant.date.day,
    instant.dayMillis / 3600000, instant.dayMillis / 60000 % 60,
    instant.dayMillis / 1000 % 60, instant.dayMillis % 1000]

def HasPlainYear (instant : Instant) : Prop :=
  0 ≤ instant.date.year ∧ instant.date.year ≤ 9999

variable {first second : Instant}

theorem write_eq_fields {instant : Instant} (plain : instant.HasPlainYear) :
    instant.write.toList = writeFields layout instant.fields := by
  have year : writeYear instant.date.year = padded 4 instant.date.year.toNat := if_pos plain
  simp only [write, year, String.toList_ofList, writeFields, layout, fields, List.append_assoc,
    List.append_nil]

theorem day_millis_lt (instant : Instant) : instant.dayMillis < 86400000 := by
  unfold dayMillis millisPerDay
  omega

theorem fit_fields {instant : Instant} (plain : instant.HasPlainYear) :
    FitFields layout instant.fields := by
  obtain ⟨real, -⟩ := Date.to_days_of_days (instant.millis / millisPerDay + epochDays)
  obtain ⟨before, length, after, split, month, -, day⟩ := real
  have months : before.length + (after.length + 1) = 12 := by
    have counted := congrArg List.length split
    rw [List.length_append, List.length_cons] at counted
    exact counted.symm
  have short : length ≤ 31 := by
    have member : length ∈ Date.monthLengths (Date.isLeap instant.date.year) := by
      rw [date, split]
      exact List.mem_append_right _ List.mem_cons_self
    have all : ∀ leap, ∀ length ∈ Date.monthLengths leap, length ≤ 31 := by decide
    exact all _ length member
  have time := instant.day_millis_lt
  obtain ⟨positive, small⟩ := plain
  change instant.date.month = _ at month
  change instant.date.day ≤ _ at day
  simp only [FitFields, layout, fields, List.forall₂_cons, List.Forall₂.nil, and_true]
  omega

theorem fields_eq_of_millis (same : first.millis = second.millis) :
    first.fields = second.fields := by
  simp only [fields, date, dayMillis, same]

/-- An earlier instant has smaller numbers, the first that differs deciding. -/
theorem fields_lt_of_millis (plain : first.HasPlainYear)
    (earlier : first.millis < second.millis) : first.fields < second.fields := by
  have days : first.millis / millisPerDay ≤ second.millis / millisPerDay := by
    unfold millisPerDay
    omega
  simp only [fields, List.cons_lt_cons_iff]
  rcases Int.lt_or_eq_of_le days with less | same
  · have before : first.date.Before second.date := by
      apply Date.before_of_days_lt
      omega
    have positive := plain.1
    unfold Date.Before at before
    omega
  · have date : first.date = second.date := by
      unfold Instant.date
      rw [same]
    have time : first.dayMillis < second.dayMillis := by
      unfold dayMillis millisPerDay at *
      omega
    simp only [date, lt_irrefl, false_or, true_and]
    omega

theorem write_lt_iff (plain : first.HasPlainYear) (plain' : second.HasPlainYear) :
    first.write < second.write ↔ first.millis < second.millis := by
  rw [String.lt_iff_toList_lt, write_eq_fields plain, write_eq_fields plain',
    write_fields_lt_iff (fit_fields plain) (fit_fields plain')]
  refine ⟨fun less => ?_, fields_lt_of_millis plain⟩
  rcases Int.lt_trichotomy first.millis second.millis with earlier | same | later
  · exact earlier
  · rw [fields_eq_of_millis same] at less
    exact absurd less (List.lt_irrefl _)
  · exact absurd less (List.lt_asymm (fields_lt_of_millis plain' later))

theorem write_eq_iff (plain : first.HasPlainYear) (plain' : second.HasPlainYear) :
    first.write = second.write ↔ first.millis = second.millis := by
  constructor
  · intro same
    have notEarlier : ¬first.millis < second.millis := by
      rw [← write_lt_iff plain plain', same]
      exact String.lt_irrefl _
    have notLater : ¬second.millis < first.millis := by
      rw [← write_lt_iff plain' plain, same]
      exact String.lt_irrefl _
    omega
  · intro same
    rw [← String.toList_inj, write_eq_fields plain, write_eq_fields plain',
      fields_eq_of_millis same]

theorem length_write {instant : Instant} (plain : instant.HasPlainYear) :
    instant.write.length = 23 := by
  rw [← String.length_toList, write_eq_fields plain, length_write_fields (fit_fields plain)]
  rfl

theorem HasPlainYear.between {instant : Instant} (start : first.HasPlainYear)
    (end' : second.HasPlainYear) (low : first.nanos ≤ instant.nanos)
    (high : instant.nanos ≤ second.nanos) : instant.HasPlainYear := by
  have mono : ∀ early late : Instant, early.nanos ≤ late.nanos →
      early.date.year ≤ late.date.year := by
    intro early late later
    apply Date.year_of_days_mono
    unfold millis millisPerDay
    omega
  exact ⟨Int.le_trans start.1 (mono _ _ low), Int.le_trans (mono _ _ high) end'.2⟩

theorem write_le_of_nanos (plain : first.HasPlainYear) (plain' : second.HasPlainYear)
    (later : first.nanos ≤ second.nanos) : first.write ≤ second.write := by
  rw [← not_lt, write_lt_iff plain' plain]
  unfold millis
  omega

end Instant

end CallMonitor
