import CallMonitor.Calendar
import Mathlib.Algebra.GroupWithZero.Nat
import Mathlib.Algebra.Order.BigOperators.Group.List
import Mathlib.Data.List.Lex

/-!
Days and dates. Every day has a date that the calendar knows, the date's number of days is the day,
and later days have later dates: first by the year, then by the month, then by the day.
-/

namespace CallMonitor.Date

def yearLength (year : Int) : Nat := if isLeap year then 366 else 365

theorem sum_month_lengths (year : Int) :
    (monthLengths (isLeap year)).sum = yearLength year := by
  unfold yearLength
  cases isLeap year <;> rfl

theorem days_before_year_succ (year : Int) :
    daysBeforeYear (year + 1) = daysBeforeYear year + yearLength year := by
  unfold daysBeforeYear yearLength
  cases leap : isLeap year <;> simp [isLeap] at leap ⊢ <;> omega

theorem days_before_year_mono {first second : Int} (later : first ≤ second) :
    daysBeforeYear first ≤ daysBeforeYear second := by
  simp only [daysBeforeYear]
  omega

/-- The calendar has a date: its month is one of the year's, and its day one of the month's. -/
def Exists (date : Date) : Prop :=
  ∃ before length after, monthLengths (isLeap date.year) = before ++ length :: after ∧
    date.month = before.length + 1 ∧ 1 ≤ date.day ∧ date.day ≤ length

theorem days_into_of_split {date : Date} {before : List Nat} {length : Nat} {after : List Nat}
    (split : monthLengths (isLeap date.year) = before ++ length :: after)
    (month : date.month = before.length + 1) :
    date.daysInto = before.sum + (date.day - 1) := by
  have added : ∀ (lengths : List Nat) (start : Nat),
      lengths.foldl (· + ·) start = lengths.sum + start := by
    intro lengths
    induction lengths with
    | nil => simp
    | cons first rest ih =>
        intro start
        rw [List.foldl_cons, ih, List.sum_cons]
        omega
  rw [daysInto, split, month, Nat.add_sub_cancel, List.take_left' rfl, added]

theorem days_into_lt {date : Date} (real : date.Exists) :
    date.daysInto < yearLength date.year := by
  obtain ⟨before, length, after, split, month, first, last⟩ := real
  rw [days_into_of_split split month, ← sum_month_lengths, split, List.sum_append, List.sum_cons]
  omega

theorem days_into_lt_of_month {first second : Date} (firstReal : first.Exists)
    (secondReal : second.Exists) (year : first.year = second.year)
    (earlier : first.month < second.month) : first.daysInto < second.daysInto := by
  obtain ⟨before, length, after, split, month, low, high⟩ := firstReal
  obtain ⟨before', length', after', split', month', -⟩ := secondReal
  rw [days_into_of_split split month, days_into_of_split split' month']
  have whole : before ++ [length] <+: before' := by
    have starts : before ++ [length] <+: monthLengths (isLeap first.year) :=
      ⟨after, by rw [split]; simp⟩
    have startsToo : before' <+: monthLengths (isLeap first.year) :=
      ⟨length' :: after', by rw [year, split']⟩
    apply List.prefix_of_prefix_length_le starts startsToo
    rw [List.length_append, List.length_singleton]
    omega
  obtain ⟨rest, rfl⟩ := whole
  simp only [List.sum_append, List.sum_singleton]
  omega

def Before (first second : Date) : Prop :=
  first.year < second.year ∨ first.year = second.year ∧
    (first.month < second.month ∨ first.month = second.month ∧ first.day < second.day)

theorem to_days_lt_of_before {first second : Date} (firstReal : first.Exists)
    (secondReal : second.Exists) (before : first.Before second) :
    first.toDays < second.toDays := by
  rcases before with year | ⟨year, month | ⟨month, day⟩⟩
  · have inside := days_into_lt firstReal
    have next := days_before_year_succ first.year
    have mono := days_before_year_mono year
    simp only [toDays]
    omega
  · have into := days_into_lt_of_month firstReal secondReal year month
    simp only [toDays, year]
    omega
  · obtain ⟨months, length, after, split, count, low, -⟩ := firstReal
    have own := days_into_of_split split count
    have other : second.daysInto = months.sum + (second.day - 1) :=
      days_into_of_split (year ▸ split) (month ▸ count)
    simp only [toDays, year, own, other]
    omega

theorem month_of_day_split (month day : Nat) (lengths : List Nat) (inside : day < lengths.sum) :
    ∃ before length after, lengths = before ++ length :: after ∧
      monthOfDay month day lengths = (month + before.length, day - before.sum) ∧
      before.sum ≤ day ∧ day < before.sum + length := by
  induction lengths generalizing month day with
  | nil => simp at inside
  | cons length rest ih =>
      by_cases here : day < length
      · refine ⟨[], length, rest, rfl, ?_, Nat.zero_le _, by simpa using here⟩
        rw [monthOfDay, if_pos here]
        rfl
      · rw [List.sum_cons] at inside
        obtain ⟨before, found, after, split, stops, low, high⟩ :=
          ih (month + 1) (day - length) (by omega)
        refine ⟨length :: before, found, after, by rw [split]; rfl, ?_, ?_, ?_⟩
        · rw [monthOfDay, if_neg here, stops, List.length_cons, List.sum_cons]
          congr 1 <;> omega
        · rw [List.sum_cons]
          omega
        · rw [List.sum_cons]
          omega

/-- Four hundred years and their parts: the years before a year make up the days before it. -/
theorem days_before_parts (era : Int) {century span single : Nat} (spans : span ≤ 24)
    (singles : single ≤ 3) (centuries : century ≤ 3) :
    daysBeforeYear (400 * era + (100 * century + 4 * span + single : Nat) + 1) =
      146097 * era + (36524 * century + 1461 * span + 365 * single : Nat) := by
  simp only [daysBeforeYear]
  omega

/-- The last year of four is longer, unless it is the last of a century that is not the last of
four. -/
theorem leap_of_parts (era : Int) {century span : Nat} (spans : span ≤ 24)
    (whole : span = 24 → century = 3) :
    isLeap (400 * era + (100 * century + 4 * span + 3 : Nat) + 1) = true := by
  simp only [isLeap, Bool.and_eq_true, Bool.or_eq_true, beq_iff_eq, bne_iff_ne]
  omega

/-- The day falls in the year of its date, and the days before that year and those before the day
in it are as many as the days before the day. -/
theorem year_of_days (days : Int) :
    ∃ (year : Int) (inYear : Nat), daysBeforeYear year + inYear = days ∧
      inYear < yearLength year ∧
      ofDays days =
        ⟨year, (monthOfDay 1 inYear (monthLengths (isLeap year))).1,
          (monthOfDay 1 inYear (monthLengths (isLeap year))).2 + 1⟩ := by
  -- The four divisions of `ofDays`, and what each of them leaves.
  obtain ⟨inEra, era⟩ : ∃ inEra : Nat, (days % 146097).toNat = inEra := ⟨_, rfl⟩
  have whole : 146097 * (days / 146097) + inEra = days ∧ inEra < 146097 := by omega
  obtain ⟨century, centuries⟩ : ∃ century, min 3 (inEra / 36524) = century := ⟨_, rfl⟩
  obtain ⟨inCentury, rest⟩ : ∃ inCentury, inEra - 36524 * century = inCentury := ⟨_, rfl⟩
  have parts : inEra = 36524 * century + inCentury ∧ century ≤ 3 ∧ inCentury ≤ 36524 ∧
      (inCentury = 36524 → century = 3) := by omega
  obtain ⟨span, spans⟩ : ∃ span, inCentury / 1461 = span := ⟨_, rfl⟩
  obtain ⟨inSpan, spanRest⟩ : ∃ inSpan, inCentury % 1461 = inSpan := ⟨_, rfl⟩
  have spanParts : inCentury = 1461 * span + inSpan ∧ span ≤ 24 ∧ inSpan ≤ 1460 := by omega
  obtain ⟨single, singles⟩ : ∃ single, min 3 (inSpan / 365) = single := ⟨_, rfl⟩
  have singleParts : single ≤ 3 ∧ 365 * single ≤ inSpan ∧ inSpan - 365 * single ≤ 365 ∧
      (inSpan - 365 * single = 365 → inSpan = 1460 ∧ single = 3) := by omega
  refine ⟨400 * (days / 146097) + (100 * century + 4 * span + single : Nat) + 1,
    inSpan - 365 * single, ?_, ?_, ?_⟩
  · rw [days_before_parts _ spanParts.2.1 singleParts.1 parts.2.1]
    omega
  · unfold yearLength
    by_cases last : inSpan - 365 * single = 365
    · obtain ⟨full, rfl⟩ := singleParts.2.2.2 last
      rw [leap_of_parts _ spanParts.2.1 (by omega), if_pos rfl]
      omega
    · split <;> omega
  · subst centuries rest spans spanRest singles era
    rfl

theorem to_days_of_days (days : Int) :
    (ofDays days).Exists ∧ (ofDays days).toDays = days := by
  obtain ⟨year, inYear, counted, inside, date⟩ := year_of_days days
  rw [← sum_month_lengths] at inside
  obtain ⟨before, length, after, split, stops, low, high⟩ :=
    month_of_day_split 1 inYear (monthLengths (isLeap year)) inside
  rw [stops] at date
  have month : (ofDays days).month = before.length + 1 := by
    rw [date, Nat.add_comm]
  have own : monthLengths (isLeap (ofDays days).year) = before ++ length :: after := by
    rw [date]
    exact split
  refine ⟨⟨before, length, after, own, month, ?_, ?_⟩, ?_⟩
  · rw [date]
    exact Nat.le_add_left _ _
  · rw [date]
    simp only
    omega
  · rw [toDays, days_into_of_split own month, date]
    simp only
    omega

theorem before_trichotomy (first second : Date) :
    first.Before second ∨ first = second ∨ second.Before first := by
  obtain ⟨year, month, day⟩ := first
  obtain ⟨year', month', day'⟩ := second
  simp only [Before, Date.mk.injEq]
  omega

theorem before_of_days_lt {first second : Int} (earlier : first < second) :
    (ofDays first).Before (ofDays second) := by
  obtain ⟨firstReal, firstDays⟩ := to_days_of_days first
  obtain ⟨secondReal, secondDays⟩ := to_days_of_days second
  rcases before_trichotomy (ofDays first) (ofDays second) with before | same | after
  · exact before
  · rw [same, secondDays] at firstDays
    omega
  · have less := to_days_lt_of_before secondReal firstReal after
    omega

theorem year_of_days_mono {first second : Int} (later : first ≤ second) :
    (ofDays first).year ≤ (ofDays second).year := by
  rcases Int.le_iff_lt_or_eq.mp later with less | rfl
  · rcases before_of_days_lt less with year | ⟨year, -⟩
    · exact Int.le_of_lt year
    · exact Int.le_of_eq year
  · exact Int.le_refl _

end CallMonitor.Date
