import Telga.Application.Fees

namespace Telga.Proofs
open Domain Application

/-- The year of its era a day falls in, years counted from March. -/
def yearOfEra (dayOfEra : Int) : Int :=
  (dayOfEra - dayOfEra / 1460 + dayOfEra / 36524 - dayOfEra / 146096) / 365

def dayOfYear (dayOfEra : Int) : Int :=
  dayOfEra - (365 * yearOfEra dayOfEra + yearOfEra dayOfEra / 4 - yearOfEra dayOfEra / 100)

/-- How many months of its era have begun by a day. -/
def marchIndex (dayOfEra : Int) : Int :=
  12 * yearOfEra dayOfEra + (5 * dayOfYear dayOfEra + 2) / 153

/-- Months in their order. -/
def monthIndex (period : Period) : Int :=
  12 * period.year + period.month

theorem yearOfEra_range (first : 0 ≤ day) (last : day ≤ 146096) :
    0 ≤ yearOfEra day ∧ yearOfEra day ≤ 399 := by
  unfold yearOfEra
  omega

/-- No year of an era begins before the year of the day before. -/
theorem yearOfEra_step (day : Int) (first : 0 ≤ day) (last : day + 1 ≤ 146096) :
    yearOfEra day ≤ yearOfEra (day + 1) := by
  have days : day - day / 1460 + day / 36524 - day / 146096 ≤
      day + 1 - (day + 1) / 1460 + (day + 1) / 36524 - (day + 1) / 146096 := by
    have leaps : (day + 1) / 1460 ≤ day / 1460 + 1 := by omega
    have centuries : day / 36524 ≤ (day + 1) / 36524 := by omega
    have before : day / 146096 = 0 := by omega
    by_cases final : day + 1 = 146096
    · obtain rfl : day = 146095 := by omega
      decide
    · have after : (day + 1) / 146096 = 0 := by omega
      omega
  exact Int.ediv_le_ediv (by decide) days

theorem yearOfEra_mono (first : 0 ≤ day) (le : day ≤ later) (last : later ≤ 146096) :
    yearOfEra day ≤ yearOfEra later := by
  obtain ⟨count, rfl⟩ := Int.le.dest le
  induction count with
  | zero => simp
  | succ count ih =>
    rw [Int.natCast_succ, ← Int.add_assoc] at last ⊢
    have next := yearOfEra_step (day + count) (by omega) last
    exact Int.le_trans (ih (by omega) (by omega)) next

/-- A day of an era is one of the at most 366 days of its year. -/
theorem dayOfYear_range (first : 0 ≤ day) (last : day ≤ 146096) :
    0 ≤ dayOfYear day ∧ dayOfYear day ≤ 365 := by
  obtain ⟨low, high⟩ := yearOfEra_range first last
  unfold dayOfYear
  generalize year : yearOfEra day = y at low high ⊢
  unfold yearOfEra at year
  -- the centuries of the day and of its year are few, and with them fixed the rest is linear
  have centuries : day / 36524 = 0 ∨ day / 36524 = 1 ∨ day / 36524 = 2 ∨ day / 36524 = 3 ∨
      day / 36524 = 4 := by omega
  have leap : day / 146096 = 0 ∨ day / 146096 = 1 := by omega
  have hundreds : y / 100 = 0 ∨ y / 100 = 1 ∨ y / 100 = 2 ∨ y / 100 = 3 := by omega
  rcases centuries with h | h | h | h | h <;> rcases leap with l | l <;>
    rcases hundreds with c | c | c | c <;> rw [h, l] at year <;> rw [c] <;> omega

theorem marchIndex_range (first : 0 ≤ day) (last : day ≤ 146096) :
    0 ≤ marchIndex day ∧ marchIndex day ≤ 4799 := by
  obtain ⟨low, high⟩ := yearOfEra_range first last
  obtain ⟨start, stop⟩ := dayOfYear_range first last
  unfold marchIndex
  omega

/-- Later days of an era are in later months, or in the same. -/
theorem marchIndex_mono (first : 0 ≤ day) (le : day ≤ later) (last : later ≤ 146096) :
    marchIndex day ≤ marchIndex later := by
  have years := yearOfEra_mono first le last
  obtain ⟨start, stop⟩ := dayOfYear_range first (Int.le_trans le last)
  obtain ⟨start', stop'⟩ := dayOfYear_range (Int.le_trans first le) last
  unfold marchIndex
  rcases Int.lt_or_eq_of_le years with before | same
  · omega
  · have days : dayOfYear day ≤ dayOfYear later := by
      unfold dayOfYear
      rw [same]
      omega
    omega

/-- The days up to an instant, counted from the beginning of an era. -/
def daysOf (now : Timestamp) : Int :=
  now / msPerDay + 719468

/-- The day of its era an instant falls in. -/
def dayOfEra (now : Timestamp) : Int :=
  daysOf now % 146097

def eraOf (now : Timestamp) : Int :=
  daysOf now / 146097

theorem dayOfEra_range (now : Timestamp) : 0 ≤ dayOfEra now ∧ dayOfEra now ≤ 146096 := by
  unfold dayOfEra
  omega

theorem daysOf_era (now : Timestamp) : daysOf now = 146097 * eraOf now + dayOfEra now := by
  unfold eraOf dayOfEra
  omega

theorem daysOf_mono {now later : Timestamp} (le : now ≤ later) : daysOf now ≤ daysOf later :=
  Int.add_le_add_right (Int.ediv_le_ediv (by decide) le) _

/-- The month an instant is in, counted. -/
theorem periodOf_index {now : Timestamp} (since : 0 ≤ now) :
    monthIndex (periodOf now) = 4800 * eraOf now + marchIndex (dayOfEra now) + 3 ∧
      1 ≤ (periodOf now).month ∧ (periodOf now).month ≤ 12 ∧ 1 ≤ (periodOf now).year := by
  obtain ⟨first, last⟩ := dayOfEra_range now
  obtain ⟨low, high⟩ := yearOfEra_range first last
  obtain ⟨start, stop⟩ := dayOfYear_range first last
  have days : 719468 ≤ daysOf now := by
    have some : (0 : Int) ≤ now / msPerDay := Int.ediv_nonneg since (by decide)
    unfold daysOf
    omega
  have split := daysOf_era now
  have day : daysOf now - eraOf now * 146097 = dayOfEra now := by omega
  have year : (periodOf now).year = (yearOfEra (dayOfEra now) + eraOf now * 400 +
      if (if (5 * dayOfYear (dayOfEra now) + 2) / 153 < 10 then
          (5 * dayOfYear (dayOfEra now) + 2) / 153 + 3
        else (5 * dayOfYear (dayOfEra now) + 2) / 153 - 9) ≤ 2 then 1 else 0).toNat := by
    rw [← day]
    rfl
  have month : (periodOf now).month = (if (5 * dayOfYear (dayOfEra now) + 2) / 153 < 10 then
      (5 * dayOfYear (dayOfEra now) + 2) / 153 + 3
    else (5 * dayOfYear (dayOfEra now) + 2) / 153 - 9).toNat := by
    rw [← day]
    rfl
  unfold monthIndex marchIndex
  rw [year, month]
  split
  · rw [if_neg (by omega)]
    omega
  · rw [if_pos (by omega)]
    omega

/-- An instant that is no earlier is in a month that is no earlier. -/
theorem periodOf_mono {now later : Timestamp} (since : 0 ≤ now) (le : now ≤ later) :
    monthIndex (periodOf now) ≤ monthIndex (periodOf later) := by
  rw [(periodOf_index since).1, (periodOf_index (Int.le_trans since le)).1]
  obtain ⟨first, last⟩ := dayOfEra_range now
  obtain ⟨first', last'⟩ := dayOfEra_range later
  have days := daysOf_mono le
  have here := daysOf_era now
  have there := daysOf_era later
  have eras : eraOf now ≤ eraOf later := by omega
  rcases Int.lt_or_eq_of_le eras with before | same
  · have low := marchIndex_range first last
    have high := marchIndex_range first' last'
    omega
  · have days : dayOfEra now ≤ dayOfEra later := by omega
    have months := marchIndex_mono first days last'
    omega

/-- The month before is the month before. -/
theorem previousPeriod_index {now : Timestamp} (since : 0 ≤ now) :
    monthIndex (previousPeriod now) + 1 = monthIndex (periodOf now) ∧
      1 ≤ (previousPeriod now).month ∧ (previousPeriod now).month ≤ 12 := by
  obtain ⟨_, low, high, year⟩ := periodOf_index since
  unfold previousPeriod monthIndex
  simp only
  split
  · simp only
    omega
  · simp only
    omega

theorem previousPeriod_mono {now later : Timestamp} (since : 0 ≤ now) (le : now ≤ later) :
    monthIndex (previousPeriod now) ≤ monthIndex (previousPeriod later) := by
  have months := periodOf_mono since le
  have here := (previousPeriod_index since).1
  have there := (previousPeriod_index (Int.le_trans since le)).1
  omega

/-- A month of the year. -/
def IsMonth (period : Period) : Prop :=
  1 ≤ period.month ∧ period.month ≤ 12

theorem earlier_iff (a b : Period) (first : IsMonth a) (second : IsMonth b) :
    earlier a b = true ↔ monthIndex a < monthIndex b := by
  obtain ⟨low, high⟩ := first
  obtain ⟨low', high'⟩ := second
  unfold earlier monthIndex
  simp only [Bool.or_eq_true, Bool.and_eq_true, beq_iff_eq, decide_eq_true_eq]
  omega

/-- Of two months one is earlier. -/
theorem earlier_total {a b : Period} (least : earlier b a = false) (differs : a ≠ b) :
    earlier a b = true := by
  obtain ⟨year, month⟩ := a
  obtain ⟨year', month'⟩ := b
  simp only [ne_eq, Period.mk.injEq, earlier, Bool.or_eq_false_iff, Bool.and_eq_false_iff,
    beq_eq_false_iff_ne, decide_eq_false_iff_not, Bool.or_eq_true, Bool.and_eq_true, beq_iff_eq,
    decide_eq_true_eq] at least differs ⊢
  omega

theorem earlier_asymm {a b : Period} (before : earlier a b = true) (after : earlier b a = true) :
    False := by
  simp only [earlier, Bool.or_eq_true, Bool.and_eq_true, beq_iff_eq, decide_eq_true_eq]
    at before after
  omega

theorem earlier_antisymm {a b : Period} (least : earlier b a = false) (most : earlier a b = false) :
    a = b := by
  by_contra differs
  rw [earlier_total least differs] at most
  cases most

end Telga.Proofs
