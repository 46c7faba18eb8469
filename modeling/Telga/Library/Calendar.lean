namespace Telga.Library

/-- A number in decimal, with zeros before it up to a width. -/
def padded (width n : Nat) : List Char :=
  List.replicate (width - (Nat.toDigits 10 n).length) '0' ++ Nat.toDigits 10 n

theorem length_padded (width n : Nat) : width ≤ (padded width n).length := by
  unfold padded
  rw [List.length_append, List.length_replicate]
  omega

structure CivilDate where
  year : Int
  month : Int
  day : Int
deriving DecidableEq

/-- The date of a day, counted from the first of 1970, in the calendar of today. Years are counted
from March, so that the day a leap year adds is a year's last. -/
def civilDate (days : Int) : CivilDate :=
  let shifted := days + 719468
  let era := shifted / 146097
  let dayOfEra := shifted - era * 146097
  let yearOfEra := (dayOfEra - dayOfEra / 1460 + dayOfEra / 36524 - dayOfEra / 146096) / 365
  let dayOfYear := dayOfEra - (365 * yearOfEra + yearOfEra / 4 - yearOfEra / 100)
  let marchMonth := (5 * dayOfYear + 2) / 153
  let month := if marchMonth < 10 then marchMonth + 3 else marchMonth - 9
  { year := yearOfEra + era * 400 + (if month ≤ 2 then 1 else 0)
    month
    day := dayOfYear - (153 * marchMonth + 2) / 5 + 1 }

/-- The day of a date. -/
def civilDays (date : CivilDate) : Int :=
  let year := if date.month ≤ 2 then date.year - 1 else date.year
  let era := year / 400
  let yearOfEra := year - era * 400
  let marchMonth := if 2 < date.month then date.month - 3 else date.month + 9
  let dayOfYear := (153 * marchMonth + 2) / 5 + date.day - 1
  let dayOfEra := yearOfEra * 365 + yearOfEra / 4 - yearOfEra / 100 + dayOfYear
  era * 146097 + dayOfEra - 719468

/-- A year in four digits, or with its sign in six. -/
def yearText (year : Int) : List Char :=
  if 0 ≤ year ∧ year ≤ 9999 then padded 4 year.toNat
  else (if year < 0 then '-' else '+') :: padded 6 year.natAbs

def dateText (days : Int) : List Char :=
  let date := civilDate days
  yearText date.year ++ '-' :: padded 2 date.month.toNat ++ '-' :: padded 2 date.day.toNat

/-- A moment, in milliseconds from the start of 1970, as `toISOString` writes it. -/
def isoText (moment : Int) : List Char :=
  let time := (moment % 86400000).toNat
  dateText (moment / 86400000) ++ 'T' :: padded 2 (time / 3600000) ++ ':' ::
    padded 2 (time / 60000 % 60) ++ ':' :: padded 2 (time / 1000 % 60) ++ '.' ::
    padded 3 (time % 1000) ++ ['Z']

example : isoText 1788220799123 = "2026-08-31T23:59:59.123Z".toList := by
  decide +kernel

theorem length_yearText (year : Int) : 4 ≤ (yearText year).length := by
  unfold yearText
  split
  · exact length_padded 4 _
  · have long := length_padded 6 year.natAbs
    rw [List.length_cons]
    omega

/-- A moment's text goes on after its date. -/
theorem length_isoText (moment : Int) : 10 ≤ (isoText moment).length := by
  unfold isoText dateText
  have year := length_yearText (civilDate (moment / 86400000)).year
  have month := length_padded 2 (civilDate (moment / 86400000)).month.toNat
  have day := length_padded 2 (civilDate (moment / 86400000)).day.toNat
  simp only [List.length_append, List.length_cons]
  omega

end Telga.Library
