import PatchTrial.Time

/-!
Days and seconds since the start of 1970, days of years and weeks.
-/
namespace PatchTrial

namespace Timestamp

/-- How many days the months before a month have. -/
def daysBeforeMonth (y : Int) (m : Nat) : Nat :=
  (List.range (m - 1)).foldl (fun n i => n + daysInMonth y (i + 1)) 0

/-- The day of the year, from one. -/
def dayOfYear (t : Timestamp) : Nat := daysBeforeMonth t.year t.month + t.day

/-- How many days lie between the start of the first year and the start of another. -/
def daysBeforeYear (y : Int) : Int :=
  let n := y - 1
  n * 365 + n / 4 - n / 100 + n / 400

/-- The number of days since the start of 1970. -/
def dayNumber (t : Timestamp) : Int :=
  daysBeforeYear t.year - daysBeforeYear 1970 + t.dayOfYear - 1

/-- The seconds since the start of 1970. -/
def toSeconds (t : Timestamp) : Int :=
  t.dayNumber * 86400 + t.hour * 3600 + t.minute * 60 + t.second

/-- The month in which a day of a year lies, from zero, and the day of the month, from zero. -/
def monthOfDay (y : Int) : Nat → Nat → Nat → Nat × Nat
  | 0, m, d => (m, d)
  | fuel + 1, m, d =>
    let days := daysInMonth y m
    if d < days then (m, d) else monthOfDay y fuel (m + 1) (d - days)

/-- The year in which a day with a number lies: near the average, then a step on. -/
def yearOfDay (day : Int) : Int :=
  let day := day + daysBeforeYear 1970
  let guess := day * 400 / 146097 + 1
  if day < daysBeforeYear guess then guess - 1
  else if daysBeforeYear (guess + 1) ≤ day then guess + 1 else guess

/-- The time with so many seconds since the start of 1970. -/
def ofSeconds (s : Int) (nanos : Nat) : Timestamp :=
  let day := s / 86400
  let within := (s % 86400).toNat
  let year := yearOfDay day
  let (month, d) := monthOfDay year 12 1 (day + daysBeforeYear 1970 - daysBeforeYear year).toNat
  ⟨year, month, d + 1, within / 3600, within / 60 % 60, within % 60, nanos⟩

/-- The day of the week, from Sunday as zero. -/
def weekday (t : Timestamp) : Nat := ((t.dayNumber + 4) % 7).toNat

/-- The year and the week in it, both counted by whole weeks from Monday, of which the first one
has the fourth of January. -/
def weekDate (t : Timestamp) : Int × Nat :=
  let thursday := ofSeconds ((t.dayNumber - ((t.weekday + 6) % 7 : Nat) + 3) * 86400) 0
  (thursday.year, (thursday.dayOfYear - 1) / 7 + 1)

end Timestamp

end PatchTrial
