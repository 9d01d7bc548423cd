/-!
# Instants

A point in time is a count of milliseconds since the start of 1970, as far as the
proleptic Gregorian calendar reaches with years between -262143 and 262142. The
calendar reading works on whole days, in eras of 400 years that all have the same
number of days and begin on the first of March, so that a leap day is the last
day of its year.

## Main definitions

* `Instant`: Milliseconds since 1970 within the calendar's range.
* `Instant.ofMillis?`: The instant at a count of milliseconds, if there is one.
* `Date.ofDays`: The calendar date of a day counted from 1970.
* `Instant.iso`: The calendar text of an instant.
-/

namespace DocumentMapper

/-- A point in time: milliseconds since 1970, within the range of the calendar. -/
structure Instant where
  millis : Int
  inRange : -8334601228800000 ≤ millis ∧ millis ≤ 8210266876799999 := by omega
deriving DecidableEq

namespace Instant

/-- The first millisecond of 1970. -/
def epoch : Instant where
  millis := 0

instance : Inhabited Instant := ⟨epoch⟩

/-- The instant at a count of milliseconds, if the calendar reaches it. -/
def ofMillis? (millis : Int) : Option Instant :=
  if h : -8334601228800000 ≤ millis ∧ millis ≤ 8210266876799999 then some ⟨millis, h⟩ else none

end Instant

/-- A calendar date. -/
structure Date where
  year : Int
  month : Nat
  day : Nat
deriving DecidableEq, Repr

namespace Date

/-- The date of a day counted from the first of January 1970. The year is counted
    from March: with `y` the year of the era and `d` the day of that year, the
    months of 31 and 30 days follow each other five by five. -/
def ofDays (days : Int) : Date :=
  let shifted := days + 719468
  let era := shifted.fdiv 146097
  let dayOfEra := (shifted.fmod 146097).toNat
  let y := (dayOfEra - dayOfEra / 1460 + dayOfEra / 36524 - dayOfEra / 146096) / 365
  let d := dayOfEra - (365 * y + y / 4 - y / 100)
  let m := (5 * d + 2) / 153
  let month := if m < 10 then m + 3 else m - 9
  { year := y + era * 400 + (if month ≤ 2 then 1 else 0)
    month := month
    day := d - (153 * m + 2) / 5 + 1 }

/-- A number with at least `width` digits. -/
private def padded (width n : Nat) : String :=
  let digits := (Nat.repr n).toList
  String.ofList (List.replicate (width - digits.length) '0' ++ digits)

/-- A year between 0 and 9999 has four digits; any other has a sign in front of
    them. -/
def yearText (year : Int) : String :=
  if 0 ≤ year ∧ year ≤ 9999 then padded 4 year.toNat
  else (if year < 0 then "-" else "+") ++ padded 4 year.natAbs

/-- The date as year, month and day with dashes between. -/
def text (d : Date) : String :=
  yearText d.year ++ "-" ++ padded 2 d.month ++ "-" ++ padded 2 d.day

/-- The time of day at a count of seconds since midnight. -/
def clockText (seconds : Nat) : String :=
  padded 2 (seconds / 3600) ++ ":" ++ padded 2 (seconds / 60 % 60) ++ ":" ++ padded 2 (seconds % 60)

end Date

/-- Whether the text of an instant shows its milliseconds. -/
inductive Fraction where
  | always
  /-- Only where they are not zero. -/
  | ifNonzero
deriving DecidableEq

namespace Instant

/-- The calendar text of an instant: date, the letter T, time of day, the
    milliseconds as asked for, and the given mark of the zone. -/
def iso (fraction : Fraction) (zone : String) (t : Instant) : String :=
  let days := t.millis.fdiv 86400000
  let rest := (t.millis.fmod 86400000).toNat
  let millis := rest % 1000
  let shown := fraction = .always ∨ millis ≠ 0
  (Date.ofDays days).text ++ "T" ++ Date.clockText (rest / 1000)
    ++ (if shown then "." ++ Date.padded 3 millis else "") ++ zone

end Instant

end DocumentMapper
