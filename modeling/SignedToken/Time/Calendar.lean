import SignedToken.Time.Instant

/-!
# Dates

The Gregorian calendar, extended to all years, and the text of an instant by RFC 3339.
-/

namespace SignedToken.Calendar

structure Date where
  year : Int
  month : Nat
  day : Nat
deriving DecidableEq, Repr

/-- The date that is `days` days after 1970-01-01. Years are counted from March on, so that the
leap day is the last day of its year, in eras of 400 years. -/
def dateOfDays (days : Int) : Date :=
  let days := days + 719468
  let era := days / 146097
  let dayOfEra := (days % 146097).toNat
  let yearOfEra := (dayOfEra - dayOfEra / 1460 + dayOfEra / 36524 - dayOfEra / 146096) / 365
  let dayOfYear := dayOfEra - (365 * yearOfEra + yearOfEra / 4 - yearOfEra / 100)
  let monthFromMarch := (5 * dayOfYear + 2) / 153
  let day := dayOfYear - (153 * monthFromMarch + 2) / 5 + 1
  let month := if monthFromMarch < 10 then monthFromMarch + 3 else monthFromMarch - 9
  let year := era * 400 + yearOfEra
  ⟨if month ≤ 2 then year + 1 else year, month, day⟩

/-! ## Text -/

/-- The digits of `n`, with zeros in front up to `width`. -/
def padded (width n : Nat) : String :=
  let digits := toString n
  String.ofList (List.replicate (width - digits.length) '0') ++ digits

/-- Four digits; with a sign for the years that have more or come before year 0. -/
def yearText (year : Int) : String :=
  if 0 ≤ year ∧ year ≤ 9999 then padded 4 year.toNat
  else (if year < 0 then "-" else "+") ++ padded 4 year.natAbs

/-- The fraction of a second in milli-, micro- or nanoseconds, the coarsest that is exact. -/
def fractionText (nanoseconds : Nat) : String :=
  if nanoseconds = 0 then ""
  else if nanoseconds % 1000000 = 0 then "." ++ padded 3 (nanoseconds / 1000000)
  else if nanoseconds % 1000 = 0 then "." ++ padded 6 (nanoseconds / 1000)
  else "." ++ padded 9 nanoseconds

end SignedToken.Calendar

namespace SignedToken

/-- Date and time of day in universal time. A leap second is the second 60 of its minute. -/
def Instant.text (t : Instant) : String :=
  let date := Calendar.dateOfDays (t.seconds / 86400)
  let time := t.timeOfDay.toNat
  let (second, fraction) :=
    if t.isLeap then (60, t.subsecond - second) else (time % 60, t.subsecond)
  Calendar.yearText date.year ++ "-" ++ Calendar.padded 2 date.month ++ "-"
    ++ Calendar.padded 2 date.day ++ "T" ++ Calendar.padded 2 (time / 3600) ++ ":"
    ++ Calendar.padded 2 (time / 60 % 60) ++ ":" ++ Calendar.padded 2 second
    ++ Calendar.fractionText fraction.toNat ++ "Z"

end SignedToken
