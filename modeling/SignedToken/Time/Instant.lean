/-!
# Instants and durations

Time to the nanosecond. An instant lies in the calendar, whose years have at most six digits; it may
lie in a leap second, which follows the last second of a minute. A duration is at most 2^63 - 1
milliseconds long in either direction.
-/

namespace SignedToken

abbrev second : Int := 1000000000

/-! ## Durations -/

structure Duration where
  nanoseconds : Int
  least : -9223372036854775807000000 ≤ nanoseconds
  greatest : nanoseconds ≤ 9223372036854775807000000
deriving DecidableEq

namespace Duration

def ofNanoseconds? (n : Int) : Option Duration :=
  if h : -9223372036854775807000000 ≤ n ∧ n ≤ 9223372036854775807000000 then some ⟨n, h.1, h.2⟩
  else none

def ofSeconds? (n : Int) : Option Duration := ofNanoseconds? (n * second)

/-- Whole seconds toward zero. -/
def wholeSeconds (d : Duration) : Int := d.nanoseconds.tdiv second

/-- What the whole seconds leave, with the sign of the duration. -/
def subsecond (d : Duration) : Int := d.nanoseconds.tmod second

end Duration

/-! ## Instants -/

structure Instant where
  /-- Seconds since the start of 1970, of which no leap second is one. -/
  seconds : Int
  /-- Nanoseconds since that second began. From 1000000000 on the instant lies in the leap second
  that follows. -/
  subsecond : Int
  notBeforeCalendar : -8334601228800 ≤ seconds
  notAfterCalendar : seconds ≤ 8210266876799
  subsecond_nonneg : 0 ≤ subsecond
  subsecond_lt : subsecond < second ∨ seconds % 60 = 59 ∧ subsecond < 2 * second
deriving DecidableEq

namespace Instant

def ofParts? (seconds subsecond : Int) : Option Instant :=
  if h : (-8334601228800 ≤ seconds ∧ seconds ≤ 8210266876799) ∧ 0 ≤ subsecond
      ∧ (subsecond < second ∨ seconds % 60 = 59 ∧ subsecond < 2 * second) then
    some ⟨seconds, subsecond, h.1.1, h.1.2, h.2.1, h.2.2⟩
  else none

def ofSeconds? (n : Int) : Option Instant := ofParts? n 0

/-- The instant outside all leap seconds that lies `n` nanoseconds after the start of 1970. -/
def ofNanoseconds? (n : Int) : Option Instant := ofParts? (n / second) (n % second)

/-- The end of the calendar. -/
def latest : Instant where
  seconds := 8210266876799
  subsecond := 999999999
  notBeforeCalendar := by decide
  notAfterCalendar := by decide
  subsecond_nonneg := by decide
  subsecond_lt := by decide

def isLeap (t : Instant) : Bool := second ≤ t.subsecond

/-- Nanoseconds since the start of 1970. A leap second counts like the second behind it. -/
def nanoseconds (t : Instant) : Int := t.seconds * second + t.subsecond

/-! ## Arithmetic -/

/-- The instant `d` later; outside the calendar it is the end of the calendar. From a leap second,
less than a second leads on inside it or back into the second before it. Any more counts from the
same fraction of that second if it leads forward, and of the second behind if it leads backward. -/
def later (t : Instant) (d : Duration) : Instant :=
  let result :=
    if t.isLeap then
      if d.wholeSeconds = 0 ∧ t.subsecond + d.subsecond < 2 * second then
        ofParts? t.seconds (t.subsecond + d.subsecond)
      else if 0 < d.nanoseconds then ofNanoseconds? (t.nanoseconds - second + d.nanoseconds)
      else ofNanoseconds? (t.nanoseconds + d.nanoseconds)
    else ofNanoseconds? (t.nanoseconds + d.nanoseconds)
  result.getD latest

def timeOfDay (t : Instant) : Int := t.seconds % 86400

/-- Nanoseconds from `start` to `t`. A leap second at either of them counts if the other one comes
later in the day. -/
def nanosecondsSince (t start : Instant) : Int :=
  let counted :=
    if start.isLeap ∧ start.timeOfDay < t.timeOfDay then second
    else if t.isLeap ∧ t.timeOfDay < start.timeOfDay then -second
    else 0
  t.nanoseconds - start.nanoseconds + counted

def secondsSince (t start : Instant) : Int := (t.nanosecondsSince start).tdiv second

/-- The second of an instant as a number of 64 bits, which always holds it. -/
def timestamp (t : Instant) : Int64 := .ofInt t.seconds

end Instant

/-- The number of 64 bits that is nearest to `n`. -/
def nearest64 (n : Int) : Int64 :=
  .ofInt (max (-9223372036854775808) (min n 9223372036854775807))

end SignedToken
