import PaymentsPlatform.Python.Exceptions

/-!
# Dates and instants

An instant is a UTC `datetime`: microseconds since the first one, 0001-01-01T00:00:00Z, up
to the last one Python can represent. An aware `datetime` with any other offset denotes an
instant as well (`astimezone(UTC)`), and the code under study converts before it compares,
stores or prints, so one type serves. Days are counted from 0001-01-01 as day zero.
-/

namespace Python

/-- Microseconds of one day. -/
def dayMicros : Nat := 86400000000

/-- Days from 0001-01-01 to 9999-12-31, both counted. -/
def calendarDays : Nat := 3652059

/-- The day number of 1970-01-01. -/
def epochDay : Nat := 719162

theorem calendar_nonempty : 0 < calendarDays * dayMicros := by decide

/-- A UTC instant Python can represent. -/
structure Instant where
  /-- Microseconds since 0001-01-01T00:00:00Z. -/
  micros : Nat
  /-- At most 9999-12-31T23:59:59.999999Z. -/
  representable : micros < calendarDays * dayMicros
deriving DecidableEq

/-- A calendar date. -/
structure Date where
  /-- Year, from 1 to 9999 for a day of the calendar. -/
  year : Nat
  /-- Month, from 1 to 12. -/
  month : Nat
  /-- Day of the month, from 1. -/
  day : Nat
deriving DecidableEq, Repr

/-- Days of a common year before each month. -/
def daysBeforeMonth : Nat → Nat
  | 2 => 31 | 3 => 59 | 4 => 90 | 5 => 120 | 6 => 151 | 7 => 181
  | 8 => 212 | 9 => 243 | 10 => 273 | 11 => 304 | 12 => 334
  | _ => 0

/-- Month and day of the month of a day of a year, counted from zero. -/
def monthDay (leap : Bool) (dayOfYear : Nat) : Nat × Nat :=
  let extra := if leap then 1 else 0
  let before (month : Nat) := daysBeforeMonth month + if 2 < month then extra else 0
  let month := (dayOfYear + 50) / 32
  let month := if dayOfYear < before month then month - 1 else month
  (month, dayOfYear - before month + 1)

/-- The date of a day number: cycles of 400, 100, 4 and 1 years, as in `date.fromordinal`. -/
def dateOfDay (number : Nat) : Date :=
  let n400 := number / 146097
  let r400 := number % 146097
  let n100 := r400 / 36524
  let r100 := r400 % 36524
  let n4 := r100 / 1461
  let r4 := r100 % 1461
  let n1 := r4 / 365
  let r1 := r4 % 365
  let year := 400 * n400 + 100 * n100 + 4 * n4 + n1 + 1
  -- the last day of a leap cycle falls out of the quotients
  if n1 = 4 ∨ n100 = 4 then ⟨year - 1, 12, 31⟩
  else
    let leap : Bool := n1 = 3 ∧ (n4 ≠ 24 ∨ n100 = 3)
    let (month, day) := monthDay leap r1
    ⟨year, month, day⟩

/-- `date.isoformat()`. -/
def Date.isoformat (date : Date) : PyStr :=
  padded 4 date.year ++ py "-" ++ padded 2 date.month ++ py "-" ++ padded 2 date.day

namespace Instant

/-- The date of an instant. -/
def date (instant : Instant) : Date := dateOfDay (instant.micros / dayMicros)

/-- The microsecond field. -/
def microsecond (instant : Instant) : Nat := instant.micros % 1000000

/-- `isoformat().replace("+00:00", "Z")` of a UTC datetime: the fraction is printed only when
the microsecond field is not zero. -/
def utcIso (instant : Instant) : PyStr :=
  let second := instant.micros / 1000000
  instant.date.isoformat ++ py "T" ++ padded 2 (second / 3600 % 24) ++ py ":" ++
    padded 2 (second / 60 % 60) ++ py ":" ++ padded 2 (second % 60) ++
    (if instant.microsecond = 0 then [] else py "." ++ padded 6 instant.microsecond) ++ py "Z"

/-- The instant of a count of microseconds since 1970, when Python can represent it. -/
def ofEpochMicros (micros : Int) : Option Instant :=
  let shifted := micros + epochDay * dayMicros
  if fits : 0 ≤ shifted ∧ shifted.toNat < calendarDays * dayMicros then
    some ⟨shifted.toNat, fits.2⟩
  else none

/-- 1970-01-01T00:00:00Z. -/
def epoch : Instant := ⟨epochDay * dayMicros, by decide⟩

end Instant

/-! ## Seconds as a float

`datetime.fromtimestamp(n / d, tz=UTC)` divides in binary64 and rounds the fraction to
microseconds, so far from 1970 the result is not the exact quotient. -/

/-- The nearest integer to a quotient, the even one of two. -/
def roundHalfEven (numerator denominator : Nat) : Nat :=
  let quotient := numerator / denominator
  let twice := 2 * (numerator % denominator)
  if twice < denominator ∨ (twice = denominator ∧ quotient % 2 = 0) then quotient
  else quotient + 1

/-- The binary64 number nearest to a positive quotient, as a fraction. Exponents stay inside
the normal range for every value the calendar can hold. -/
def nearestDouble (numerator denominator : Nat) : Nat × Nat :=
  if numerator = 0 then (0, 1)
  else
    let size : Int := (Nat.log2 numerator : Int) - Nat.log2 denominator
    let shift := 52 - size
    let scaledUp := numerator * 2 ^ shift.toNat
    let scaledDown := denominator * 2 ^ (-shift).toNat
    -- the quotient of the logarithms can be one too large
    let shift := if scaledUp < scaledDown * 2 ^ 52 then shift + 1 else shift
    let mantissa := roundHalfEven (numerator * 2 ^ shift.toNat) (denominator * 2 ^ (-shift).toNat)
    (mantissa * 2 ^ (-shift).toNat, 2 ^ shift.toNat)

/-- `datetime.fromtimestamp(numerator / divisor, tz=UTC)`. -/
def fromTimestamp (numerator : Int) (divisor : Nat) : Except PyError Instant :=
  let (top, bottom) := nearestDouble numerator.natAbs divisor
  let seconds := top / bottom
  let (fractionTop, fractionBottom) := nearestDouble (top % bottom * 1000000) bottom
  let micros : Int := seconds * 1000000 + roundHalfEven fractionTop fractionBottom
  if 2 ^ 63 ≤ seconds then
    .error ⟨.overflowError, py "timestamp out of range for platform time_t"⟩
  else match Instant.ofEpochMicros (if numerator < 0 then -micros else micros) with
    | some instant => .ok instant
    | none => .error ⟨.valueError, py "year is out of range"⟩

end Python
