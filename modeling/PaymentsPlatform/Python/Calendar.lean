import PaymentsPlatform.Python.Iso
import PaymentsPlatform.Python.Json

/-!
# ISO dates and times

`date.fromisoformat` and `datetime.fromisoformat` in full: basic and extended forms, week dates,
any separator between date and time, fractions of any length and offsets down to microseconds.
Like CPython, the date reader looks at no more characters than its form has.
-/

namespace Python

/-- A number of exactly `count` ASCII digits and the text after it. -/
def scanDigits (count : Nat) (text : PyStr) : Option (Nat × PyStr) :=
  if (text.take count).length = count then
    (asciiNumber (text.take count)).map fun number => (number, text.drop count)
  else none

/-- The weekday of a day number, Monday being zero. -/
def weekday (number : Nat) : Nat := number % 7

/-- The day number of the Monday of the first ISO week of a year; it can lie before year one. -/
def firstIsoMonday (year : Nat) : Int :=
  let first := daysBeforeYear year
  let monday : Int := (first : Int) - weekday first
  if 3 < weekday first then monday + 7 else monday

/-- The ISO weeks of a year. -/
def isoWeeks (year : Nat) : Nat :=
  let first := weekday (daysBeforeYear year)
  if first = 3 ∨ (first = 2 ∧ isLeap year) then 53 else 52

/-- The date of an ISO week date. -/
def dateOfIsoWeek (year week day : Nat) : Option Date :=
  if year < 1 ∨ 9999 < year ∨ week < 1 ∨ isoWeeks year < week ∨ day < 1 ∨ 7 < day then none
  else
    let number := firstIsoMonday year + (7 * (week - 1) + (day - 1) : Nat)
    if 0 ≤ number ∧ number < calendarDays then some (dateOfDay number.toNat) else none

/-- A date at the front of a text of the given length. -/
def scanDate (length : Nat) (text : PyStr) : Option Date := do
  let (year, rest) ← scanDigits 4 text
  let separated := rest.head? = some 45
  let rest := if separated then rest.drop 1 else rest
  if rest.head? = some 87 then
    let (week, after) ← scanDigits 2 (rest.drop 1)
    if text.length - after.length < length then
      if separated ∧ after.head? ≠ some 45 then none
      else
        let (day, _) ← scanDigits 1 (if separated then after.drop 1 else after)
        dateOfIsoWeek year week day
    else dateOfIsoWeek year week 1
  else
    let (month, rest) ← scanDigits 2 rest
    if separated ∧ rest.head? ≠ some 45 then none
    else
      let (day, _) ← scanDigits 2 (if separated then rest.drop 1 else rest)
      let date : Date := ⟨year, month, day⟩
      if date.Valid then some date else none

/-- `date.fromisoformat`; `none` is `ValueError`. -/
def dateFromIsoformat (text : PyStr) : Option Date :=
  if text.length = 7 ∨ text.length = 8 ∨ text.length = 10 then scanDate text.length text else none

/-- Where the date of a datetime ends. -/
def dateLength (text : PyStr) : Option Nat :=
  let is (index code : Nat) : Bool := text[index]? = some code
  let digitAt (index : Nat) : Bool := (text[index]?).any Json.isDigit
  if text.length = 7 then some 7
  else if is 4 45 then
    if is 5 87 then
      if text.length < 8 then none
      else if is 8 45 then
        if text.length = 9 then none
        -- a hyphen is the likelier separator than a digit
        else if digitAt 10 then some 8 else some 10
      else some 8
    else some 10
  else if is 4 87 then
    let digits := ((text.drop 7).takeWhile Json.isDigit).length
    let stop := 7 + digits
    if stop < 9 then some stop else if stop % 2 = 0 then some 7 else some 8
  else some 8

/-- What a time reader found: hours, minutes, seconds, microseconds, and whether text is left. -/
structure ScannedTime where
  /-- Hours. -/
  hour : Nat
  /-- Minutes. -/
  minute : Nat
  /-- Seconds. -/
  second : Nat
  /-- Microseconds. -/
  micros : Nat
  /-- The text goes on behind the time. -/
  more : Bool

/-- A fraction of a second: the first six digits count. -/
def scanFractionDigits (text : PyStr) : Option (Nat × Bool) := do
  let count := min text.length 6
  let (number, rest) ← scanDigits count text
  some (number * 10 ^ (6 - count), rest.dropWhile Json.isDigit ≠ [])

/-- `HH[:MM[:SS[.ffffff]]]`, its colons present throughout or absent throughout. -/
def scanTime (text : PyStr) : Option ScannedTime := do
  let (hour, rest) ← scanDigits 2 text
  match rest with
  | [] => some ⟨hour, 0, 0, 0, false⟩
  | [_] => some ⟨hour, 0, 0, 0, true⟩
  | separator :: later =>
    let colon := separator = 58
    if separator = 46 ∨ separator = 44 then
      let (micros, more) ← scanFractionDigits later
      some ⟨hour, 0, 0, micros, more⟩
    else
      let (minute, rest) ← scanDigits 2 (if colon then later else rest)
      match rest with
      | [] => some ⟨hour, minute, 0, 0, false⟩
      | [_] => some ⟨hour, minute, 0, 0, true⟩
      | separator :: later =>
        if separator = 46 ∨ separator = 44 then
          let (micros, more) ← scanFractionDigits later
          some ⟨hour, minute, 0, micros, more⟩
        else if colon ∧ separator ≠ 58 then none
        else
          let (second, rest) ← scanDigits 2 (if colon then later else rest)
          match rest with
          | [] => some ⟨hour, minute, second, 0, false⟩
          | [_] => some ⟨hour, minute, second, 0, true⟩
          | separator :: later =>
            if colon ∧ separator ≠ 46 ∧ separator ≠ 44 ∧ separator ≠ 58 then none
            else
              -- without colons the fraction may follow directly
              let digits := if separator = 46 ∨ separator = 44 ∨ colon then later else rest
              let (micros, more) ← scanFractionDigits digits
              some ⟨hour, minute, second, micros, more⟩

/-- A datetime as it was written: local microseconds since 0001-01-01 and, if it is aware, the
offset from UTC in microseconds. -/
structure ScannedDateTime where
  /-- Local microseconds. -/
  micros : Nat
  /-- Offset in microseconds. -/
  offset : Option Int
deriving DecidableEq

/-- The offset of a time from UTC: `Z`, or a sign and a time below a day. -/
def scanOffset : PyStr → Option Int
  | [90] => some 0
  | sign :: text => do
    if sign ≠ 43 ∧ sign ≠ 45 then none
    else
      let time ← scanTime text
      let size : Int := ((time.hour * 60 + time.minute) * 60 + time.second) * 1000000 + time.micros
      if time.more ∨ dayMicros ≤ size then none
      else some (if sign = 45 then -size else size)
  | [] => none

/-- `datetime.fromisoformat`; `none` is `ValueError`. -/
def datetimeFromIsoformat (text : PyStr) : Option ScannedDateTime := do
  if text.length < 7 then none
  else
    let length ← dateLength text
    let date ← scanDate length text
    let day := date.dayNumber * dayMicros
    if text.length ≤ length then some ⟨day, none⟩
    else
      let rest := text.drop (length + 1)
      let isZone (code : Nat) : Bool := code = 43 ∨ code = 45 ∨ code = 90
      let clock := rest.takeWhile fun code => !isZone code
      let zone := rest.drop clock.length
      let time ← scanTime clock
      if 23 < time.hour ∨ 59 < time.minute ∨ 59 < time.second then none
      else
        let micros := day + ((time.hour * 60 + time.minute) * 60 + time.second) * 1000000 +
          time.micros
        if zone = [] then (if time.more then none else some ⟨micros, none⟩)
        else
          let offset ← scanOffset zone
          some ⟨micros, some offset⟩

/-- `value.astimezone(UTC)` of an aware datetime. -/
def ScannedDateTime.toUtc (micros : Nat) (offset : Int) : Except PyError Instant :=
  let total : Int := micros - offset
  if fits : 0 ≤ total ∧ total.toNat < calendarDays * dayMicros then .ok ⟨total.toNat, fits.2⟩
  else .error ⟨.overflowError, py "date value out of range"⟩

/-- `isoformat()` of a UTC datetime. -/
def Instant.isoformat (instant : Instant) : PyStr :=
  instant.utcIso.dropLast ++ py "+00:00"

example : dateFromIsoformat "2026-W01-1" = some ⟨2025, 12, 29⟩ := by decide +kernel
example : (datetimeFromIsoformat "2026-07-22T10:15:30.5+07:00").map (·.offset) =
    some (some 25200000000) := by decide +kernel

end Python
