import PaymentsPlatform.Python.DateTime

/-!
# ISO 8601 text of instants

`datetime.fromisoformat` reads back what `isoformat` wrote: the calendar algorithm of
`dateOfDay` is inverted by counting the days before a date, and the digits by their values.
-/

namespace Python

/-- Leap years of the Gregorian calendar. -/
def isLeap (year : Nat) : Bool := year % 4 = 0 && (year % 100 ≠ 0 || year % 400 = 0)

/-- Days of a month. -/
def daysInMonth (leap : Bool) : Nat → Nat
  | 2 => if leap then 29 else 28
  | 4 | 6 | 9 | 11 => 30
  | _ => 31

/-- Days before the first day of a year. -/
def daysBeforeYear (year : Nat) : Nat :=
  (year - 1) * 365 + (year - 1) / 4 - (year - 1) / 100 + (year - 1) / 400

/-- Days of the year before a date of it. -/
def dayOfYear (leap : Bool) (month day : Nat) : Nat :=
  daysBeforeMonth month + (if 2 < month ∧ leap then 1 else 0) + (day - 1)

namespace Date

/-- A date the calendar has. -/
def Valid (date : Date) : Prop :=
  1 ≤ date.year ∧ date.year ≤ 9999 ∧ 1 ≤ date.month ∧ date.month ≤ 12 ∧ 1 ≤ date.day ∧
    date.day ≤ daysInMonth (isLeap date.year) date.month

instance (date : Date) : Decidable date.Valid := inferInstanceAs (Decidable (_ ∧ _ ∧ _ ∧ _ ∧ _ ∧ _))

/-- The day number of a date, day zero being 0001-01-01. -/
def dayNumber (date : Date) : Nat :=
  daysBeforeYear date.year + dayOfYear (isLeap date.year) date.month date.day

end Date

/-- The month and day found for a day of a year are of the calendar and lie on that day. -/
theorem monthDay_spec (leap : Bool) (number : Nat) (bound : number < if leap then 366 else 365) :
    1 ≤ (monthDay leap number).1 ∧ (monthDay leap number).1 ≤ 12 ∧
      1 ≤ (monthDay leap number).2 ∧
      (monthDay leap number).2 ≤ daysInMonth leap (monthDay leap number).1 ∧
      dayOfYear leap (monthDay leap number).1 (monthDay leap number).2 = number := by
  have table : ∀ leap : Bool, ∀ number : Fin 366, number.val < (if leap then 366 else 365) →
      1 ≤ (monthDay leap number).1 ∧ (monthDay leap number).1 ≤ 12 ∧
      1 ≤ (monthDay leap number).2 ∧
      (monthDay leap number).2 ≤ daysInMonth leap (monthDay leap number).1 ∧
      dayOfYear leap (monthDay leap number).1 (monthDay leap number).2 = number := by
    decide +kernel
  have small : number < 366 := by
    cases leap
    · exact Nat.lt_of_lt_of_le bound (by decide)
    · exact bound
  exact table leap ⟨number, small⟩ bound

/-- Days before a year, from the cycles of the calendar its predecessor is made of. -/
theorem daysBeforeYear_cycles (n400 : Nat) {n100 n4 n1 : Nat} (centuries : n100 ≤ 3)
    (fours : n4 ≤ 24) (years : n1 ≤ 3) :
    daysBeforeYear (400 * n400 + 100 * n100 + 4 * n4 + n1 + 1) =
      146097 * n400 + 36524 * n100 + 1461 * n4 + 365 * n1 := by
  unfold daysBeforeYear
  rw [Nat.add_sub_cancel]
  have by4 : (400 * n400 + 100 * n100 + 4 * n4 + n1) / 4 = 100 * n400 + 25 * n100 + n4 := by omega
  have by100 : (400 * n400 + 100 * n100 + 4 * n4 + n1) / 100 = 4 * n400 + n100 := by omega
  have by400 : (400 * n400 + 100 * n100 + 4 * n4 + n1) / 400 = n400 := by omega
  rw [by4, by100, by400]
  omega

/-- The quotients of `dateOfDay` recover the day number. -/
theorem dayNumber_dateOfDay {number : Nat} (bound : number < calendarDays) :
    (dateOfDay number).Valid ∧ (dateOfDay number).dayNumber = number := by
  unfold calendarDays at bound
  unfold dateOfDay
  simp only
  have split400 := Nat.div_add_mod number 146097
  have bound400 := Nat.mod_lt number (show 146097 > 0 by decide)
  generalize number / 146097 = n400 at *
  generalize number % 146097 = r400 at *
  have split100 := Nat.div_add_mod r400 36524
  have bound100 := Nat.mod_lt r400 (show 36524 > 0 by decide)
  generalize r400 / 36524 = n100 at *
  generalize r400 % 36524 = r100 at *
  have split4 := Nat.div_add_mod r100 1461
  have bound4 := Nat.mod_lt r100 (show 1461 > 0 by decide)
  generalize r100 / 1461 = n4 at *
  generalize r100 % 1461 = r4 at *
  have split1 := Nat.div_add_mod r4 365
  have bound1 := Nat.mod_lt r4 (show 365 > 0 by decide)
  generalize r4 / 365 = n1 at *
  generalize r4 % 365 = r1 at *
  split
  · rename_i past
    -- the day is the last of a leap year: the 366th of a cycle of four or of four hundred
    have previous : ∃ m100 m4, m100 ≤ 3 ∧ m4 ≤ 24 ∧
        400 * n400 + 100 * n100 + 4 * n4 + n1 = 400 * n400 + 100 * m100 + 4 * m4 + 3 + 1 ∧
        (m4 ≠ 24 ∨ m100 = 3) ∧
        146097 * n400 + 36524 * m100 + 1461 * m4 + 365 * 3 + 365 = number := by
      rcases past with four | century
      · exact ⟨n100, n4, by omega, by omega, by omega, by omega, by omega⟩
      · exact ⟨3, 24, by omega, by omega, by omega, by omega, by omega⟩
    obtain ⟨m100, m4, centuries, fours, year, cycle, total⟩ := previous
    rw [Nat.add_sub_cancel, year]
    have before := daysBeforeYear_cycles n400 centuries fours (Nat.le_refl 3)
    have leap : isLeap (400 * n400 + 100 * m100 + 4 * m4 + 3 + 1) = true := by
      simp only [isLeap, Bool.and_eq_true, Bool.or_eq_true, decide_eq_true_eq]
      omega
    refine ⟨⟨?_, ?_, ?_, ?_, ?_, ?_⟩, ?_⟩
    · simp only; omega
    · simp only; omega
    · simp
    · simp
    · simp
    · simp [daysInMonth]
    · simp only [Date.dayNumber, leap, dayOfYear, daysBeforeMonth, before]
      simp
      omega
  · rename_i regular
    have centuries : n100 ≤ 3 := by omega
    have fours : n4 ≤ 24 := by omega
    have years : n1 ≤ 3 := by omega
    have before := daysBeforeYear_cycles n400 centuries fours years
    have leap : isLeap (400 * n400 + 100 * n100 + 4 * n4 + n1 + 1) =
        decide (n1 = 3 ∧ (n4 ≠ 24 ∨ n100 = 3)) := by
      rw [Bool.eq_iff_iff]
      simp only [isLeap, Bool.and_eq_true, Bool.or_eq_true, decide_eq_true_eq]
      omega
    obtain ⟨low, high, first, last, day⟩ := monthDay_spec
      (decide (n1 = 3 ∧ (n4 ≠ 24 ∨ n100 = 3))) r1 (Nat.lt_of_lt_of_le bound1 (by split <;> omega))
    refine ⟨⟨?_, ?_, low, high, first, ?_⟩, ?_⟩
    · simp only; omega
    · simp only; omega
    · simp only [leap]
      exact last
    · simp only [Date.dayNumber, leap, day, before]
      omega

/-! ## Reading the text back -/

/-- The value of an ASCII digit. -/
def asciiDigit (code : Nat) : Option Nat :=
  if 48 ≤ code ∧ code ≤ 57 then some (code - 48) else none

/-- The number written by a list of ASCII digits. -/
def asciiNumber (codes : PyStr) : Option Nat :=
  codes.foldlM (fun value code => (asciiDigit code).map (value * 10 + ·)) 0

/-- The fraction of a second in microseconds, when there is one, and the text after it. -/
def isoFraction : PyStr → Option (Nat × PyStr)
  | 46 :: a :: b :: c :: d :: e :: f :: rest =>
    (asciiNumber [a, b, c, d, e, f]).map fun micros => (micros, rest)
  | rest => some (0, rest)

/-- The offset from UTC in minutes, written `+HH:MM` or `-HH:MM`. -/
def isoOffset : PyStr → Option Int
  | [sign, a, b, 58, c, d] => do
    let hours ← asciiNumber [a, b]
    let minutes ← asciiNumber [c, d]
    let size : Int := 60 * hours + minutes
    if 23 < hours ∨ 59 < minutes then none
    else if sign = 43 then some size
    else if sign = 45 then some (-size)
    else none
  | _ => none

/-- The instant of a local date and time at an offset from UTC. -/
def instantAt (date : Date) (hour minute second micros : Nat) (offset : Int) : Option Instant :=
  let seconds := ((date.dayNumber * 24 + hour) * 60 + minute) * 60 + second
  let total : Int := ((seconds : Int) - offset * 60) * 1000000 + micros
  if fits : date.Valid ∧ hour ≤ 23 ∧ minute ≤ 59 ∧ second ≤ 59 ∧ 0 ≤ total ∧
      total.toNat < calendarDays * dayMicros then
    some ⟨total.toNat, fits.2.2.2.2.2⟩
  else none

/-- `datetime.fromisoformat` of the form that `isoformat` writes for an aware datetime; `none`
is `ValueError`. -/
def fromIsoformat : PyStr → Option Instant
  | y1 :: y2 :: y3 :: y4 :: 45 :: m1 :: m2 :: 45 :: d1 :: d2 :: _ :: h1 :: h2 :: 58 :: n1 :: n2 ::
      58 :: s1 :: s2 :: rest => do
    let year ← asciiNumber [y1, y2, y3, y4]
    let month ← asciiNumber [m1, m2]
    let day ← asciiNumber [d1, d2]
    let hour ← asciiNumber [h1, h2]
    let minute ← asciiNumber [n1, n2]
    let second ← asciiNumber [s1, s2]
    let (micros, rest) ← isoFraction rest
    let offset ← isoOffset rest
    instantAt ⟨year, month, day⟩ hour minute second micros offset
  | _ => none

/-- `datetime.fromisoformat(text.replace("Z", "+00:00"))`. -/
def parseTimestamp (text : PyStr) : Option Instant := fromIsoformat (replaceChar 90 "+00:00" text)

@[simp] theorem asciiDigit_digit (number : Nat) :
    asciiDigit (48 + number % 10) = some (number % 10) := by
  have small := Nat.mod_lt number (show 10 > 0 by decide)
  rw [asciiDigit, if_pos (by omega)]
  congr 1
  omega

/-- Reading the last digits of a number gives the number modulo that power of ten. -/
theorem asciiNumber_fixedDigits (width number : Nat) :
    asciiNumber (fixedDigits width number) = some (number % 10 ^ width) := by
  induction width generalizing number with
  | zero => simp [fixedDigits, asciiNumber, Nat.mod_one]
  | succ width ih =>
    have step := ih (number / 10)
    unfold asciiNumber at step ⊢
    rw [fixedDigits, List.foldlM_append, step]
    simp only [List.foldlM_cons, List.foldlM_nil, asciiDigit_digit, Option.map_some,
      Option.pure_def, Option.bind_eq_bind, Option.bind_some,
      Option.some.injEq]
    rw [Nat.pow_succ, Nat.mul_comm (10 ^ width) 10, Nat.mod_mul]
    omega

/-- Replacement works on the parts of a text. -/
theorem replaceChar_append (old : Nat) (new left right : PyStr) :
    replaceChar old new (left ++ right) =
      replaceChar old new left ++ replaceChar old new right := by
  simp only [replaceChar, List.flatMap_append]

/-- No digit is the letter `Z`. -/
theorem replaceChar_fixedDigits (width number : Nat) (new : PyStr) :
    replaceChar 90 new (fixedDigits width number) = fixedDigits width number := by
  induction width generalizing number with
  | zero => rfl
  | succ width ih =>
    have small := Nat.mod_lt number (show 10 > 0 by decide)
    have digit : 48 + number % 10 ≠ 90 := by omega
    rw [fixedDigits, replaceChar_append, ih]
    simp [replaceChar, digit]

/-- A number that fits is padded to exactly its width. -/
theorem padded_of_lt {width number : Nat} (fits : number < 10 ^ width) :
    padded width number = fixedDigits width number := if_pos fits

/-- The date of an instant is a date of the calendar. -/
theorem Instant.date_valid (instant : Instant) :
    instant.date.Valid ∧ instant.date.dayNumber = instant.micros / dayMicros :=
  dayNumber_dateOfDay (Nat.div_lt_of_lt_mul (by
    have bound := instant.representable
    rwa [Nat.mul_comm] at bound))

/-- A month has at most 31 days. -/
theorem daysInMonth_le (leap : Bool) (month : Nat) : daysInMonth leap month ≤ 31 := by
  unfold daysInMonth
  split
  · split <;> decide
  all_goals decide

/-- The text of an instant, its numbers written with fixed widths. -/
theorem Instant.utcIso_digits (instant : Instant) :
    instant.utcIso =
      fixedDigits 4 instant.date.year ++ (45 :: fixedDigits 2 instant.date.month) ++
        (45 :: fixedDigits 2 instant.date.day) ++
        (84 :: fixedDigits 2 (instant.micros / 1000000 / 3600 % 24)) ++
        (58 :: fixedDigits 2 (instant.micros / 1000000 / 60 % 60)) ++
        (58 :: fixedDigits 2 (instant.micros / 1000000 % 60)) ++
        ((if instant.microsecond = 0 then [] else 46 :: fixedDigits 6 instant.microsecond) ++
          [90]) := by
  obtain ⟨⟨-, year, -, month, -, day⟩, -⟩ := instant.date_valid
  have days := daysInMonth_le (isLeap instant.date.year) instant.date.month
  have micros : instant.microsecond < 10 ^ 6 := Nat.mod_lt _ (by decide)
  have hour := Nat.mod_lt (instant.micros / 1000000 / 3600) (show 24 > 0 by decide)
  have minute := Nat.mod_lt (instant.micros / 1000000 / 60) (show 60 > 0 by decide)
  have second := Nat.mod_lt (instant.micros / 1000000) (show 60 > 0 by decide)
  unfold Instant.utcIso Date.isoformat
  simp only
  rw [padded_of_lt (by omega : instant.date.year < 10 ^ 4),
    padded_of_lt (by omega : instant.date.month < 10 ^ 2),
    padded_of_lt (by omega : instant.date.day < 10 ^ 2),
    padded_of_lt (by omega : instant.micros / 1000000 / 3600 % 24 < 10 ^ 2),
    padded_of_lt (by omega : instant.micros / 1000000 / 60 % 60 < 10 ^ 2),
    padded_of_lt (by omega : instant.micros / 1000000 % 60 < 10 ^ 2), padded_of_lt micros]
  have dash : py "-" = [45] := rfl
  have letterT : py "T" = [84] := rfl
  have colon : py ":" = [58] := rfl
  have point : py "." = [46] := rfl
  have letterZ : py "Z" = [90] := rfl
  simp only [dash, letterT, colon, point, letterZ, List.append_assoc, List.cons_append,
    List.nil_append]

/-- Decimal digits are ASCII digits. -/
theorem fixedDigits_range {width number code : Nat} (member : code ∈ fixedDigits width number) :
    48 ≤ code ∧ code ≤ 57 := by
  induction width generalizing number with
  | zero => cases member
  | succ width ih =>
    rcases List.mem_append.mp member with left | right
    · exact ih left
    · have small := Nat.mod_lt number (show 10 > 0 by decide)
      rw [List.mem_singleton.mp right]
      omega

@[simp] theorem length_fixedDigits (width number : Nat) :
    (fixedDigits width number).length = width := by
  induction width generalizing number with
  | zero => rfl
  | succ width ih => rw [fixedDigits, List.length_append, ih]; rfl

/-- The text of an instant is short, not empty, and has no white space. -/
theorem Instant.utcIso_plain (instant : Instant) :
    (∀ code ∈ instant.utcIso, 45 ≤ code ∧ code ≤ 90) ∧ instant.utcIso.length ≤ 27 ∧
      instant.utcIso ≠ [] := by
  rw [instant.utcIso_digits]
  refine ⟨?_, ?_, ?_⟩
  · intro code member
    simp only [List.mem_append, List.mem_cons, List.not_mem_nil] at member
    have digits : ∀ width number, code ∈ fixedDigits width number → 45 ≤ code ∧ code ≤ 90 := by
      intro width number inside
      have range := fixedDigits_range inside
      omega
    rcases member with (((((year | rfl | month) | rfl | day) | rfl | hour) | rfl | minute) | rfl |
      second) | rest | rfl | none
    · exact digits _ _ year
    · omega
    · exact digits _ _ month
    · omega
    · exact digits _ _ day
    · omega
    · exact digits _ _ hour
    · omega
    · exact digits _ _ minute
    · omega
    · exact digits _ _ second
    · split at rest
      · cases rest
      · rcases List.mem_cons.mp rest with rfl | fraction
        · omega
        · exact digits _ _ fraction
    · omega
    · exact none.elim
  · simp only [List.length_append, List.length_cons, length_fixedDigits, List.length_nil]
    split
    · simp
    · simp
  · intro empty
    have length := congrArg List.length empty
    simp only [List.length_append, List.length_cons, length_fixedDigits, List.length_nil] at length
    omega

/-- The clock fields of an instant add up to it. -/
theorem Instant.fields (instant : Instant) :
    (((instant.micros / dayMicros * 24 + instant.micros / 1000000 / 3600 % 24) * 60 +
      instant.micros / 1000000 / 60 % 60) * 60 + instant.micros / 1000000 % 60) * 1000000 +
      instant.microsecond = instant.micros := by
  unfold Instant.microsecond dayMicros
  omega

/-- `fromisoformat` of a text with fixed widths reads the numbers back. -/
theorem fromIsoformat_digits {year month day hour minute second : Nat} (rest : PyStr)
    (y : year < 10 ^ 4) (m : month < 10 ^ 2) (d : day < 10 ^ 2) (h : hour < 10 ^ 2)
    (n : minute < 10 ^ 2) (s : second < 10 ^ 2) :
    fromIsoformat (fixedDigits 4 year ++ (45 :: fixedDigits 2 month) ++
        (45 :: fixedDigits 2 day) ++ (84 :: fixedDigits 2 hour) ++ (58 :: fixedDigits 2 minute) ++
        (58 :: fixedDigits 2 second) ++ rest) =
      (isoFraction rest).bind fun (micros, rest) => (isoOffset rest).bind fun offset =>
        instantAt ⟨year, month, day⟩ hour minute second micros offset := by
  change ((asciiNumber (fixedDigits 4 year)).bind fun year =>
    (asciiNumber (fixedDigits 2 month)).bind fun month =>
    (asciiNumber (fixedDigits 2 day)).bind fun day =>
    (asciiNumber (fixedDigits 2 hour)).bind fun hour =>
    (asciiNumber (fixedDigits 2 minute)).bind fun minute =>
    (asciiNumber (fixedDigits 2 second)).bind fun second =>
    (isoFraction rest).bind fun (micros, rest) => (isoOffset rest).bind fun offset =>
      instantAt ⟨year, month, day⟩ hour minute second micros offset) = _
  simp only [asciiNumber_fixedDigits, Option.bind_some, Nat.mod_eq_of_lt y, Nat.mod_eq_of_lt m,
    Nat.mod_eq_of_lt d, Nat.mod_eq_of_lt h, Nat.mod_eq_of_lt n, Nat.mod_eq_of_lt s]

/-- `fromisoformat` reads back every UTC text that `isoformat` writes. -/
theorem parseTimestamp_utcIso (instant : Instant) :
    parseTimestamp instant.utcIso = some instant := by
  obtain ⟨valid, number⟩ := instant.date_valid
  obtain ⟨-, year, -, month, -, day⟩ := id valid
  have days := daysInMonth_le (isLeap instant.date.year) instant.date.month
  have micros : instant.microsecond < 10 ^ 6 := Nat.mod_lt _ (by decide)
  have hour := Nat.mod_lt (instant.micros / 1000000 / 3600) (show 24 > 0 by decide)
  have minute := Nat.mod_lt (instant.micros / 1000000 / 60) (show 60 > 0 by decide)
  have second := Nat.mod_lt (instant.micros / 1000000) (show 60 > 0 by decide)
  have ends : ∀ fraction : PyStr, fraction = (if instant.microsecond = 0 then []
      else 46 :: fixedDigits 6 instant.microsecond) →
      isoFraction (fraction ++ py "+00:00") = some (instant.microsecond, py "+00:00") := by
    rintro fraction rfl
    split
    · rename_i whole
      rw [whole]
      rfl
    · have read := asciiNumber_fixedDigits 6 instant.microsecond
      rw [Nat.mod_eq_of_lt micros] at read
      change Option.map (fun value => (value, py "+00:00"))
        (asciiNumber (fixedDigits 6 instant.microsecond)) = _
      rw [read]
      rfl
  have at_utc : isoOffset (py "+00:00") = some 0 := by decide
  have whole : instantAt instant.date (instant.micros / 1000000 / 3600 % 24)
      (instant.micros / 1000000 / 60 % 60) (instant.micros / 1000000 % 60) instant.microsecond 0 =
      some instant := by
    have fields := instant.fields
    rw [← number] at fields
    have total : ((((instant.date.dayNumber * 24 + instant.micros / 1000000 / 3600 % 24) * 60 +
        instant.micros / 1000000 / 60 % 60) * 60 + instant.micros / 1000000 % 60 : Nat) - 0 * 60 :
        Int) * 1000000 + instant.microsecond = instant.micros := by
      omega
    unfold instantAt
    simp only [total]
    rw [dif_pos ⟨valid, by omega, by omega, by omega, by omega, instant.representable⟩]
    rfl
  have replaced : ∀ code rest, code ≠ 90 → replaceChar 90 "+00:00" (code :: rest) =
      code :: replaceChar 90 "+00:00" rest := by
    intro code rest other
    simp [replaceChar, other]
  have tail : replaceChar 90 "+00:00" (if instant.microsecond = 0 then []
      else 46 :: fixedDigits 6 instant.microsecond) = (if instant.microsecond = 0 then []
      else 46 :: fixedDigits 6 instant.microsecond) := by
    split
    · rfl
    · rw [replaced _ _ (by decide), replaceChar_fixedDigits]
  have letter : replaceChar 90 "+00:00" [90] = py "+00:00" := by decide
  unfold parseTimestamp
  rw [instant.utcIso_digits]
  simp only [replaceChar_append, replaceChar_fixedDigits, tail, letter,
    replaced 45 _ (by decide), replaced 84 _ (by decide), replaced 58 _ (by decide)]
  rw [fromIsoformat_digits _ (by omega) (by omega) (by omega) (by omega) (by omega) (by omega),
    ends _ rfl, Option.bind_some]
  simp only [at_utc, Option.bind_some]
  exact whole

end Python
