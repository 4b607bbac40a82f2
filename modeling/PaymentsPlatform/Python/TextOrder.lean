import PaymentsPlatform.Python.Iso

/-!
# The text order of timestamps

A text column is ordered by its code points. Numbers of a fixed width, dates and times to the
second keep their order as texts; a fraction that is left out does not: the letter that ends the
text comes after the point that would begin the fraction.
-/

namespace Python

/-! ## Fields of a fixed width -/

/-- Two texts of one length decide the order of what they begin. -/
theorem append_lt_of_lt {left right : PyStr} (lengths : left.length = right.length)
    (below : left < right) (rest more : PyStr) : left ++ rest < right ++ more := by
  induction left generalizing right with
  | nil =>
    rw [List.length_eq_zero_iff.mp lengths.symm] at below
    exact absurd below (lt_irrefl _)
  | cons code left ih =>
    cases right with
    | nil => cases lengths
    | cons other right =>
      rw [List.cons_append, List.cons_append, List.cons_lt_cons_iff]
      rcases List.cons_lt_cons_iff.mp below with first | ⟨same, later⟩
      · exact Or.inl first
      · exact Or.inr ⟨same, ih (Nat.succ.inj lengths) later⟩

/-- Numbers of a fixed width keep their order as texts. -/
theorem fixedDigits_lt {width left right : Nat} (below : left < right)
    (fits : right < 10 ^ width) : fixedDigits width left < fixedDigits width right := by
  induction width generalizing left right with
  | zero => omega
  | succ width ih =>
    have high : right / 10 < 10 ^ width := by
      rw [Nat.pow_succ] at fits
      omega
    rw [fixedDigits, fixedDigits]
    rcases Nat.lt_or_eq_of_le (Nat.div_le_div_right (c := 10) below.le) with lower | same
    · exact append_lt_of_lt (by rw [length_fixedDigits, length_fixedDigits]) (ih lower high) _ _
    · rw [same]
      exact List.append_left_lt (List.cons_lt_cons_iff.mpr (Or.inl (by omega)))

/-- One more field of a fixed width, after the same separator. -/
theorem field_lt {before before' : PyStr} {code width left right : Nat}
    (lengths : before.length = before'.length)
    (order : before < before' ∨ before = before' ∧ left < right) (fits : right < 10 ^ width) :
    before ++ (code :: fixedDigits width left) < before' ++ (code :: fixedDigits width right) := by
  rcases order with earlier | ⟨rfl, below⟩
  · exact append_lt_of_lt lengths earlier _ _
  · exact List.append_left_lt (List.cons_lt_cons_self.mpr (fixedDigits_lt below fits))

/-! ## Dates -/

/-- A quotient grows by one at a multiple. -/
theorem div_succ (number divisor : Nat) :
    (number + 1) / divisor = number / divisor + if (number + 1) % divisor = 0 then 1 else 0 := by
  rw [Nat.succ_div]
  exact congrArg (number / divisor + ·) (if_congr Nat.dvd_iff_mod_eq_zero rfl rfl)

/-- A year is as long as the calendar says. -/
theorem daysBeforeYear_succ {year : Nat} (first : 1 ≤ year) :
    daysBeforeYear (year + 1) = daysBeforeYear year + if isLeap year then 366 else 365 := by
  obtain ⟨before, rfl⟩ := Nat.exists_eq_add_of_le' first
  have fours : (before + 1) % 100 = 0 → (before + 1) % 4 = 0 := by omega
  have centuries : (before + 1) % 400 = 0 → (before + 1) % 100 = 0 := by omega
  have less : before / 100 ≤ before / 4 := Nat.div_le_div_left (by decide) (by decide)
  unfold daysBeforeYear isLeap
  rw [Nat.add_sub_cancel, Nat.add_sub_cancel, div_succ, div_succ, div_succ]
  generalize before / 4 = quarter, before / 100 = century, before / 400 = cycle at *
  by_cases four : (before + 1) % 4 = 0 <;> by_cases hundred : (before + 1) % 100 = 0 <;>
    by_cases long : (before + 1) % 400 = 0 <;> simp [four, hundred, long] <;> grind

/-- Later years begin later. -/
theorem daysBeforeYear_le {left right : Nat} (first : 1 ≤ left) (below : left ≤ right) :
    daysBeforeYear left ≤ daysBeforeYear right := by
  induction right, below using Nat.le_induction with
  | base => exact Nat.le_refl _
  | succ right later ih =>
    rw [daysBeforeYear_succ (by omega)]
    omega

/-- A month ends before a later one begins. -/
theorem month_ends_before (leap : Bool) {month later : Nat} (first : 1 ≤ month) (last : later ≤ 12)
    (below : month < later) :
    dayOfYear leap month (daysInMonth leap month) < dayOfYear leap later 1 := by
  have table : ∀ leap : Bool, ∀ month later : Fin 13, 1 ≤ month.val → month.val < later.val →
      dayOfYear leap month (daysInMonth leap month) < dayOfYear leap later 1 := by decide
  exact table leap ⟨month, by omega⟩ ⟨later, by omega⟩ first below

/-- A day of the year is before the end of the year. -/
theorem dayOfYear_bound (leap : Bool) {month : Nat} (first : 1 ≤ month) (last : month ≤ 12) :
    dayOfYear leap month (daysInMonth leap month) < if leap then 366 else 365 := by
  have table : ∀ leap : Bool, ∀ month : Fin 13, 1 ≤ month.val →
      dayOfYear leap month (daysInMonth leap month) < if leap then 366 else 365 := by decide
  exact table leap ⟨month, by omega⟩ first

/-- A day of a month is at most as late as the last one. -/
theorem dayOfYear_le (leap : Bool) (month : Nat) {day day' : Nat} (below : day ≤ day') :
    dayOfYear leap month day ≤ dayOfYear leap month day' := by
  unfold dayOfYear
  omega

/-- The earlier of two dates has the earlier year, or month of the year, or day of the month. -/
theorem Date.fields_lt {left right : Date} (leftValid : left.Valid) (rightValid : right.Valid)
    (below : left.dayNumber < right.dayNumber) :
    left.year < right.year ∨ left.year = right.year ∧
      (left.month < right.month ∨ left.month = right.month ∧ left.day < right.day) := by
  obtain ⟨year, -, month, months, day, days⟩ := leftValid
  obtain ⟨year', -, month', months', day', days'⟩ := rightValid
  have begins : ∀ leap month day, dayOfYear leap month 1 ≤ dayOfYear leap month day := by
    intro leap month day
    unfold dayOfYear
    omega
  unfold Date.dayNumber at below
  rcases Nat.lt_trichotomy left.year right.year with earlier | same | later
  · exact Or.inl earlier
  · refine Or.inr ⟨same, ?_⟩
    rw [same] at below days
    rcases Nat.lt_trichotomy left.month right.month with earlier | equal | later
    · exact Or.inl earlier
    · refine Or.inr ⟨equal, ?_⟩
      rw [equal] at below
      by_contra late
      have := dayOfYear_le (isLeap right.year) right.month
        (Nat.le_of_not_lt late)
      omega
    · have ends := month_ends_before (isLeap right.year) month' months later
      have upto := dayOfYear_le (isLeap right.year) right.month days'
      have from' := begins (isLeap right.year) left.month left.day
      omega
  · have next := daysBeforeYear_le (show 1 ≤ right.year + 1 by omega)
      (show right.year + 1 ≤ left.year from later)
    rw [daysBeforeYear_succ year'] at next
    have ends := dayOfYear_bound (isLeap right.year) month' months'
    have upto := dayOfYear_le (isLeap right.year) right.month days'
    omega

/-! ## Timestamps -/

namespace Instant

/-- The seconds since year one. -/
def seconds (instant : Instant) : Nat := instant.micros / 1000000

/-- The date of an instant as text. -/
def dateText (instant : Instant) : PyStr :=
  fixedDigits 4 instant.date.year ++ (45 :: fixedDigits 2 instant.date.month) ++
    (45 :: fixedDigits 2 instant.date.day)

/-- An instant as text up to the second. -/
def secondText (instant : Instant) : PyStr :=
  instant.dateText ++ (84 :: fixedDigits 2 (instant.seconds / 3600 % 24)) ++
    (58 :: fixedDigits 2 (instant.seconds / 60 % 60)) ++
    (58 :: fixedDigits 2 (instant.seconds % 60))

/-- The end of the text: the fraction, when there is one, and the letter. -/
def endText (instant : Instant) : PyStr :=
  (if instant.microsecond = 0 then [] else 46 :: fixedDigits 6 instant.microsecond) ++ [90]

/-- The text of an instant in two parts. -/
theorem utcIso_parts (instant : Instant) :
    instant.utcIso = instant.secondText ++ instant.endText := instant.utcIso_digits

@[simp] theorem length_dateText (instant : Instant) : instant.dateText.length = 10 := by
  simp [dateText]

@[simp] theorem length_secondText (instant : Instant) : instant.secondText.length = 19 := by
  simp [secondText]

/-- The date of an instant is the one of its day. -/
theorem dateText_congr {left right : Instant}
    (same : left.micros / dayMicros = right.micros / dayMicros) :
    left.dateText = right.dateText := by
  unfold dateText Instant.date
  rw [same]

/-- Earlier days have smaller texts. -/
theorem dateText_lt {left right : Instant}
    (below : left.micros / dayMicros < right.micros / dayMicros) :
    left.dateText < right.dateText := by
  obtain ⟨leftValid, leftDay⟩ := left.date_valid
  obtain ⟨rightValid, rightDay⟩ := right.date_valid
  have order := Date.fields_lt leftValid rightValid (by rw [leftDay, rightDay]; exact below)
  obtain ⟨-, years, -, months, -, days⟩ := rightValid
  have short := daysInMonth_le (isLeap right.date.year) right.date.month
  have year : right.date.year < 10 ^ 4 := by omega
  have month : right.date.month < 10 ^ 2 := by omega
  have day : right.date.day < 10 ^ 2 := by omega
  unfold dateText
  refine field_lt (by simp) ?_ day
  rcases order with earlier | ⟨same, earlier | ⟨equal, earlier⟩⟩
  · exact Or.inl (append_lt_of_lt (by simp) (fixedDigits_lt earlier year) _ _)
  · rw [same]
    exact Or.inl (field_lt rfl (Or.inr ⟨rfl, earlier⟩) month)
  · rw [same, equal]
    exact Or.inr ⟨rfl, earlier⟩

/-- Instants of one second have one text up to the second. -/
theorem secondText_congr {left right : Instant} (same : left.seconds = right.seconds) :
    left.secondText = right.secondText := by
  have days : left.micros / dayMicros = right.micros / dayMicros := by
    unfold seconds at same
    unfold dayMicros
    omega
  unfold secondText
  rw [dateText_congr days, same]

/-- Earlier seconds have smaller texts. -/
theorem secondText_lt {left right : Instant} (below : left.seconds < right.seconds) :
    left.secondText < right.secondText := by
  have order : left.micros / dayMicros < right.micros / dayMicros ∨
      left.micros / dayMicros = right.micros / dayMicros ∧
        (left.seconds / 3600 % 24 < right.seconds / 3600 % 24 ∨
          left.seconds / 3600 % 24 = right.seconds / 3600 % 24 ∧
            (left.seconds / 60 % 60 < right.seconds / 60 % 60 ∨
              left.seconds / 60 % 60 = right.seconds / 60 % 60 ∧
                left.seconds % 60 < right.seconds % 60)) := by
    unfold seconds at below ⊢
    unfold dayMicros
    omega
  have hour : right.seconds / 3600 % 24 < 10 ^ 2 :=
    Nat.lt_trans (Nat.mod_lt _ (by decide)) (by decide)
  have minute : right.seconds / 60 % 60 < 10 ^ 2 :=
    Nat.lt_trans (Nat.mod_lt _ (by decide)) (by decide)
  have second : right.seconds % 60 < 10 ^ 2 := Nat.lt_trans (Nat.mod_lt _ (by decide)) (by decide)
  unfold secondText
  refine field_lt (by simp) ?_ second
  rcases order with day | ⟨day, order⟩
  · exact Or.inl (field_lt (by simp) (Or.inl (field_lt (by simp) (Or.inl (dateText_lt day)) hour))
      minute)
  · rw [dateText_congr day]
    rcases order with earlier | ⟨same, earlier | ⟨equal, earlier⟩⟩
    · exact Or.inl (field_lt (by simp) (Or.inl (field_lt rfl (Or.inr ⟨rfl, earlier⟩) hour)) minute)
    · rw [same]
      exact Or.inl (field_lt rfl (Or.inr ⟨rfl, earlier⟩) minute)
    · rw [same, equal]
      exact Or.inr ⟨rfl, earlier⟩

/-- The ends of two texts of one second are ordered unless the first has no fraction. -/
theorem endText_lt_iff {left right : Instant} (below : left.microsecond < right.microsecond) :
    left.endText < right.endText ↔ left.microsecond ≠ 0 := by
  have some' : right.microsecond ≠ 0 := by omega
  unfold endText
  rw [if_neg some']
  by_cases whole : left.microsecond = 0
  · rw [if_pos whole]
    refine ⟨fun less => ?_, fun fraction => absurd whole fraction⟩
    rcases List.cons_lt_cons_iff.mp less with first | ⟨same, -⟩
    · omega
    · omega
  · rw [if_neg whole]
    refine ⟨fun _ => whole, fun _ => ?_⟩
    exact List.cons_lt_cons_self.mpr (append_lt_of_lt (by simp)
      (fixedDigits_lt below (Nat.mod_lt _ (by decide))) _ _)

/-- Of two instants the earlier one has the smaller text, unless both lie in one second and the
earlier one has no fraction. -/
theorem utcIso_lt_iff {left right : Instant} (below : left.micros < right.micros) :
    left.utcIso < right.utcIso ↔ ¬ (left.seconds = right.seconds ∧ left.microsecond = 0) := by
  rw [utcIso_parts, utcIso_parts]
  by_cases same : left.seconds = right.seconds
  · have fraction : left.microsecond < right.microsecond := by
      unfold seconds at same
      unfold microsecond
      omega
    rw [secondText_congr same]
    constructor
    · intro less whole
      refine absurd ?_ (lt_asymm less)
      refine List.append_left_lt (lt_of_le_of_ne (not_lt.mp fun smaller => ?_) fun equal => ?_)
      · exact (endText_lt_iff fraction).mp smaller whole.2
      · rw [equal] at less
        exact lt_irrefl _ less
    · intro apart
      exact List.append_left_lt ((endText_lt_iff fraction).mpr fun whole => apart ⟨same, whole⟩)
  · have earlier : left.seconds < right.seconds := by
      unfold seconds at same ⊢
      omega
    exact iff_of_true (append_lt_of_lt (by simp) (secondText_lt earlier) _ _)
      fun both => same both.1

end Instant

end Python
