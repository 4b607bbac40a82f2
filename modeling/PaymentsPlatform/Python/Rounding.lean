import PaymentsPlatform.Python.Decimal

/-!
# Sums of decimal numbers

`left + right` in the default context, which keeps 28 digits, comparisons, which are exact, and the
coercion of a number to a column of two decimal places. Rounding the sum cannot hide an amount that
is too large by a cent: `less_add_of_cents`.
-/

namespace Python

/-- The number of digits of a number. -/
theorem natText_length_le {number width : Nat} (positive : 0 < width) :
    (natText number).length ≤ width ↔ number < 10 ^ width := by
  rw [natText, List.length_map]
  exact Nat.length_toDigits_le_iff (by decide) positive

/-- Rounding goes to the quotient or to the number after it. -/
theorem roundHalfEven_bounds (numerator denominator : Nat) :
    numerator / denominator ≤ roundHalfEven numerator denominator ∧
      roundHalfEven numerator denominator ≤ numerator / denominator + 1 := by
  unfold roundHalfEven
  simp only
  split
  · exact ⟨Nat.le_refl _, Nat.le_succ _⟩
  · exact ⟨Nat.le_succ _, Nat.le_refl _⟩

namespace Decimal

/-- The number of so many units of a power of ten, rounded to the digits of the context. -/
def contextRound (negative : Bool) (coefficient : Nat) (exponent : Int) : Decimal :=
  let excess := (natText coefficient).length - contextPrecision
  let rounded := roundHalfEven coefficient (10 ^ excess)
  -- rounding up to a power of ten leaves one digit too many
  if contextPrecision < (natText rounded).length then
    ⟨negative, rounded / 10, exponent + excess + 1⟩
  else ⟨negative, rounded, exponent + excess⟩

/-- The signed number of units of a power of ten that is not above its own. -/
def unitsOf (value : Decimal) (exponent : Int) : Int :=
  value.signed * 10 ^ (value.exponent - exponent).toNat

/-- `left + right`, of results inside the exponents of the context. -/
def add (left right : Decimal) : Decimal :=
  let exponent := min left.exponent right.exponent
  let sum := left.unitsOf exponent + right.unitsOf exponent
  contextRound (sum < 0) sum.natAbs exponent

/-- `left < right`. -/
def less (left right : Decimal) : Bool :=
  let exponent := min left.exponent right.exponent
  left.unitsOf exponent < right.unitsOf exponent

/-- The magnitude in cents, rounded to the nearest one, halves away from zero. -/
def cents (value : Decimal) : Nat :=
  if -2 ≤ value.exponent then value.coefficient * 10 ^ (value.exponent + 2).toNat
  else
    let unit := 10 ^ (-(value.exponent + 2)).toNat
    (2 * value.coefficient + unit) / (2 * unit)

/-- An amount of cents. -/
def ofCents (cents : Nat) : Decimal := ⟨false, cents, -2⟩

/-- The exact sum of an amount of cents and a number, in units of the lower power of ten: it is
above a limit by at least half a cent when the rounded number is above it. -/
theorem half_cent_above {total limit coefficient places : Nat}
    (past : limit < total + (2 * coefficient + 10 ^ places) / (2 * 10 ^ places)) :
    (2 * limit + 1) * 10 ^ places ≤ 2 * (total * 10 ^ places + coefficient) := by
  generalize 10 ^ places = unit at *
  have floor := Nat.div_mul_le_self (2 * coefficient + unit) (2 * unit)
  generalize (2 * coefficient + unit) / (2 * unit) = rounded at *
  have scaled : (limit + 1) * (2 * unit) ≤ (total + rounded) * (2 * unit) :=
    Nat.mul_le_mul_right _ past
  have expanded : (total + rounded) * (2 * unit) = 2 * (total * unit) + rounded * (2 * unit) := by
    ring
  have limits : (limit + 1) * (2 * unit) = (2 * limit + 1) * unit + unit := by ring
  omega

/-- A limit of cents is below a number of smaller units. -/
theorem less_fine {limit coefficient places : Nat} {exponent : Int}
    (fine : exponent = -2 - (places : Int)) (above : limit * 10 ^ places < coefficient) :
    less (ofCents limit) ⟨false, coefficient, exponent⟩ = true := by
  subst fine
  have lower : min (-2 : Int) (-2 - (places : Int)) = -2 - places := by omega
  have shift : (-2 - (-2 - (places : Int))).toNat = places := by omega
  simp only [less, unitsOf, ofCents, signed, lower, shift, Int.sub_self, Int.toNat_zero,
    Bool.false_eq_true, if_false, pow_zero, mul_one, decide_eq_true_eq]
  exact_mod_cast above

/-- A limit of cents is below a number of larger units. -/
theorem less_coarse {limit coefficient : Nat} (places : Nat) {exponent : Int}
    (coarse : exponent = -2 + (places : Int)) (above : limit < coefficient) :
    less (ofCents limit) ⟨false, coefficient, exponent⟩ = true := by
  subst coarse
  have lower : min (-2 : Int) (-2 + (places : Int)) = -2 := by omega
  have shift : (-2 + (places : Int) - -2).toNat = places := by omega
  have unit : 1 ≤ 10 ^ places := Nat.pow_pos (by decide)
  simp only [less, unitsOf, ofCents, signed, lower, shift, Int.sub_self, Int.toNat_zero,
    Bool.false_eq_true, if_false, pow_zero, mul_one, decide_eq_true_eq]
  have grown : limit < coefficient * 10 ^ places :=
    Nat.lt_of_lt_of_le above (Nat.le_mul_of_pos_right _ unit)
  exact_mod_cast grown

/-- A limit of cents is below a number of units of some power of ten. -/
theorem less_units {limit coefficient : Nat} (places dropped : Nat) {exponent : Int}
    (here : exponent = -2 - (places : Int) + dropped)
    (above : dropped ≤ places → limit * 10 ^ (places - dropped) < coefficient)
    (large : limit < coefficient) :
    less (ofCents limit) ⟨false, coefficient, exponent⟩ = true := by
  by_cases fine : dropped ≤ places
  · exact less_fine (by omega) (above fine)
  · exact less_coarse (dropped - places) (by omega) large

/-- The rounded coefficient of a sum that has more digits than the context keeps. -/
theorem rounded_above {limit sum places excess : Nat}
    (digits : 10 ^ (excess + 27) ≤ sum) (small : limit < 10 ^ 18)
    (above : (2 * limit + 1) * 10 ^ places ≤ 2 * sum) :
    10 ^ 27 ≤ sum / 10 ^ excess ∧
      (excess ≤ places → limit * 10 ^ (places - excess) < sum / 10 ^ excess) := by
  have positive : 0 < 10 ^ excess := Nat.pow_pos (by decide)
  have large : 10 ^ 27 ≤ sum / 10 ^ excess := by
    rw [Nat.le_div_iff_mul_le positive, ← pow_add, Nat.add_comm]
    exact digits
  refine ⟨large, fun fine => ?_⟩
  obtain ⟨rest, rfl⟩ := Nat.exists_eq_add_of_le fine
  rw [Nat.add_sub_cancel_left]
  cases rest with
  | zero =>
    rw [pow_zero, mul_one]
    exact Nat.lt_of_lt_of_le (Nat.lt_trans small (by decide)) large
  | succ rest =>
    rw [Nat.lt_iff_add_one_le, Nat.le_div_iff_mul_le positive]
    have shifted : 10 ^ (excess + (rest + 1)) = 10 ^ excess * (10 * 10 ^ rest) := by ring
    have grown : 1 ≤ 10 ^ rest := Nat.pow_pos (by decide)
    rw [shifted] at above
    have power : 10 ^ (rest + 1) = 10 * 10 ^ rest := by ring
    rw [power]
    generalize 10 ^ excess = unit at *
    generalize 10 ^ rest = tens at *
    have extra : unit ≤ unit * tens := Nat.le_mul_of_pos_right _ grown
    calc (limit * (10 * tens) + 1) * unit = limit * (unit * (10 * tens)) + unit := by ring
      _ ≤ limit * (unit * (10 * tens)) + 5 * (unit * tens) := by omega
      _ ≤ sum := by
        have doubled : (2 * limit + 1) * (unit * (10 * tens)) =
            2 * (limit * (unit * (10 * tens))) + 10 * (unit * tens) := by ring
        omega

/-- A sum that is above a limit of cents by half a cent is above it after rounding to the digits of
the context. -/
theorem less_contextRound {limit sum places : Nat} (small : limit < 10 ^ 18)
    (above : (2 * limit + 1) * 10 ^ places ≤ 2 * sum) :
    less (ofCents limit) (contextRound false sum (-2 - places)) = true := by
  by_cases short : (natText sum).length ≤ contextPrecision
  · -- the sum fits the context
    have excess : (natText sum).length - contextPrecision = 0 := by omega
    have same : roundHalfEven sum (10 ^ 0) = sum := by simp [roundHalfEven, Nat.mod_one]
    have exact_ : contextRound false sum (-2 - places) = ⟨false, sum, -2 - places⟩ := by
      unfold contextRound
      simp only [excess, same]
      rw [if_neg (by omega)]
      simp
    rw [exact_]
    refine less_fine rfl ?_
    have positive : 0 < 10 ^ places := Nat.pow_pos (by decide)
    generalize 10 ^ places = unit at *
    linarith
  · have longer : contextPrecision < (natText sum).length := by omega
    obtain ⟨excess, dropped⟩ : ∃ excess, (natText sum).length = contextPrecision + excess :=
      ⟨(natText sum).length - contextPrecision, by omega⟩
    have cut : (natText sum).length - contextPrecision = excess := by omega
    have digits : 10 ^ (excess + 27) ≤ sum := by
      rw [← Nat.not_lt, ← natText_length_le (by omega), dropped]
      unfold contextPrecision
      omega
    have below : sum < 10 ^ (28 + excess) := by
      rw [← natText_length_le (by omega), dropped]
      exact Nat.le_refl _
    obtain ⟨large, fine⟩ := rounded_above digits small above
    obtain ⟨low, high⟩ := roundHalfEven_bounds sum (10 ^ excess)
    have quotient : sum / 10 ^ excess < 10 ^ 28 := by
      rw [Nat.div_lt_iff_lt_mul (Nat.pow_pos (by decide)), ← pow_add]
      exact below
    unfold contextRound
    simp only [cut]
    split
    · rename_i overflow
      have full : 10 ^ 28 ≤ roundHalfEven sum (10 ^ excess) := by
        rw [← Nat.not_lt, ← natText_length_le (by decide)]
        exact Nat.not_le.mpr overflow
      have round : roundHalfEven sum (10 ^ excess) = 10 * 10 ^ 27 := by omega
      rw [round, Nat.mul_div_cancel_left _ (by decide)]
      refine less_units places (excess + 1) (by omega) ?_ (by omega)
      intro within
      have fine' := fine (by omega)
      have power : 10 ^ (places - excess) = 10 * 10 ^ (places - (excess + 1)) := by
        rw [← pow_succ']
        congr 1
        omega
      rw [power] at fine'
      have assoc : limit * (10 * 10 ^ (places - (excess + 1))) =
          10 * (limit * 10 ^ (places - (excess + 1))) := by ring
      omega
    · exact less_units places excess rfl (fun within => Nat.lt_of_lt_of_le (fine within) low)
        (Nat.lt_of_lt_of_le (Nat.lt_of_lt_of_le (Nat.lt_trans small (by decide)) large) low)

/-- The sum of an amount of cents and a number of smaller units. -/
theorem add_fine (total coefficient places : Nat) :
    add (ofCents total) ⟨false, coefficient, -2 - places⟩ =
      contextRound false (total * 10 ^ places + coefficient) (-2 - places) := by
  have lower : min (-2 : Int) (-2 - (places : Int)) = -2 - places := by omega
  have shift : (-2 - (-2 - (places : Int))).toNat = places := by omega
  have sum : (total : Int) * 10 ^ places + coefficient =
      ((total * 10 ^ places + coefficient : Nat) : Int) := by push_cast; ring
  simp only [add, unitsOf, ofCents, signed, lower, shift, Int.sub_self, Int.toNat_zero,
    Bool.false_eq_true, if_false, pow_zero, mul_one, sum, Int.natAbs_natCast]
  congr 1

/-- The sum of an amount of cents and a number of larger units. -/
theorem add_coarse (total coefficient places : Nat) :
    add (ofCents total) ⟨false, coefficient, -2 + places⟩ =
      contextRound false (total + coefficient * 10 ^ places) (-2) := by
  have lower : min (-2 : Int) (-2 + (places : Int)) = -2 := by omega
  have shift : (-2 + (places : Int) - -2).toNat = places := by omega
  have sum : (total : Int) + coefficient * 10 ^ places =
      ((total + coefficient * 10 ^ places : Nat) : Int) := by push_cast; ring
  simp only [add, unitsOf, ofCents, signed, lower, shift, Int.sub_self, Int.toNat_zero,
    Bool.false_eq_true, if_false, pow_zero, mul_one, sum, Int.natAbs_natCast]
  congr 1

/-- An amount that exceeds what a limit leaves by a cent, after rounding to cents, exceeds it in the
sum of the context too. -/
theorem less_add_of_cents {total limit : Nat} {amount : Decimal}
    (positive : amount.negative = false) (small : limit < 10 ^ 18)
    (past : limit < total + amount.cents) :
    less (ofCents limit) (add (ofCents total) amount) = true := by
  obtain ⟨negative, coefficient, exponent⟩ := amount
  obtain rfl : negative = false := positive
  by_cases coarse : -2 ≤ exponent
  · obtain ⟨places, rfl⟩ : ∃ places : Nat, exponent = -2 + places :=
      ⟨(exponent + 2).toNat, by omega⟩
    have shift : (-2 + (places : Int) + 2).toNat = places := by omega
    simp only [cents, if_pos coarse, shift] at past
    rw [add_coarse]
    have above : (2 * limit + 1) * 10 ^ 0 ≤ 2 * (total + coefficient * 10 ^ places) := by
      rw [pow_zero]
      omega
    simpa using less_contextRound small above
  · obtain ⟨places, rfl⟩ : ∃ places : Nat, exponent = -2 - places :=
      ⟨(-(exponent + 2)).toNat, by omega⟩
    have shift : (-(-2 - (places : Int) + 2)).toNat = places := by omega
    simp only [cents, if_neg coarse, shift] at past
    rw [add_fine]
    exact less_contextRound small (half_cent_above past)

example : less (ofCents 1000) (add (ofCents 999) ⟨false, 15, -3⟩) = true := by decide +kernel
example : less (ofCents 1000) (add (ofCents 999) ⟨false, 1, -2⟩) = false := by decide +kernel

end Decimal

end Python
