import PaymentsPlatform.Python.Rounding

/-!
# Rounding to a fixed number of decimal places

`value.quantize(Decimal(1).scaleb(-scale))` described over the rational numbers: the result is the
nearest multiple of the last place, the even one of two, and fails only when that multiple has more
digits than the context holds.
-/

namespace Python

/-- The natural number nearest to a rational one, the even one of two. -/
structure NearestEven (exactly : ℚ) (rounded : Nat) : Prop where
  /-- No other number is closer. -/
  close : |exactly - rounded| ≤ 1 / 2
  /-- Between two numbers the even one is taken. -/
  even : |exactly - rounded| = 1 / 2 → Even rounded

namespace NearestEven

/-- A natural number is nearest to itself only. -/
theorem eq_of_natCast {number rounded : Nat} (nearest : NearestEven number rounded) :
    rounded = number := by
  have close := abs_le.mp nearest.close
  have below : (rounded : ℚ) < number + 1 := by linarith
  have above : (number : ℚ) < rounded + 1 := by linarith
  have below' : rounded < number + 1 := by exact_mod_cast below
  have above' : number < rounded + 1 := by exact_mod_cast above
  omega

/-- A natural number is nearest to itself. -/
theorem natCast (number : Nat) : NearestEven number number where
  close := by simp
  even := by
    intro tie
    rw [sub_self, abs_zero] at tie
    norm_num at tie

/-- The rounded number reaches an even bound when the exact one comes within one half of it. -/
theorem even_le_iff {exactly : ℚ} {rounded bound : Nat} (nearest : NearestEven exactly rounded)
    (even : Even bound) : bound ≤ rounded ↔ (bound : ℚ) - 1 / 2 ≤ exactly := by
  have close := abs_le.mp nearest.close
  constructor
  · intro reached
    have reached' : (bound : ℚ) ≤ rounded := by exact_mod_cast reached
    linarith
  · intro near
    by_contra short
    have short' : rounded + 1 ≤ bound := by omega
    have room : (rounded : ℚ) + 1 ≤ bound := by exact_mod_cast short'
    -- the exact number is half a unit above the rounded one and half a unit below the bound
    have tie : exactly - rounded = 1 / 2 := by linarith
    have odd : Even rounded := nearest.even (by rw [tie]; norm_num)
    have next : bound = rounded + 1 := by
      have above : (bound : ℚ) < rounded + 2 := by linarith
      have above' : bound < rounded + 2 := by exact_mod_cast above
      omega
    rw [next, Nat.even_add_one] at even
    exact even odd

end NearestEven

/-- `roundHalfEven` gives the nearest number. -/
theorem roundHalfEven_nearest (numerator : Nat) {denominator : Nat} (positive : 0 < denominator) :
    NearestEven ((numerator : ℚ) / denominator) (roundHalfEven numerator denominator) := by
  have denominatorPositive : (0 : ℚ) < denominator := by exact_mod_cast positive
  have split : (numerator : ℚ) = denominator * (numerator / denominator : Nat) +
      (numerator % denominator : Nat) := by
    exact_mod_cast (Nat.div_add_mod numerator denominator).symm
  have rest : ((numerator % denominator : Nat) : ℚ) < denominator := by
    exact_mod_cast Nat.mod_lt numerator positive
  unfold roundHalfEven
  generalize numerator / denominator = quotient at *
  generalize numerator % denominator = remainder at *
  have nonnegative : (0 : ℚ) ≤ remainder := Nat.cast_nonneg _
  have fraction : (numerator : ℚ) / denominator = quotient + remainder / denominator := by
    rw [split, add_div, mul_div_cancel_left₀ _ denominatorPositive.ne']
  dsimp only
  split
  · -- rounded down: the remainder is at most half of the denominator
    rename_i down
    have half : (remainder : ℚ) / denominator ≤ 1 / 2 := by
      rw [div_le_div_iff₀ denominatorPositive (by norm_num)]
      have twice : 2 * remainder ≤ denominator := by omega
      have twice' : (2 * remainder : ℚ) ≤ denominator := by exact_mod_cast twice
      linarith
    have distance : |(numerator : ℚ) / denominator - quotient| = remainder / denominator := by
      rw [fraction, add_sub_cancel_left,
        abs_of_nonneg (div_nonneg nonnegative denominatorPositive.le)]
    refine ⟨by rw [distance]; exact half, fun tie => ?_⟩
    rw [distance, div_eq_div_iff denominatorPositive.ne' (by norm_num)] at tie
    have same : 2 * remainder = denominator := by
      have same' : (2 * remainder : ℚ) = denominator := by linarith
      exact_mod_cast same'
    rw [Nat.even_iff]
    omega
  · -- rounded up: the remainder is at least half of the denominator
    rename_i up
    have half : 1 / 2 ≤ (remainder : ℚ) / denominator := by
      rw [div_le_div_iff₀ (by norm_num) denominatorPositive]
      have twice : denominator ≤ 2 * remainder := by omega
      have twice' : (denominator : ℚ) ≤ 2 * remainder := by exact_mod_cast twice
      linarith
    have below : (remainder : ℚ) / denominator < 1 := by
      rw [div_lt_iff₀ denominatorPositive, one_mul]
      exact rest
    have distance : |(numerator : ℚ) / denominator - (quotient + 1 : Nat)| =
        1 - remainder / denominator := by
      have shape : (numerator : ℚ) / denominator - (quotient + 1 : Nat) =
          -(1 - remainder / denominator) := by
        rw [fraction]
        push_cast
        ring
      rw [shape, abs_neg, abs_of_nonneg (by linarith)]
    refine ⟨by rw [distance]; linarith, fun tie => ?_⟩
    rw [distance] at tie
    have tie' : (remainder : ℚ) / denominator = 1 / 2 := by linarith
    rw [div_eq_div_iff denominatorPositive.ne' (by norm_num)] at tie'
    have same : 2 * remainder = denominator := by
      have same' : (2 * remainder : ℚ) = denominator := by linarith
      exact_mod_cast same'
    rw [Nat.even_add_one, Nat.even_iff]
    omega

namespace Decimal

/-- The number a decimal stands for. -/
def toRat (value : Decimal) : ℚ := value.signed * 10 ^ value.exponent

/-- The magnitude in units of the last of so many decimal places. -/
def magnitude (value : Decimal) (scale : Nat) : ℚ :=
  value.coefficient * 10 ^ (value.exponent + scale)

/-- The magnitude is not negative. -/
theorem magnitude_nonneg (value : Decimal) (scale : Nat) : 0 ≤ value.magnitude scale := by
  unfold magnitude
  positivity

/-- The magnitude in units is the number without its sign, times the power of ten. -/
theorem magnitude_eq_abs (value : Decimal) (scale : Nat) :
    value.magnitude scale = |value.toRat| * 10 ^ scale := by
  have signless : |(value.signed : ℚ)| = value.coefficient := by
    unfold signed
    cases value.negative
    · simp
    · simp
  unfold magnitude toRat
  rw [abs_mul, signless, abs_of_pos (by positivity), zpow_add₀ (by norm_num), zpow_natCast]
  ring

/-- A number of decimal places in units of the last of them. -/
theorem magnitude_places (negative : Bool) (coefficient scale : Nat) :
    (⟨negative, coefficient, -scale⟩ : Decimal).magnitude scale = coefficient := by
  simp [magnitude]

/-- The digits of a coefficient bound it. -/
theorem coefficient_lt (value : Decimal) : value.coefficient < 10 ^ value.digitCount := by
  have positive : 0 < value.digitCount := by
    unfold digitCount natText
    rw [List.length_map]
    exact Nat.length_toDigits_pos
  exact (natText_length_le positive).mp (Nat.le_refl _)

/-- `quantize` rounds to the nearest multiple of the last place and fails when it has more digits
than the context holds. -/
theorem quantize_spec (value : Decimal) (scale : Nat) :
    ∃ rounded, NearestEven (value.magnitude scale) rounded ∧
      value.quantize scale =
        if rounded < 10 ^ contextPrecision then some ⟨value.negative, rounded, -scale⟩
        else none := by
  have fits : ∀ coefficient, (if contextPrecision < (natText coefficient).length then none
      else some (⟨value.negative, coefficient, -scale⟩ : Decimal)) =
      if coefficient < 10 ^ contextPrecision then some ⟨value.negative, coefficient, -scale⟩
      else none := by
    intro coefficient
    by_cases small : coefficient < 10 ^ contextPrecision
    · have short := (natText_length_le (by decide)).mpr small
      rw [if_pos small, if_neg (Nat.not_lt.mpr short)]
    · have long := mt (@natText_length_le coefficient contextPrecision (by decide)).mp small
      rw [if_neg small, if_pos (Nat.not_le.mp long)]
  unfold quantize
  dsimp only
  by_cases zero : value.coefficient = 0
  · have none_left : value.magnitude scale = (0 : Nat) := by simp [magnitude, zero]
    exact ⟨0, none_left ▸ NearestEven.natCast 0, by rw [if_pos zero, fits]⟩
  rw [if_neg zero]
  by_cases up : 0 ≤ value.exponent + scale
  · -- a multiple of the last place
    obtain ⟨shift, shifted⟩ := Int.eq_ofNat_of_zero_le up
    have whole : value.magnitude scale = (value.coefficient * 10 ^ shift : Nat) := by
      unfold magnitude
      rw [shifted, zpow_natCast]
      push_cast
      rfl
    refine ⟨value.coefficient * 10 ^ shift, whole ▸ NearestEven.natCast _, ?_⟩
    rw [shifted, if_pos (Int.natCast_nonneg shift), Int.toNat_natCast, fits]
    by_cases long : (contextPrecision : Int) < (shift : Int)
    · have large : 10 ^ contextPrecision ≤ value.coefficient * 10 ^ shift :=
        (Nat.pow_le_pow_right (by decide) (by omega)).trans
          (Nat.le_mul_of_pos_left _ (Nat.pos_of_ne_zero zero))
      rw [if_pos long, if_neg (Nat.not_lt.mpr large)]
    · rw [if_neg long]
  · obtain ⟨drop, dropped⟩ : ∃ drop : Nat, value.exponent + scale = -(drop : Int) :=
      ⟨(-(value.exponent + scale)).toNat, by omega⟩
    have quotient : value.magnitude scale = (value.coefficient : ℚ) / (10 ^ drop : Nat) := by
      unfold magnitude
      rw [dropped, zpow_neg, zpow_natCast]
      push_cast
      rw [div_eq_mul_inv]
    rw [if_neg (by unfold contextPrecision; omega), if_neg up, dropped, neg_neg,
      Int.toNat_natCast]
    by_cases tiny : (value.digitCount : Int) < drop
    · -- less than a tenth of the last place
      have room : value.digitCount + 1 ≤ drop := by omega
      have below : 10 * value.coefficient ≤ 10 ^ drop := by
        have digits := value.coefficient_lt
        calc 10 * value.coefficient ≤ 10 * 10 ^ value.digitCount := by omega
          _ = 10 ^ (value.digitCount + 1) := by rw [Nat.pow_succ, Nat.mul_comm]
          _ ≤ 10 ^ drop := Nat.pow_le_pow_right (by decide) room
      have positive : (0 : ℚ) < (10 ^ drop : Nat) := by positivity
      have small : value.magnitude scale ≤ 1 / 10 := by
        rw [quotient, div_le_div_iff₀ positive (by norm_num)]
        have below' : (10 * value.coefficient : ℚ) ≤ (10 ^ drop : Nat) := by exact_mod_cast below
        linarith
      have nonnegative := value.magnitude_nonneg scale
      have distance : |value.magnitude scale - (0 : Nat)| = value.magnitude scale := by
        rw [Nat.cast_zero, sub_zero, abs_of_nonneg nonnegative]
      refine ⟨0, ⟨by rw [distance]; linarith, fun _ => ⟨0, rfl⟩⟩, ?_⟩
      rw [if_pos tiny, fits]
    · refine ⟨roundHalfEven value.coefficient (10 ^ drop), ?_, ?_⟩
      · rw [quotient]
        exact roundHalfEven_nearest _ (Nat.pow_pos (by decide))
      · rw [if_neg tiny, fits]

/-- A number with no more decimal places than the scale is not changed, if it fits. -/
theorem quantize_exact {value : Decimal} {scale units : Nat}
    (exactly : value.magnitude scale = units) (small : units < 10 ^ contextPrecision) :
    value.quantize scale = some ⟨value.negative, units, -scale⟩ := by
  obtain ⟨rounded, nearest, quantized⟩ := value.quantize_spec scale
  rw [exactly] at nearest
  obtain rfl := nearest.eq_of_natCast
  rw [quantized, if_pos small]

/-- Numbers of the same sign with the same magnitude are the same. -/
theorem toRat_eq_of_magnitude {left right : Decimal} (scale : Nat)
    (sign : left.negative = right.negative)
    (same : left.magnitude scale = right.magnitude scale) : left.toRat = right.toRat := by
  have power : (10 : ℚ) ^ scale ≠ 0 := by positivity
  have signless : ∀ value : Decimal, value.toRat * 10 ^ scale =
      (if value.negative then -1 else 1) * value.magnitude scale := by
    intro value
    unfold toRat magnitude signed
    rw [zpow_add₀ (by norm_num), zpow_natCast]
    cases value.negative
    · simp [mul_assoc]
    · simp [mul_assoc]
  apply mul_right_cancel₀ power
  rw [signless, signless, sign, same]

end Decimal

end Python
