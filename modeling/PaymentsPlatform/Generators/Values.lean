import PaymentsPlatform.Cdc.Identity
import PaymentsPlatform.Collections.Traversal
import PaymentsPlatform.Generators.Schema
import PaymentsPlatform.Python.Encoding

/-!
# Texts and amounts of the generator

What the columns of a generated row need of its texts and amounts: the texts are short, in ASCII,
and tell their indexes apart, and the amounts keep their cents.
-/

namespace Generators

open Python Payments Cdc

/-! ## Texts -/

/-- A text in ASCII without the character NUL. -/
def Plain (text : PyStr) : Prop := ∀ code ∈ text, 0 < code ∧ code < 128

instance (text : PyStr) : Decidable (Plain text) := inferInstanceAs (Decidable (∀ _ ∈ _, _))

/-- Two plain texts. -/
theorem Plain.append {left right : PyStr} (first : Plain left) (second : Plain right) :
    Plain (left ++ right) := by
  intro code member
  rcases List.mem_append.mp member with here | there
  · exact first code here
  · exact second code there

/-- Digits are plain. -/
theorem plain_natText (number : Nat) : Plain (natText number) := by
  intro code member
  have := natText_digits member
  omega

/-- Padded digits are plain. -/
theorem plain_padded (width number : Nat) : Plain (padded width number) := by
  intro code member
  have := padded_digits member
  omega

/-- The text of an integer is plain. -/
theorem plain_intText (number : Int) : Plain (intText number) := by
  cases number with
  | ofNat number => exact plain_natText number
  | negSucc number => exact Plain.append (by decide) (plain_natText _)

/-- The padded text of an integer is plain. -/
theorem plain_paddedInt (width : Nat) (number : Int) : Plain (paddedInt width number) := by
  cases number with
  | ofNat number => exact plain_padded width number
  | negSucc number => exact Plain.append (by decide) (plain_padded _ _)

/-- A plain text fits into a column that is wide enough. -/
theorem isVarchar_of_plain {most : Nat} {text : PyStr} (plain : Plain text)
    (fits : text.length ≤ most) : isVarchar most text = true := by
  have ascii : encodable text = true := encodable_of_lt fun code member => by
    have := plain code member
    omega
  have visible : text.contains 0 = false := by
    rw [List.contains_eq_mem, decide_eq_false_iff_not]
    intro member
    exact absurd (plain 0 member).1 (by decide)
  simp only [isVarchar, fits, decide_true, ascii, visible, Bool.not_false, Bool.and_self]

/-- A number below a power of ten has at most so many digits. -/
theorem natText_length {number width : Nat} (positive : 0 < width) (small : number < 10 ^ width) :
    (natText number).length ≤ width := (natText_length_le positive).mpr small

/-- A padded number has its width, or as many digits as it needs. -/
theorem padded_length (width : Nat) {number most : Nat} (wide : width ≤ most) (positive : 0 < most)
    (small : number < 10 ^ most) : (padded width number).length ≤ most := by
  unfold padded
  split
  · rw [length_fixedDigits]
    exact wide
  · exact natText_length positive small

/-- A number that fits is padded to its width. -/
theorem padded_length_eq {width number : Nat} (small : number < 10 ^ width) :
    (padded width number).length = width := by
  rw [padded_of_lt small, length_fixedDigits]

/-- The text of an integer is no longer than its padded text. -/
theorem intText_length_le (number : Int) :
    (intText number).length ≤ (paddedInt 6 number).length := by
  have digits : ∀ width number : Nat, 0 < width →
      (natText number).length ≤ (padded width number).length := by
    intro width number positive
    unfold padded
    split
    · rename_i small
      rw [length_fixedDigits]
      exact natText_length positive small
    · exact Nat.le_refl _
  cases number with
  | ofNat number => exact digits 6 number (by decide)
  | negSucc number =>
    simp only [intText, paddedInt, List.length_append]
    exact Nat.add_le_add_left (digits 5 (number + 1) (by decide)) _

/-- Digits with leading zeros determine the number. -/
theorem fixedDigits_injective (width : Nat) {left right : Nat} (leftFits : left < 10 ^ width)
    (rightFits : right < 10 ^ width) (same : fixedDigits width left = fixedDigits width right) :
    left = right := by
  induction width generalizing left right with
  | zero => omega
  | succ width ih =>
    rw [fixedDigits, fixedDigits] at same
    obtain ⟨high, low⟩ := List.append_inj' same rfl
    have leftHigh : left / 10 < 10 ^ width := by
      rw [Nat.pow_succ] at leftFits
      omega
    have rightHigh : right / 10 < 10 ^ width := by
      rw [Nat.pow_succ] at rightFits
      omega
    have quotients := ih leftHigh rightHigh high
    have remainders : 48 + left % 10 = 48 + right % 10 := by simpa using low
    omega

/-- A padded number is determined by its text. -/
theorem padded_injective {width left right : Nat} (positive : 0 < width)
    (same : padded width left = padded width right) : left = right := by
  have lengths := congrArg List.length same
  by_cases leftFits : left < 10 ^ width
  · by_cases rightFits : right < 10 ^ width
    · rw [padded_of_lt leftFits, padded_of_lt rightFits] at same
      exact fixedDigits_injective width leftFits rightFits same
    · -- the digits of the other number are too many
      rw [padded_length_eq leftFits, padded, if_neg rightFits] at lengths
      exact absurd ((natText_length_le positive).mp lengths.ge) rightFits
  · by_cases rightFits : right < 10 ^ width
    · rw [padded_length_eq rightFits, padded, if_neg leftFits] at lengths
      exact absurd ((natText_length_le positive).mp lengths.le) leftFits
    · rw [padded, if_neg leftFits, padded, if_neg rightFits] at same
      exact natText_injective same

/-! ## Names -/

/-- A name is determined by its index. -/
theorem stableName_injective {seed : Int} {entity : PyStr} {left right : Nat}
    (same : stableName seed entity left = stableName seed entity right) : left = right :=
  natText_injective (List.append_cancel_left same)

/-- The name of an event is determined by the indexes of its transaction and of itself. -/
theorem eventName_injective {seed : Int} {left right one two : Nat}
    (same : stableName seed (py "transaction-event-" ++ natText left) one =
      stableName seed (py "transaction-event-" ++ natText right) two) :
    left = right ∧ one = two := by
  unfold stableName at same
  simp only [List.append_assoc, List.append_cancel_left_eq] at same
  have colon : ∀ number, 58 ∉ natText number := by
    intro number member
    have := natText_digits member
    omega
  obtain ⟨indexes, sequences⟩ := append_separator_inj (colon left) (colon right) same
  exact ⟨natText_injective indexes, natText_injective sequences⟩

/-! ## Amounts -/

/-- An amount of cents is the number of cents with two places. -/
theorem moneyFromCents_ok {cents : Nat} (small : cents < 10 ^ 18) :
    moneyFromCents cents = .ok (Decimal.ofCents cents) := by
  have digits : (natText cents).length ≤ 18 := natText_length (by decide) small
  have whole : roundHalfEven cents (10 ^ 0) = cents := by
    simp [roundHalfEven, Nat.mod_one]
  have short : (natText cents).length - Decimal.contextPrecision = 0 := by
    unfold Decimal.contextPrecision
    omega
  have kept : ¬ Decimal.contextPrecision < (natText cents).length := by
    unfold Decimal.contextPrecision
    omega
  have scaled : Decimal.scaled cents 2 = ⟨false, cents, -2⟩ := by
    have natural : Decimal.ofInt (cents : Int) = ⟨false, cents, 0⟩ := by
      simp [Decimal.ofInt]
    simp only [Decimal.scaled, natural, Decimal.digitCount, short, whole, if_neg kept]
    rfl
  have quantized : (⟨false, cents, -2⟩ : Decimal).quantize 2 = some ⟨false, cents, -2⟩ := by
    by_cases zero : cents = 0
    · subst zero
      decide
    · simp only [Decimal.quantize, zero, if_false]
      simp [Decimal.contextPrecision] at kept ⊢
      omega
  rw [moneyFromCents, scaled, quantized]
  rfl

/-- A number of few digits stays as it is in the context. -/
theorem contextRound_exact {coefficient : Nat} (small : coefficient < 10 ^ 18) (exponent : Int) :
    Decimal.contextRound false coefficient exponent = ⟨false, coefficient, exponent⟩ := by
  have digits : (natText coefficient).length ≤ 18 := natText_length (by decide) small
  have short : (natText coefficient).length - Decimal.contextPrecision = 0 := by
    unfold Decimal.contextPrecision
    omega
  have kept : ¬ Decimal.contextPrecision < (natText coefficient).length := by
    unfold Decimal.contextPrecision
    omega
  have whole : roundHalfEven coefficient (10 ^ 0) = coefficient := by
    simp [roundHalfEven, Nat.mod_one]
  simp only [Decimal.contextRound, short, whole, if_neg kept]
  simp

/-- The refund of an amount is positive and at most the amount. -/
theorem refundAmount_ok {cents : Nat} (enough : 100 ≤ cents) (small : cents ≤ 500000) :
    ∃ quarter, refundAmount (Decimal.ofCents cents) = .ok (Decimal.ofCents quarter) ∧
      0 < quarter ∧ quarter ≤ cents := by
  obtain ⟨low, high⟩ := roundHalfEven_bounds (cents * 25) 100
  refine ⟨roundHalfEven (cents * 25) 100, ?_, by omega, by omega⟩
  have digits : (natText (roundHalfEven (cents * 25) 100)).length ≤ 18 :=
    natText_length (by decide) (by omega)
  have size : 4 ≤ (natText (cents * 25)).length := by
    by_contra few
    have three : (natText (cents * 25)).length ≤ 3 := by omega
    have bound := (natText_length_le (by decide)).mp three
    omega
  have product : Decimal.contextRound (Decimal.ofCents cents).negative
      ((Decimal.ofCents cents).coefficient * 25) ((Decimal.ofCents cents).exponent - 2) =
        ⟨false, cents * 25, -4⟩ :=
    have fits : cents * 25 < 10 ^ 18 := by omega
    contextRound_exact fits _
  have rounded : (⟨false, cents * 25, -4⟩ : Decimal).quantize 2 =
      some (Decimal.ofCents (roundHalfEven (cents * 25) 100)) := by
    have nonzero : cents * 25 ≠ 0 := by omega
    have kept : ¬ Decimal.contextPrecision <
        (natText (roundHalfEven (cents * 25) 100)).length := by
      unfold Decimal.contextPrecision
      omega
    have long : ¬ (((natText (cents * 25)).length : Nat) : Int) < 2 := by omega
    have places : ((-4 : Int) + (2 : Nat)) = -2 := by decide
    simp only [Decimal.quantize, places, nonzero, if_false, Decimal.digitCount]
    rw [if_neg (by decide), if_neg (by decide), if_neg (by omega)]
    exact if_neg kept
  have above : (Decimal.ofCents 1).less (Decimal.ofCents (roundHalfEven (cents * 25) 100)) =
      true := by
    have more : 1 < roundHalfEven (cents * 25) 100 := by omega
    simpa [Decimal.less, Decimal.unitsOf, Decimal.ofCents, Decimal.signed] using more
  rw [refundAmount, product, rounded]
  simp only [above, if_true]

end Generators
