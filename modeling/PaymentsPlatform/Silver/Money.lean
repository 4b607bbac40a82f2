import PaymentsPlatform.Python.Encoding
import PaymentsPlatform.Python.Quantize
import PaymentsPlatform.Silver.Normalizer

/-!
# Amounts of Kafka Connect

Kafka Connect sends an amount as the base64 text of the shortest signed encoding of its cents.
`decode_decimal` tries the text as a decimal literal first. The two alphabets overlap, and a text
in both is read as the literal; such a text always encodes a negative amount, and the literal is
never negative, so the reading is wrong every time.

A literal is rounded to cents, not refused, when it has more than two decimal places. So it is
decoded exactly or refused only when it is a number of cents or too large.
-/

namespace Silver

open Python

/-- The number a decimal stands for. -/
def amount (value : Decimal) : ℚ := value.signed * 10 ^ value.exponent

/-- `decode_precise_decimal`; `none` is `EnvelopeError`. -/
def decodePreciseDecimal (encoded : PyStr) (scale : Nat) : Option Decimal := do
  let raw ← base64Decode encoded
  some (Decimal.scaled (if raw = [] then 0 else signedOfBytes raw) scale)

/-- The text Kafka Connect sends for an amount of cents. -/
def connectText (cents : Int) : PyStr := base64 (signedBytes cents)

/-- The text decodes to the amount, with both decoders. -/
def Decodes (cents : Int) : Prop :=
  ∃ decoded precise, decodeDecimal (.str (connectText cents)) = .ok decoded ∧
    amount decoded = cents / 100 ∧ decodePreciseDecimal (connectText cents) 2 = some precise ∧
    amount precise = amount decoded

/-! ## Texts that are not literals -/

/-- An integer that fits the context keeps its digits. -/
theorem scaled_of_small {cents : Int} (small : cents.natAbs < 10 ^ 18) :
    Decimal.scaled cents 2 = ⟨cents < 0, cents.natAbs, -2⟩ := by
  have digits : (natText cents.natAbs).length ≤ 18 := (natText_length_le (by decide)).mpr small
  have excess : (Decimal.ofInt cents).digitCount - Decimal.contextPrecision = 0 := by
    simp only [Decimal.digitCount, Decimal.ofInt, Decimal.contextPrecision]
    omega
  have rounded : roundHalfEven (Decimal.ofInt cents).coefficient (10 ^ 0) = cents.natAbs := by
    simp [roundHalfEven, Decimal.ofInt, Nat.mod_one]
  unfold Decimal.scaled
  simp only [excess, rounded]
  rw [if_neg (by unfold Decimal.contextPrecision; omega)]
  simp [Decimal.ofInt]

/-- Cents that fit the column are not changed by rounding to cents. -/
theorem quantize_of_small {negative : Bool} {coefficient : Nat} (small : coefficient < 10 ^ 18) :
    (⟨negative, coefficient, -2⟩ : Decimal).quantize 2 = some ⟨negative, coefficient, -2⟩ := by
  have digits : (natText coefficient).length ≤ 18 := (natText_length_le (by decide)).mpr small
  have fits : ¬ Decimal.contextPrecision < (natText coefficient).length := by
    unfold Decimal.contextPrecision
    omega
  unfold Decimal.quantize
  by_cases zero : coefficient = 0
  · subst zero
    simp only [if_true, if_neg fits]
    rfl
  · have shift : (-2 : Int) + ((2 : Nat) : Int) = 0 := rfl
    simp only [if_neg zero, shift, Int.toNat_zero, Nat.pow_zero, Nat.mul_one, le_refl, if_true,
      if_neg fits]
    rw [if_neg (by unfold Decimal.contextPrecision; omega)]
    rfl

/-- A text that is not a literal decodes to the amount. -/
theorem decodes_of_no_literal {cents : Int} (small : cents.natAbs < 10 ^ 18)
    (noLiteral : parseDecimal (connectText cents) = none) : Decodes cents := by
  have decoded : base64Decode (connectText cents) = some (signedBytes cents) :=
    base64Decode_base64 _
  obtain ⟨byte, bytes, shape⟩ : ∃ byte bytes, signedBytes cents = byte :: bytes := by
    obtain ⟨width, size, -⟩ := signedWidth_bounds cents
    refine List.exists_cons_of_ne_nil fun empty => ?_
    have length := congrArg List.length empty
    rw [signedBytes, length_bytesOfNat, size] at length
    cases length
  have number : signedOfBytes (byte :: bytes) = cents := by
    rw [← shape]
    exact signedOfBytes_signedBytes cents
  have digits : ¬ 18 < (⟨cents < 0, cents.natAbs, -2⟩ : Decimal).digitCount := by
    exact Nat.not_lt.mpr ((natText_length_le (by decide)).mpr small)
  have value : amount ⟨cents < 0, cents.natAbs, -2⟩ = cents / 100 := by
    have signed : (⟨cents < 0, cents.natAbs, -2⟩ : Decimal).signed = cents := by
      simp only [Decimal.signed, decide_eq_true_eq]
      split
      · omega
      · omega
    rw [amount, signed]
    norm_num
    ring
  refine ⟨⟨cents < 0, cents.natAbs, -2⟩, ⟨cents < 0, cents.natAbs, -2⟩, ?_, value, ?_, rfl⟩
  · unfold decodeDecimal
    simp only [noLiteral, decoded, shape, number, scaled_of_small small, bind, Except.bind,
      quantize_of_small small, if_neg digits]
  · unfold decodePreciseDecimal
    rw [decoded, shape]
    simp [number, scaled_of_small small]

/-! ## Texts that are literals -/

/-- A number keeps its sign. -/
theorem decimalOf_negative {negative : Bool} {digits fraction : PyStr} {exponent : Int}
    {value : Decimal}
    (made : (match Json.decimalOf negative digits fraction exponent with
      | .ok (.decimal number) => some (DecimalValue.finite number)
      | _ => none) = some (.finite value)) : value.negative = negative := by
  split at made
  · rename_i number read
    obtain rfl := DecimalValue.finite.inj (Option.some.inj made)
    simp only [Json.decimalOf] at read
    split at read
    · cases read
    · obtain rfl := Json.decimal.inj (Except.ok.inj read)
      rfl
  · cases made

/-- A finite number token starts with a digit or a point. -/
theorem unsignedDecimal_finite {negative : Bool} {token : PyStr} {value : Decimal}
    (parsed : unsignedDecimal negative token = some (.finite value)) :
    value.negative = negative ∧
      ∃ code rest, token = code :: rest ∧ (Json.isDigit code = true ∨ code = 46) := by
  unfold unsignedDecimal at parsed
  split at parsed
  · cases parsed
  split at parsed
  · split at parsed
    · cases parsed
    · cases parsed
  · split at parsed
    · cases parsed
    · cases parsed
  · simp only [Option.bind_eq_bind, Option.bind_eq_some_iff] at parsed
    obtain ⟨⟨digits, fraction, rest⟩, scanned, read⟩ := parsed
    constructor
    · split at read
      · exact decimalOf_negative read
      · split at read
        · exact decimalOf_negative read
        · cases read
    · unfold scanMantissa at scanned
      cases token with
      | nil => simp at scanned
      | cons code rest' =>
        refine ⟨code, rest', rfl, ?_⟩
        by_contra other
        rw [not_or, Bool.not_eq_true] at other
        -- Neither a digit nor a point: no digits are found before or after a point.
        simp only [List.takeWhile_cons, other.1, Bool.false_eq_true, if_false,
          List.dropWhile_cons] at scanned
        split at scanned
        · rename_i found
          exact other.2 (List.cons.inj found).1
        · simp at scanned

/-- What `Decimal` reads for a digit of base64. -/
def tokenLetter (value : Nat) : Nat :=
  match decimalDigit (base64Digit value) with
  | some digit => 48 + digit
  | none => asciiLower (base64Digit value)

/-- What the literal of a base64 text tells about its first byte. -/
theorem literal_of_base64 {bytes : Bytes} {value : Decimal}
    (parsed : parseDecimal (base64 bytes) = some (.finite value)) :
    value.negative = false ∧ ∃ byte rest, bytes = byte :: rest ∧ 128 ≤ byte := by
  -- The letters of the token, and what the first of them means.
  have letters : ∀ value < 64, isWhitespace (base64Digit value) = false ∧
      base64Digit value ≠ 95 := by decide +kernel
  have visible : ∀ code ∈ base64 bytes, isWhitespace code = false ∧ code ≠ 95 :=
    base64_forall letters (by decide) bytes
  have stripped : strip isWhitespace (base64 bytes) = base64 bytes :=
    strip_plain fun code member => (visible code member).1
  have filtered : (base64 bytes).filter (fun code => code ≠ 95) = base64 bytes :=
    List.filter_eq_self.mpr fun code member => by simpa using (visible code member).2
  cases bytes with
  | nil => cases parsed
  | cons byte rest =>
    have bound := byte.toNat_lt
    obtain ⟨tail, text⟩ : ∃ tail, base64 (byte :: rest) = base64Digit (byte.toNat / 4) :: tail :=
      List.head?_eq_some_iff.mp (base64_head byte rest)
    have first : ∀ value < 64, tokenLetter value ≠ 45 ∧ tokenLetter value ≠ 46 ∧
        (tokenLetter value = 43 ∨ Json.isDigit (tokenLetter value) = true → 52 ≤ value) := by
      decide +kernel
    obtain ⟨noMinus, noPoint, high⟩ := first (byte.toNat / 4) (by omega)
    unfold parseDecimal decimalToken at parsed
    rw [stripped, filtered, text, List.map_cons] at parsed
    have large : 52 ≤ byte.toNat / 4 → 128 ≤ byte := by
      intro bits
      change 128 ≤ byte.toNat
      omega
    split at parsed
    · rename_i same
      exact absurd (List.cons.inj same).1 noMinus
    · rename_i same
      obtain ⟨sign, -⟩ := unsignedDecimal_finite parsed
      exact ⟨sign, byte, rest, rfl, large (high (Or.inl (List.cons.inj same).1))⟩
    · obtain ⟨sign, code, others, same, digit | point⟩ := unsignedDecimal_finite parsed
      · obtain ⟨rfl, -⟩ := List.cons.inj same
        exact ⟨sign, byte, rest, rfl, large (high (Or.inr digit))⟩
      · obtain ⟨rfl, -⟩ := List.cons.inj same
        exact absurd point noPoint

/-- Rounding to cents keeps the sign. -/
theorem quantize_negative {value quantized : Decimal} {scale : Nat}
    (rounded : value.quantize scale = some quantized) : quantized.negative = value.negative := by
  have fits : ∀ coefficient, (if Decimal.contextPrecision < (natText coefficient).length then none
      else some (⟨value.negative, coefficient, -scale⟩ : Decimal)) = some quantized →
      quantized.negative = value.negative := by
    intro coefficient kept
    split at kept
    · cases kept
    · rw [← Option.some.inj kept]
  unfold Decimal.quantize at rounded
  simp only at rounded
  split at rounded
  · exact fits _ rounded
  split at rounded
  · cases rounded
  split at rounded
  · exact fits _ rounded
  split at rounded
  · exact fits _ rounded
  · exact fits _ rounded

/-- A text that is a literal is not decoded to the amount. -/
theorem not_decodes_of_literal {cents : Int} {value : DecimalValue}
    (literal : parseDecimal (connectText cents) = some value) : ¬ Decodes cents := by
  rintro ⟨decoded, precise, read, same, -⟩
  unfold decodeDecimal at read
  simp only [literal, bind, Except.bind] at read
  cases value with
  | infinity negative => cases read
  | nan => cases read
  | finite value =>
    obtain ⟨positive, byte, rest, shape, high⟩ := literal_of_base64 literal
    have negative : cents < 0 := by
      rw [← signedOfBytes_signedBytes cents, shape]
      have small := natOfBytes_lt (byte :: rest)
      zify at small
      simp only [signedOfBytes, List.head?_cons, Option.any_some, high, decide_true, if_true]
      omega
    have sign : decoded.negative = false := by
      simp only at read
      split at read
      · cases read
      · rename_i quantized rounded
        split at read
        · cases read
        · rw [← Except.ok.inj read, quantize_negative rounded, positive]
    have nonnegative : 0 ≤ amount decoded := by
      have scale : (0 : ℚ) < 10 ^ decoded.exponent := by positivity
      have coefficient : (0 : ℚ) ≤ decoded.signed := by
        simp [Decimal.signed, sign]
      exact mul_nonneg coefficient scale.le
    have below : (cents : ℚ) / 100 < 0 := by
      have debt : (cents : ℚ) < 0 := by exact_mod_cast negative
      exact div_neg_of_neg_of_pos debt (by norm_num)
    rw [same] at nonnegative
    exact absurd below (not_lt.mpr nonnegative)

/-- The text of an amount decodes to the amount exactly when `Decimal` does not take it for a
literal. -/
theorem money_decodes_iff (cents : Int) (small : cents.natAbs < 10 ^ 18) :
    Decodes cents ↔ parseDecimal (connectText cents) = none := by
  constructor
  · intro decodes
    cases literal : parseDecimal (connectText cents) with
    | none => rfl
    | some value => exact absurd decodes (not_decodes_of_literal literal)
  · exact decodes_of_no_literal small

/-- An amount of 123.45 is decoded. -/
theorem small_amount_decodes : Decodes 12345 :=
  (money_decodes_iff 12345 (by decide)).mpr (by decide +kernel)

/-- The text of -29293.56 is `0000`, which is read as nothing. -/
theorem zeros_not_decoded : ¬ Decodes (-2929356) := by
  rintro ⟨decoded, precise, read, same, -⟩
  have zero : decodeDecimal (.str (connectText (-2929356))) = .ok ⟨false, 0, -2⟩ := by
    have text : connectText (-2929356) = py "0000" := by decide +kernel
    rw [text]
    rfl
  rw [zero] at read
  rw [← Except.ok.inj read] at same
  norm_num [amount, Decimal.signed] at same

/-! ## Literals are rounded -/

/-- A value that has a number: a `Decimal`, an `int`, or a text `Decimal` may accept. -/
inductive MoneyValue
  | decimal (value : DecimalValue)
  | int (value : Int)
  | text (value : PyStr)

/-- The number of a value as `decode_decimal` reads it. -/
def MoneyValue.Reads : MoneyValue → DecimalValue → Prop
  | decimal value, read => read = value
  | int value, read => read = .finite (Decimal.ofInt value)
  | text value, read => parseDecimal value = some read

/-- `decode_decimal` from the test of finite numbers on. -/
def decodeParsed : DecimalValue → Except Problem Decimal
  | .infinity _ | .nan => .error (.quality .invalidDecimal "Money value must be finite")
  | .finite number =>
    match number.quantize 2 with
    | none => .error (.quality .invalidDecimal "Money scale is invalid")
    | some quantized =>
      if 18 < quantized.digitCount then
        .error (.quality .invalidDecimal "Money precision exceeds NUMERIC(18,2)")
      else .ok quantized

/-- `decode_decimal` of a value that has a number. -/
def decodeMoney : MoneyValue → Except Problem Decimal
  | .decimal value => decodeParsed value
  | .int value => decodeParsed (.finite (Decimal.ofInt value))
  | .text value => decodeDecimal (.str value)

/-- Every value is decoded from its number. -/
theorem decodeMoney_reads {value : MoneyValue} {read : DecimalValue} (reads : value.Reads read) :
    decodeMoney value = decodeParsed read := by
  cases value with
  | decimal value => rw [show read = value from reads, decodeMoney]
  | int value => rw [show read = .finite (Decimal.ofInt value) from reads, decodeMoney]
  | text value =>
    have parsed : parseDecimal value = some read := reads
    unfold decodeMoney decodeDecimal
    simp only [parsed, bind, Except.bind]
    cases read <;> rfl

/-- A whole number of cents. -/
def WholeCents (number : Decimal) : Prop := ∃ cents : ℤ, number.toRat = cents / 100

/-- A column of precision 18 and scale 2 can hold the number. -/
def Storable : DecimalValue → Prop
  | .finite number => WholeCents number ∧ |number.toRat| < 10 ^ 16
  | _ => False

/-- The value is decoded to its own number, or refused as an invalid decimal. -/
structure ExactOrRefused (value : MoneyValue) (read : DecimalValue) : Prop where
  /-- What is returned is the number, and fits the column. -/
  exactly : ∀ decoded, decodeMoney value = .ok decoded →
    ∃ number, read = .finite number ∧ decoded.toRat = number.toRat ∧ |decoded.toRat| < 10 ^ 16
  /-- What the column cannot hold is refused. -/
  refused : ¬ Storable read →
    ∃ message, decodeMoney value = .error (.quality .invalidDecimal message)
  /-- There is no other exception. -/
  quality : ∀ problem, decodeMoney value = .error problem →
    ∃ message, problem = .quality .invalidDecimal message

/-- A refused value meets the description. -/
theorem ExactOrRefused.of_refused {value : MoneyValue} {read : DecimalValue} {message : PyStr}
    (refused : decodeMoney value = .error (.quality .invalidDecimal message)) :
    ExactOrRefused value read where
  exactly := by
    intro decoded returned
    rw [refused] at returned
    cases returned
  refused _ := ⟨message, refused⟩
  quality := by
    intro problem raised
    exact ⟨message, Except.error.inj (raised.symm.trans refused)⟩

/-- A finite number is rounded to cents, and refused when eighteen digits do not hold them. -/
theorem decodeParsed_finite (number : Decimal) :
    ∃ rounded, NearestEven (number.magnitude 2) rounded ∧
      (rounded < 10 ^ 18 → decodeParsed (.finite number) = .ok ⟨number.negative, rounded, -2⟩) ∧
      (10 ^ 18 ≤ rounded → ∃ message,
        decodeParsed (.finite number) = .error (.quality .invalidDecimal message)) := by
  obtain ⟨rounded, nearest, quantized⟩ := number.quantize_spec 2
  have digits : 18 < (⟨number.negative, rounded, -(2 : Nat)⟩ : Decimal).digitCount ↔
      10 ^ 18 ≤ rounded := by
    rw [← not_le, ← not_lt (a := rounded)]
    exact not_congr (natText_length_le (show 0 < 18 by decide))
  unfold decodeParsed
  dsimp only
  rw [quantized]
  refine ⟨rounded, nearest, fun small => ?_, fun large => ?_⟩
  · rw [if_pos (Nat.lt_trans small (by decide))]
    dsimp only
    rw [if_neg (mt digits.mp (Nat.not_le.mpr small))]
    rfl
  · by_cases held : rounded < 10 ^ Decimal.contextPrecision
    · rw [if_pos held]
      dsimp only
      rw [if_pos (digits.mpr large)]
      exact ⟨_, rfl⟩
    · rw [if_neg held]
      exact ⟨_, rfl⟩

/-- The magnitude of a whole number of cents. -/
theorem WholeCents.magnitude {number : Decimal} {cents : ℤ} (whole : number.toRat = cents / 100) :
    number.magnitude 2 = cents.natAbs := by
  rw [number.magnitude_eq_abs, whole, abs_div, abs_of_pos (by norm_num : (0 : ℚ) < 100),
    Nat.cast_natAbs, Int.cast_abs]
  norm_num

/-- An amount of cents is a whole number of cents. -/
theorem wholeCents_cents (negative : Bool) (coefficient : Nat) :
    WholeCents ⟨negative, coefficient, -2⟩ := by
  refine ⟨(⟨negative, coefficient, -2⟩ : Decimal).signed, ?_⟩
  unfold Decimal.toRat
  norm_num
  ring

/-- A number is decoded exactly or refused when it is a whole number of cents, or so large that
rounding leaves the column. -/
theorem money_exact_iff (value : MoneyValue) (read : DecimalValue) (reads : value.Reads read) :
    ExactOrRefused value read ↔ ∀ number, read = .finite number →
      WholeCents number ∨ 10 ^ 16 - 1 / 200 ≤ |number.toRat| := by
  have limit_even : Even (10 ^ 18) := by decide
  have decoding := decodeMoney_reads reads
  constructor
  · rintro result number rfl
    obtain ⟨rounded, nearest, kept, -⟩ := decodeParsed_finite number
    by_cases small : rounded < 10 ^ 18
    · obtain ⟨same, own, equal, -⟩ := result.exactly _ (decoding.trans (kept small))
      obtain rfl := DecimalValue.finite.inj own
      obtain ⟨cents, whole⟩ := wholeCents_cents number.negative rounded
      exact Or.inl ⟨cents, equal ▸ whole⟩
    · have near := (nearest.even_le_iff limit_even).mp (Nat.not_lt.mp small)
      rw [number.magnitude_eq_abs] at near
      push_cast at near
      exact Or.inr (by linarith)
  · intro condition
    cases read with
    | infinity negative => exact .of_refused decoding
    | nan => exact .of_refused decoding
    | finite number =>
      obtain ⟨rounded, nearest, kept, dropped⟩ := decodeParsed_finite number
      by_cases small : rounded < 10 ^ 18
      · -- returned: then the number is not near the limit, so it is a whole number of cents
        have returned := decoding.trans (kept small)
        have below : |number.toRat| < 10 ^ 16 - 1 / 200 := by
          have far := mt (nearest.even_le_iff limit_even).mpr
            (Nat.not_le.mpr small)
          rw [number.magnitude_eq_abs] at far
          push_cast at far
          linarith
        obtain ⟨cents, whole⟩ := (condition number rfl).resolve_right (not_le.mpr below)
        have same : (⟨number.negative, rounded, -2⟩ : Decimal).toRat = number.toRat := by
          refine Decimal.toRat_eq_of_magnitude 2 rfl ?_
          rw [WholeCents.magnitude whole] at nearest ⊢
          rw [nearest.eq_of_natCast]
          exact Decimal.magnitude_places number.negative _ 2
        refine ⟨fun decoded other => ?_, fun refused => ?_, fun problem raised => ?_⟩
        · obtain rfl := Except.ok.inj (returned.symm.trans other)
          exact ⟨number, rfl, same, by rw [same]; linarith⟩
        · exact absurd ⟨⟨cents, whole⟩, by linarith⟩ refused
        · rw [returned] at raised
          cases raised
      · obtain ⟨message, refusal⟩ := dropped (Nat.not_lt.mp small)
        exact .of_refused (decoding.trans refusal)

/-- The text `12.34` is decoded exactly. -/
theorem two_places_exact : ExactOrRefused (.text "12.34") (.finite ⟨false, 1234, -2⟩) := by
  have reads : (MoneyValue.text "12.34").Reads (.finite ⟨false, 1234, -2⟩) := by
    change parseDecimal _ = _
    decide +kernel
  refine (money_exact_iff _ _ reads).mpr ?_
  rintro number same
  obtain rfl := DecimalValue.finite.inj same
  exact Or.inl (wholeCents_cents false 1234)

/-- The text `1.005` is decoded to 1.00. -/
theorem three_places_rounded : ¬ ExactOrRefused (.text "1.005") (.finite ⟨false, 1005, -3⟩) := by
  intro result
  have returned : decodeMoney (.text "1.005") = .ok ⟨false, 100, -2⟩ := by rfl
  obtain ⟨number, own, same, -⟩ := result.exactly _ returned
  obtain rfl := DecimalValue.finite.inj own
  norm_num [Decimal.toRat, Decimal.signed] at same

end Silver
