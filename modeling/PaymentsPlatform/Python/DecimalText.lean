import PaymentsPlatform.Python.Decoded

/-!
# Decimal numbers read back

`Decimal(str(value))` is `value`: the same sign, digits and exponent. `str` writes a number with
digits before the point, digits behind it and a power of ten, each perhaps empty, in one of four
layouts; `Decimal` reads every such literal.
-/

namespace Python

open Json (isDigit)

/-- The text of a power of ten behind the letter. -/
def powerText (letter : Nat) (power : Int) : PyStr :=
  if power = 0 then [] else letter :: ((if 0 ≤ power then [43] else []) ++ intText power)

/-- The text behind the sign: digits, perhaps a point with digits, perhaps a power of ten. -/
def literalBody (letter : Nat) (whole fraction : PyStr) (power : Int) : PyStr :=
  whole ++ ((if fraction = [] then [] else 46 :: fraction) ++ powerText letter power)

/-- A literal and its sign. -/
def decimalLiteral (letter : Nat) (negative : Bool) (whole fraction : PyStr) (power : Int) :
    PyStr :=
  (if negative then [45] else []) ++ literalBody letter whole fraction power

/-- The parts of a literal that denotes the number. -/
structure Denotes (value : Decimal) (whole fraction : PyStr) (power : Int) : Prop where
  /-- There are digits before the point. -/
  nonempty : whole ≠ []
  /-- They are digits. -/
  before : ∀ code ∈ whole, isDigit code = true
  /-- So are those behind it. -/
  behind : ∀ code ∈ fraction, isDigit code = true
  /-- Together they write the coefficient. -/
  digits : Json.digitsValue (whole ++ fraction) = value.coefficient
  /-- The digits behind the point count against the power. -/
  exponent : power - fraction.length = value.exponent

/-! ## Writing -/

/-- Leading zeros do not count. -/
theorem digitsValue_zeros (count : Nat) (digits : PyStr) :
    Json.digitsValue (List.replicate count 48 ++ digits) = Json.digitsValue digits := by
  have zero : Json.digitsValue (List.replicate count 48) = 0 := by
    induction count with
    | zero => rfl
    | succ count ih =>
      rw [List.replicate_succ', Json.digitsValue_append, ih]
      rfl
  rw [Json.digitsValue_append, zero, Nat.zero_mul, Nat.zero_add]

/-- The digits of a number, cut in two. -/
theorem Denotes.of_cut (value : Decimal) (place : Nat) (positive : 0 < place) {power : Int}
    (exponent : power - ((natText value.coefficient).length - place : Nat) = value.exponent) :
    Denotes value ((natText value.coefficient).take place)
      ((natText value.coefficient).drop place) power where
  nonempty := by
    intro empty
    rcases List.take_eq_nil_iff.mp empty with none | none
    · omega
    · exact natText_ne_nil _ none
  before code member := Json.natText_isDigit (List.mem_of_mem_take member)
  behind code member := Json.natText_isDigit (List.mem_of_mem_drop member)
  digits := by rw [List.take_append_drop, Json.digitsValue_natText]
  exponent := by rw [List.length_drop]; exact exponent

/-- The text behind the sign, where the point stands at a place inside the digits or right behind
them. -/
theorem cut_text {digits : PyStr} {place : Nat} (power : Int) (fits : place ≤ digits.length) :
    (if place < digits.length then digits.take place ++ py "." ++ digits.drop place
      else digits ++ List.replicate (place - digits.length) 48) ++
        (if power = 0 then []
          else py "E" ++ (if 0 ≤ power then py "+" else []) ++ intText power) =
      literalBody 69 (digits.take place) (digits.drop place) power := by
  have letters : py "." = [46] ∧ py "E" = [69] ∧ py "+" = [43] := ⟨rfl, rfl, rfl⟩
  obtain ⟨point, letter, plus⟩ := letters
  have tail : (if power = 0 then []
      else py "E" ++ (if 0 ≤ power then py "+" else []) ++ intText power) = powerText 69 power := by
    unfold powerText
    rw [letter, plus]
    simp
  rw [tail, point]
  rcases Nat.lt_or_eq_of_le fits with inside | whole
  · have some : digits.drop place ≠ [] := by
      rw [ne_eq, List.drop_eq_nil_iff]
      omega
    rw [if_pos inside, literalBody, if_neg some]
    simp
  · rw [if_neg (by omega), whole, Nat.sub_self, literalBody, List.take_length, List.drop_length]
    simp

/-- `str(value)` is a literal of the number. -/
theorem Decimal.text_eq_literal (value : Decimal) : ∃ whole fraction power,
    Denotes value whole fraction power ∧
      value.text = decimalLiteral 69 value.negative whole fraction power := by
  have some : 0 < (natText value.coefficient).length :=
    List.length_pos_of_ne_nil (natText_ne_nil _)
  have sign : py "-" = [45] := rfl
  unfold Decimal.text
  dsimp only
  by_cases plain : value.exponent ≤ 0 ∧ -6 < value.exponent + (natText value.coefficient).length
  · rw [if_pos plain, sub_self, if_pos rfl, List.append_nil]
    by_cases small : value.exponent + (natText value.coefficient).length ≤ 0
    · -- a zero before the point and more of them behind it
      refine ⟨[48], List.replicate (-(value.exponent +
        (natText value.coefficient).length)).toNat 48 ++ natText value.coefficient, 0, ?_, ?_⟩
      · refine ⟨List.cons_ne_nil _ _, fun code member => ?_, fun code member => ?_, ?_, ?_⟩
        · rw [List.mem_singleton.mp member]
          rfl
        · rcases List.mem_append.mp member with zero | digit
          · rw [List.eq_of_mem_replicate zero]
            rfl
          · exact Json.natText_isDigit digit
        · rw [Json.digitsValue_append, digitsValue_zeros, Json.digitsValue_natText]
          simp [Json.digitsValue]
        · rw [List.length_append, List.length_replicate]
          omega
      · have zero : py "0." = [48, 46] := rfl
        have behind : List.replicate (-(value.exponent +
            (natText value.coefficient).length)).toNat 48 ++ natText value.coefficient ≠ [] :=
          List.append_ne_nil_of_right_ne_nil _ (natText_ne_nil _)
        rw [if_pos small, sign, zero, decimalLiteral, literalBody, if_neg behind]
        simp [powerText]
    · obtain ⟨place, position⟩ := Int.eq_ofNat_of_zero_le (by omega :
        0 ≤ value.exponent + (natText value.coefficient).length)
      refine ⟨_, _, 0, Denotes.of_cut value place (by omega) (by omega), ?_⟩
      rw [if_neg small, sign, position, Int.toNat_natCast, decimalLiteral]
      rw [← cut_text 0 (by omega), if_pos rfl, List.append_nil]
  · rw [if_neg plain, sign]
    refine ⟨_, _, value.exponent + (natText value.coefficient).length - 1,
      Denotes.of_cut value 1 Nat.one_pos (by omega), ?_⟩
    rw [decimalLiteral, ← cut_text _ (by omega), if_neg (by decide : ¬ (1 : Int) ≤ 0),
      Int.toNat_one, List.append_assoc]

/-! ## Reading -/

/-- What `Decimal` makes of one character. -/
def tokenChar (code : Nat) : Nat :=
  match decimalDigit code with
  | some digit => 48 + digit
  | none => asciiLower code

/-- The characters of a literal of `str`: digits, the point, the signs and the letter. -/
def IsLiteralChar (code : Nat) : Prop :=
  isDigit code = true ∨ code ∈ [43, 45, 46, 69]

/-- A digit is itself. -/
theorem tokenChar_digit {code : Nat} (digit : isDigit code = true) : tokenChar code = code := by
  simp only [isDigit, Bool.and_eq_true, decide_eq_true_eq] at digit
  rw [tokenChar, decimalDigit_ascii digit.1 digit.2]
  dsimp only
  omega

/-- Digits are themselves. -/
theorem map_tokenChar_digits {digits : PyStr} (each : ∀ code ∈ digits, isDigit code = true) :
    digits.map tokenChar = digits := by
  conv_rhs => rw [← List.map_id digits]
  exact List.map_congr_left fun code member => tokenChar_digit (each code member)

/-- The characters of an integer. -/
theorem intText_literal {number : Int} {code : Nat} (member : code ∈ intText number) :
    isDigit code = true ∨ code = 45 := by
  cases number with
  | ofNat natural => exact Or.inl (Json.natText_isDigit member)
  | negSucc natural =>
    rcases List.mem_append.mp member with sign | digit
    · exact Or.inr (List.mem_singleton.mp sign)
    · exact Or.inl (Json.natText_isDigit digit)

/-- The integer of a power reads as itself. -/
theorem map_tokenChar_intText (number : Int) : (intText number).map tokenChar = intText number := by
  conv_rhs => rw [← List.map_id (intText number)]
  refine List.map_congr_left fun code member => ?_
  rcases intText_literal member with digit | rfl
  · exact tokenChar_digit digit
  · rfl

variable {value : Decimal} {whole fraction : PyStr} {power : Int}

/-- Only such characters are in a literal. -/
theorem Denotes.characters (denotes : Denotes value whole fraction power) (negative : Bool) :
    ∀ code ∈ decimalLiteral 69 negative whole fraction power, IsLiteralChar code := by
  intro code member
  have cases : (negative = true ∧ code = 45) ∨ code ∈ whole ∨ code = 46 ∨ code ∈ fraction ∨
      code = 69 ∨ code = 43 ∨ code ∈ intText power := by
    unfold decimalLiteral literalBody powerText at member
    simp only [List.mem_append, List.mem_ite_nil_right, List.mem_ite_nil_left, List.mem_cons,
      List.not_mem_nil, or_false] at member
    tauto
  rcases cases with ⟨-, rfl⟩ | before | rfl | behind | rfl | rfl | digit
  · exact Or.inr (by decide)
  · exact Or.inl (denotes.before code before)
  · exact Or.inr (by decide)
  · exact Or.inl (denotes.behind code behind)
  · exact Or.inr (by decide)
  · exact Or.inr (by decide)
  · rcases intText_literal digit with digit | rfl
    · exact Or.inl digit
    · exact Or.inr (by decide)

/-- A character of a literal is neither white space nor an underscore. -/
theorem IsLiteralChar.visible {code : Nat} (literal : IsLiteralChar code) :
    isWhitespace code = false ∧ code ≠ 95 := by
  rcases literal with digit | sign
  · simp only [isDigit, Bool.and_eq_true, decide_eq_true_eq] at digit
    exact ⟨visible_of_digit digit.1 digit.2, by omega⟩
  · simp only [List.mem_cons, List.not_mem_nil, or_false] at sign
    rcases sign with rfl | rfl | rfl | rfl
    · decide
    · decide
    · decide
    · decide

/-- The token of a literal is the literal with its letter in lower case. -/
theorem decimalToken_literal (denotes : Denotes value whole fraction power) (negative : Bool) :
    decimalToken (decimalLiteral 69 negative whole fraction power) =
      decimalLiteral 101 negative whole fraction power := by
  have visible := fun code member => (denotes.characters negative code member).visible
  unfold decimalToken
  rw [strip_plain fun code member => (visible code member).1,
    List.filter_eq_self.mpr fun code member => by simpa using (visible code member).2]
  change (decimalLiteral 69 negative whole fraction power).map tokenChar = _
  unfold decimalLiteral literalBody powerText
  simp only [List.map_append, apply_ite (List.map tokenChar), List.map_cons, List.map_nil,
    map_tokenChar_digits denotes.before, map_tokenChar_digits denotes.behind,
    map_tokenChar_intText]
  rfl

/-- Digits are taken up to what is not a digit. -/
theorem takeWhile_digits {digits rest : PyStr} (each : ∀ code ∈ digits, isDigit code = true)
    (stops : ∀ code ∈ rest.head?, isDigit code = false) :
    (digits ++ rest).takeWhile isDigit = digits ∧ (digits ++ rest).dropWhile isDigit = rest := by
  have none : rest.takeWhile isDigit = [] ∧ rest.dropWhile isDigit = rest := by
    cases rest with
    | nil => exact ⟨rfl, rfl⟩
    | cons code tail =>
      have other : ¬ isDigit code = true := by
        rw [stops code rfl]
        decide
      exact ⟨List.takeWhile_cons_of_neg other, List.dropWhile_cons_of_neg other⟩
  rw [List.takeWhile_append_of_pos each, List.dropWhile_append_of_pos each, none.1, none.2,
    List.append_nil]
  exact ⟨rfl, rfl⟩

/-- A power is read. -/
theorem scanExponent_powerText (nonzero : power ≠ 0) :
    Json.scanExponent (powerText 101 power) = some (power, []) := by
  have digits : ∀ natural : Nat, (natText natural).takeWhile isDigit = natText natural ∧
      (natText natural).dropWhile isDigit = [] := by
    intro natural
    have all := @takeWhile_digits (natText natural) [] (fun _ => Json.natText_isDigit)
      (by rintro code ⟨⟩)
    rw [List.append_nil] at all
    exact all
  rw [powerText, if_neg nonzero]
  cases power with
  | ofNat natural =>
    rw [if_pos (show 0 ≤ Int.ofNat natural from Int.natCast_nonneg natural)]
    simp only [Json.scanExponent, intText, List.singleton_append, true_or, if_true, digits,
      natText_ne_nil, if_false, Json.digitsValue_natText]
    rfl
  | negSucc natural =>
    have sign : py "-" = [45] := rfl
    rw [if_neg (by omega)]
    simp only [Json.scanExponent, intText, sign, List.nil_append, List.singleton_append, true_or,
      if_true, digits, natText_ne_nil, if_false, Json.digitsValue_natText]
    rfl

/-- The digits of a literal are found. -/
theorem scanMantissa_literal (denotes : Denotes value whole fraction power) :
    scanMantissa (literalBody 101 whole fraction power) =
      some (whole, fraction, powerText 101 power) := by
  have power_stops : ∀ code ∈ (powerText 101 power).head?, isDigit code = false ∧ code ≠ 46 := by
    intro code first
    unfold powerText at first
    split at first
    · cases first
    · rw [← Option.some.inj first]
      decide
  have point_stops : ∀ code ∈ ((if fraction = [] then [] else 46 :: fraction) ++
      powerText 101 power).head?, isDigit code = false := by
    intro code first
    split at first
    · exact (power_stops code first).1
    · rw [← Option.some.inj first]
      rfl
  obtain ⟨digits, rest⟩ := takeWhile_digits denotes.before point_stops
  unfold scanMantissa literalBody
  rw [digits, rest]
  by_cases integer : fraction = []
  · subst integer
    rw [if_pos rfl, List.nil_append]
    have no_point : ∀ tail, powerText 101 power ≠ 46 :: tail := by
      intro tail shape
      exact (power_stops 46 (by rw [shape]; rfl)).2 rfl
    dsimp only
    split
    · rename_i tail shape
      exact absurd shape (no_point _)
    · rw [if_neg (by simp [denotes.nonempty])]
  · obtain ⟨behind, last⟩ := takeWhile_digits denotes.behind
      fun code first => (power_stops code first).1
    rw [if_neg integer]
    simp only [List.cons_append, behind, last]
    rw [if_neg (by simp [integer])]

/-- The digits, the point and the power of a literal are read. -/
theorem unsignedDecimal_literal (denotes : Denotes value whole fraction power)
    (possible : value.Possible) :
    unsignedDecimal value.negative (literalBody 101 whole fraction power) =
      some (.finite value) := by
  obtain ⟨first, others, shape⟩ := List.exists_cons_of_ne_nil denotes.nonempty
  have digit := denotes.before first (by rw [shape]; simp)
  have different : ∀ letter, isDigit letter = false → first ≠ letter := by
    intro letter other same
    rw [same, other] at digit
    cases digit
  have cons : literalBody 101 whole fraction power = first :: (others ++
      ((if fraction = [] then [] else 46 :: fraction) ++ powerText 101 power)) := by
    rw [literalBody, shape, List.cons_append]
  have word : ∀ letter rest, isDigit letter = false →
      literalBody 101 whole fraction power ≠ letter :: rest := by
    intro letter rest other same
    rw [cons] at same
    exact different letter other (List.cons.inj same).1
  have start : ∀ letter rest, isDigit letter = false →
      dropStart (letter :: rest) (literalBody 101 whole fraction power) = none := by
    intro letter rest other
    rw [cons, dropStart, if_neg (Ne.symm (different letter other))]
  have number : Json.decimalOf value.negative whole fraction power = .ok (.decimal value) := by
    have inside : ¬ (Json.maxEmax < value.exponent + (natText value.coefficient).length - 1 ∨
        value.exponent < Json.minEtiny) := by
      have high := possible.high
      have low := possible.low
      omega
    unfold Json.decimalOf
    dsimp only
    rw [denotes.digits, denotes.exponent, if_neg inside]
  have infinite : ¬ (literalBody 101 whole fraction power = py "inf" ∨
      literalBody 101 whole fraction power = py "infinity") := by
    rintro (short | long)
    · exact word 105 _ rfl short
    · exact word 105 _ rfl long
  unfold unsignedDecimal
  rw [if_neg infinite]
  have nan : dropStart "nan" (literalBody 101 whole fraction power) = none := start 110 _ rfl
  have snan : dropStart "snan" (literalBody 101 whole fraction power) = none := start 115 _ rfl
  rw [nan, snan]
  dsimp only
  rw [scanMantissa_literal denotes]
  simp only [Option.bind_eq_bind, Option.bind_some]
  by_cases zero : power = 0
  · have none : powerText 101 power = [] := by rw [powerText, if_pos zero]
    rw [if_pos none, ← zero, number]
  · have some : powerText 101 power ≠ [] := by
      rw [powerText, if_neg zero]
      exact List.cons_ne_nil _ _
    rw [if_neg some, scanExponent_powerText zero]
    dsimp only
    rw [number]

/-- `Decimal(str(value))` is the value. -/
theorem parseDecimal_text (possible : value.Possible) :
    parseDecimal value.text = some (.finite value) := by
  obtain ⟨whole, fraction, power, denotes, text⟩ := value.text_eq_literal
  have read := unsignedDecimal_literal denotes possible
  unfold parseDecimal
  rw [text, decimalToken_literal denotes, decimalLiteral]
  cases sign : value.negative with
  | true =>
    rw [sign] at read
    exact read
  | false =>
    rw [sign] at read
    obtain ⟨first, others, shape⟩ := List.exists_cons_of_ne_nil denotes.nonempty
    have digit := denotes.before first (by rw [shape]; simp)
    have cons : literalBody 101 whole fraction power = first :: (others ++
        ((if fraction = [] then [] else 46 :: fraction) ++ powerText 101 power)) := by
      rw [literalBody, shape, List.cons_append]
    rw [if_neg (by decide), List.nil_append]
    split
    · rename_i same
      rw [cons] at same
      rw [(List.cons.inj same).1] at digit
      cases digit
    · rename_i same
      rw [cons] at same
      rw [(List.cons.inj same).1] at digit
      cases digit
    · exact read

end Python
