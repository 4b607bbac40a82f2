import PaymentsPlatform.Python.Calendar
import PaymentsPlatform.Python.Path

/-!
# Numbers and dates read back

`int` reads what `str` wrote of an integer that can be written, and `date.fromisoformat` reads
what `isoformat` wrote of a date of the calendar.
-/

namespace Python

/-- An ASCII digit is a decimal digit. -/
theorem decimalDigit_ascii {code : Nat} (low : 48 ≤ code) (high : code ≤ 57) :
    decimalDigit code = some (code - 48) := by
  interval_cases code <;> rfl

/-- `int` reads a text of ASCII digits digit by digit. -/
theorem intDigits_ascii {text : PyStr} (nonempty : text ≠ [])
    (digits : ∀ code ∈ text, 48 ≤ code ∧ code ≤ 57) :
    intDigits text = some (text.map (· - 48)) := by
  induction text with
  | nil => exact absurd rfl nonempty
  | cons code rest ih =>
    obtain ⟨low, high⟩ := digits code (List.mem_cons_self ..)
    have later : ∀ other ∈ rest, 48 ≤ other ∧ other ≤ 57 := fun other member =>
      digits other (List.mem_cons_of_mem _ member)
    cases rest with
    | nil =>
      rw [intDigits, decimalDigit_ascii low high]
      rfl
    | cons next rest =>
      have plain : next ≠ 95 := by
        have := later next (List.mem_cons_self ..)
        omega
      rw [intDigits.eq_4 _ _ (by simp) (by
        intro others same
        exact plain (List.cons.inj same).1), decimalDigit_ascii low high,
        ih (List.cons_ne_nil _ _) later]
      rfl

/-- The integer that digits write. -/
def digitsValue (digits : List Nat) : Int :=
  (digits.map Nat.cast).foldl (fun value digit => value * 10 + digit) 0

/-- The digits of a natural number write it. -/
theorem natText_value (number : Nat) :
    digitsValue ((natText number).map (· - 48)) = number := by
  have natural : ∀ (digits : List Nat) (start : Nat),
      (digits.map Nat.cast).foldl (fun value digit => value * 10 + digit) (start : Int) =
        (digits.foldl (fun value digit => value * 10 + digit) start : Nat) := by
    intro digits
    induction digits with
    | nil => exact fun _ => rfl
    | cons digit digits ih =>
      intro start
      rw [List.map_cons, List.foldl_cons, List.foldl_cons, ← ih]
      norm_cast
  have read := @Nat.ofDigitChars_ten_toDigits number
  rw [Nat.ofDigitChars_eq_foldl] at read
  refine (natural _ 0).trans ?_
  unfold natText
  rw [List.map_map, List.foldl_map, Nat.cast_inj]
  conv_rhs => rw [← read]
  congr 1
  funext value digit
  rw [Nat.mul_comm value 10]
  rfl

/-- The text of a natural number: digits, at least one. -/
theorem natText_ne_nil (number : Nat) : natText number ≠ [] := by
  unfold natText
  rw [ne_eq, List.map_eq_nil_iff]
  exact Nat.toDigits_ne_nil

/-- A digit is visible. -/
theorem visible_of_digit {code : Nat} (low : 48 ≤ code) (high : code ≤ 57) :
    isWhitespace code = false := by
  interval_cases code <;> rfl

/-- What `int` makes of the digits. -/
theorem parseInt_body (negative : Bool) {body : PyStr} (nonempty : body ≠ [])
    (digits : ∀ code ∈ body, 48 ≤ code ∧ code ≤ 57) (fits : body.length ≤ maxIntDigits) :
    parseInt ((if negative then [45] else []) ++ body) =
      some (if negative then -digitsValue (body.map (· - 48))
        else digitsValue (body.map (· - 48))) := by
  have visible : strip isWhitespace ((if negative then [45] else []) ++ body) =
      (if negative then [45] else []) ++ body := by
    refine strip_plain fun code member => ?_
    rcases List.mem_append.mp member with sign | digit
    · cases negative with
      | false => cases sign
      | true => rw [List.mem_singleton.mp sign]; rfl
    · exact visible_of_digit (digits code digit).1 (digits code digit).2
  have read := intDigits_ascii nonempty digits
  have short : ¬ maxIntDigits < (body.map (· - 48)).length := by
    rw [List.length_map]
    omega
  have value : ∀ numbers : List Nat,
      (List.foldl (fun value digit => value * 10 + digit) ((0 : Nat) : Int) do
        let digit ← numbers
        pure (digit : Int)) = digitsValue numbers := by
    intro numbers
    unfold digitsValue
    rw [List.map_eq_flatMap]
    rfl
  unfold parseInt
  rw [visible]
  cases negative with
  | true =>
    simp only [if_true, List.singleton_append]
    rw [read]
    dsimp only
    rw [if_neg short, value]
  | false =>
    obtain ⟨first, rest, rfl⟩ := List.exists_cons_of_ne_nil nonempty
    obtain ⟨low, high⟩ := digits first (List.mem_cons_self ..)
    simp only [Bool.false_eq_true, if_false, List.nil_append]
    -- No digit is a sign, so the literal starts with its digits.
    interval_cases first
    all_goals
      simp only [read, if_neg short, value]
      rfl

/-- `int` reads an integer that `str` wrote. -/
theorem parseInt_intText {number : Int} (fits : printable number = true) :
    parseInt (intText number) = some number := by
  unfold printable at fits
  rw [decide_eq_true_eq] at fits
  cases number with
  | ofNat natural =>
    have read := parseInt_body false (natText_ne_nil natural) (fun _ => natText_digits) fits
    rw [natText_value] at read
    exact read
  | negSucc natural =>
    have read := parseInt_body true (natText_ne_nil (natural + 1)) (fun _ => natText_digits) fits
    rw [natText_value] at read
    exact read

/-- A number of fixed width is scanned. -/
theorem scanDigits_fixedDigits (width number : Nat) (rest : PyStr) :
    scanDigits width (fixedDigits width number ++ rest) =
      some (number % 10 ^ width, rest) := by
  have taken : (fixedDigits width number ++ rest).take width = fixedDigits width number := by
    rw [List.take_append_of_le_length (by rw [length_fixedDigits]),
      List.take_of_length_le (by rw [length_fixedDigits])]
  have left : (fixedDigits width number ++ rest).drop width = rest := by
    rw [List.drop_append_of_le_length (by rw [length_fixedDigits]),
      List.drop_of_length_le (by rw [length_fixedDigits]), List.nil_append]
  unfold scanDigits
  rw [taken, if_pos (length_fixedDigits width number), asciiNumber_fixedDigits, left]
  rfl

/-- `date.fromisoformat` reads a date of the calendar that `isoformat` wrote. -/
theorem dateFromIsoformat_isoformat {date : Date} (valid : date.Valid) :
    dateFromIsoformat date.isoformat = some date := by
  obtain ⟨year, month, day⟩ := date
  have fits : year < 10 ^ 4 ∧ month < 10 ^ 2 ∧ day < 10 ^ 2 := by
    have bound := daysInMonth_le (isLeap year) month
    unfold Date.Valid at valid
    dsimp only at valid
    omega
  have text : Date.isoformat ⟨year, month, day⟩ = fixedDigits 4 year ++
      (45 :: (fixedDigits 2 month ++ (45 :: (fixedDigits 2 day ++ [])))) := by
    have dash : py "-" = [45] := rfl
    unfold Date.isoformat
    rw [padded_of_lt fits.1, padded_of_lt fits.2.1, padded_of_lt fits.2.2, dash]
    simp
  have whole : (Date.isoformat ⟨year, month, day⟩).length = 10 := by
    rw [text]
    simp
  have digit : ((fixedDigits 2 month ++ (45 :: (fixedDigits 2 day ++ []))).head? = some 87) =
      False := by
    rw [eq_iff_iff, iff_false]
    intro letter
    have first : fixedDigits 2 month = [48 + month / 10 % 10, 48 + month % 10] := rfl
    rw [first] at letter
    have : 48 + month / 10 % 10 = 87 := Option.some.inj letter
    omega
  unfold dateFromIsoformat
  rw [whole, if_pos (by decide), text]
  unfold scanDate
  rw [scanDigits_fixedDigits]
  simp only [Option.bind_eq_bind, Option.bind_some, List.head?_cons, List.drop_succ_cons,
    List.drop_zero, if_true]
  simp only [digit, if_false, scanDigits_fixedDigits, Option.bind_some, List.head?_cons,
    List.drop_succ_cons, List.drop_zero, ne_eq, not_true_eq_false, and_false,
    Nat.mod_eq_of_lt fits.1, Nat.mod_eq_of_lt fits.2.1, Nat.mod_eq_of_lt fits.2.2]
  exact if_pos valid

end Python
