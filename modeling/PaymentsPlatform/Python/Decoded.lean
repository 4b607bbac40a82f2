import PaymentsPlatform.Python.Readback
import PaymentsPlatform.Python.Rounding

/-!
# Decoded values

What `json.loads` returns, whatever the text: every object has distinct keys, every integer can
be written out again, every decimal number has an exponent a `Decimal` may have, and containers
nest no deeper than the recursion allows.
-/

namespace Python

/-- `Decimal` has a number of these digits and this exponent. -/
structure Decimal.Possible (value : Decimal) : Prop where
  /-- The first digit is not too high. -/
  high : value.exponent + (natText value.coefficient).length - 1 ≤ Json.maxEmax
  /-- The last digit is not too low. -/
  low : Json.minEtiny ≤ value.exponent

namespace Json

mutual

/-- A value that nests no deeper than the second argument, with distinct keys, integers that can
be written and decimal numbers of the kind. -/
def Decoded (numbers : Decimal → Prop) : Json → Nat → Prop
  | .int value, _ => printable value = true
  | .decimal value, _ => numbers value
  | .arr items, depth => 0 < depth ∧ DecodedItems numbers items (depth - 1)
  | .obj members, depth =>
    0 < depth ∧ (members.map Prod.fst).Nodup ∧ DecodedMembers numbers members (depth - 1)
  | _, _ => True

/-- The items of an array. -/
def DecodedItems (numbers : Decimal → Prop) : List Json → Nat → Prop
  | [], _ => True
  | item :: rest, depth => Decoded numbers item depth ∧ DecodedItems numbers rest depth

/-- The members of an object. -/
def DecodedMembers (numbers : Decimal → Prop) : List (PyStr × Json) → Nat → Prop
  | [], _ => True
  | (_, value) :: rest, depth => Decoded numbers value depth ∧ DecodedMembers numbers rest depth

end

variable {numbers : Decimal → Prop}

/-- Every member of the object. -/
theorem decodedMembers_iff {members : List (PyStr × Json)} {depth : Nat} :
    DecodedMembers numbers members depth ↔
      ∀ entry ∈ members, Decoded numbers entry.2 depth := by
  induction members with
  | nil => simp [DecodedMembers]
  | cons entry rest ih => simp [DecodedMembers, ih]

mutual

/-- More recursion does no harm. -/
theorem Decoded.deeper {depth limit : Nat} (more : depth ≤ limit) :
    ∀ {value : Json}, Decoded numbers value depth → Decoded numbers value limit
  | .null, held => held
  | .bool _, held => held
  | .int _, held => held
  | .decimal _, held => held
  | .nan, held => held
  | .infinity _, held => held
  | .str _, held => held
  | .arr _, held => ⟨held.1.trans_le more, DecodedItems.deeper (Nat.sub_le_sub_right more 1) held.2⟩
  | .obj _, held => ⟨held.1.trans_le more, held.2.1,
      DecodedMembers.deeper (Nat.sub_le_sub_right more 1) held.2.2⟩

/-- More recursion does no harm to the items of an array. -/
theorem DecodedItems.deeper {depth limit : Nat} (more : depth ≤ limit) :
    ∀ {items : List Json}, DecodedItems numbers items depth → DecodedItems numbers items limit
  | [], held => held
  | _ :: _, held => ⟨Decoded.deeper more held.1, DecodedItems.deeper more held.2⟩

/-- More recursion does no harm to the members of an object. -/
theorem DecodedMembers.deeper {depth limit : Nat} (more : depth ≤ limit) :
    ∀ {members : List (PyStr × Json)},
      DecodedMembers numbers members depth → DecodedMembers numbers members limit
  | [], held => held
  | (_, _) :: _, held => ⟨Decoded.deeper more held.1, DecodedMembers.deeper more held.2⟩

end

/-! ## Digits -/

/-- Digits behind digits. -/
theorem digitsValue_append (left right : PyStr) :
    digitsValue (left ++ right) = digitsValue left * 10 ^ right.length + digitsValue right := by
  have shifted : ∀ (digits : PyStr) (start : Nat),
      digits.foldl (fun value code => value * 10 + (code - 48)) start =
        start * 10 ^ digits.length + digitsValue digits := by
    intro digits
    induction digits with
    | nil => simp [digitsValue]
    | cons code rest ih =>
      intro start
      unfold digitsValue
      rw [List.foldl_cons, List.foldl_cons, ih, ih (0 * 10 + (code - 48)), List.length_cons]
      ring
  unfold digitsValue
  rw [List.foldl_append, shifted]
  rfl

/-- So many digits write a number below that power of ten. -/
theorem digitsValue_lt {digits : PyStr} (each : ∀ code ∈ digits, isDigit code = true) :
    digitsValue digits < 10 ^ digits.length := by
  induction digits using List.reverseRecOn with
  | nil => simp [digitsValue]
  | append_singleton rest code ih =>
    have bound := each code (by simp)
    have shorter := ih fun other member => each other (by simp [member])
    have last : digitsValue [code] = code - 48 := by simp [digitsValue]
    simp only [isDigit, Bool.and_eq_true, decide_eq_true_eq] at bound
    rw [digitsValue_append, last, List.length_append, List.length_singleton, Nat.pow_succ]
    omega

/-- The number that the text of a number writes. -/
theorem digitsValue_natText (number : Nat) : digitsValue (natText number) = number := by
  have read := @Nat.ofDigitChars_ten_toDigits number
  rw [Nat.ofDigitChars_eq_foldl] at read
  unfold digitsValue natText
  rw [List.foldl_map]
  conv_rhs => rw [← read]
  congr 1
  funext value digit
  rw [Nat.mul_comm value 10]
  rfl

/-- The characters of the text of a number. -/
theorem natText_isDigit {number code : Nat} (member : code ∈ natText number) :
    isDigit code = true := by
  have bound := natText_digits member
  simp only [isDigit, Bool.and_eq_true, decide_eq_true_eq]
  exact bound

/-- An integer of at most 4300 digits can be written. -/
theorem printable_digits {digits : PyStr} (each : ∀ code ∈ digits, isDigit code = true)
    (fits : digits.length ≤ maxIntDigits) (negative : Bool) :
    printable (if negative then -(digitsValue digits : Int) else digitsValue digits) = true := by
  have magnitude : (if negative then -(digitsValue digits : Int) else digitsValue digits).natAbs =
      digitsValue digits := by
    cases negative with
    | true => simp
    | false => simp
  have small : digitsValue digits < 10 ^ maxIntDigits :=
    (digitsValue_lt each).trans_le (Nat.pow_le_pow_right (by decide) fits)
  unfold printable
  rw [magnitude, decide_eq_true_eq]
  exact (natText_length_le (by decide)).mpr small

/-! ## The scanner -/

/-- The number of a token is possible. -/
theorem decimalOf_possible {negative : Bool} {digits fraction : PyStr} {exponent : Int}
    {value : Json} (made : decimalOf negative digits fraction exponent = .ok value) :
    ∃ number : Decimal, value = .decimal number ∧ number.Possible := by
  simp only [decimalOf] at made
  split at made
  · cases made
  · rename_i inside
    obtain rfl := Except.ok.inj made
    exact ⟨_, rfl, by dsimp only; omega, by dsimp only; omega⟩

/-- The digits before the point: a leading zero stands alone. -/
def leadingDigits (text : PyStr) : PyStr :=
  match text with
  | 48 :: _ => [48]
  | _ => text.takeWhile isDigit

/-- The digits before the point are digits. -/
theorem leadingDigits_digits {text : PyStr} {code : Nat} (member : code ∈ leadingDigits text) :
    isDigit code = true := by
  unfold leadingDigits at member
  split at member
  · rw [List.mem_singleton.mp member]
    rfl
  · exact List.mem_takeWhile_imp member

/-- `scanNumber` behind the digits before the point. -/
def scanAfterDigits (negative : Bool) (digits rest : PyStr) : Except PyError (Json × PyStr) :=
  let (fraction, afterFraction) := (scanFraction rest).getD ([], rest)
  let (exponent, last) := (scanExponent afterFraction).getD (0, afterFraction)
  if fraction = [] ∧ (scanExponent afterFraction).isNone then
    if maxIntDigits < digits.length then
      .error ⟨.valueError, py "Exceeds the limit (4300 digits) for integer string conversion"⟩
    else
      let magnitude : Int := digitsValue digits
      .ok (.int (if negative then -magnitude else magnitude), rest)
  else (decimalOf negative digits fraction exponent).map fun value => (value, last)

/-- A number is read in two parts. -/
theorem scanNumber_eq (negative : Bool) (text : PyStr) :
    scanNumber negative text = if leadingDigits text = [] then .error malformed
      else scanAfterDigits negative (leadingDigits text)
        (text.drop (leadingDigits text).length) := rfl

/-- A number token is read as an integer that can be written or as a possible decimal. -/
theorem scanNumber_decoded {negative : Bool} {text rest : PyStr} {value : Json} {depth : Nat}
    (read : scanNumber negative text = .ok (value, rest)) :
    Decoded Decimal.Possible value depth := by
  rw [scanNumber_eq] at read
  split at read
  · cases read
  unfold scanAfterDigits at read
  dsimp only at read
  split at read
  · split at read
    · cases read
    · rename_i fits
      obtain ⟨rfl, -⟩ := Prod.mk.inj (Except.ok.inj read)
      exact printable_digits (fun _ => leadingDigits_digits) (Nat.not_lt.mp fits) negative
  · obtain ⟨number, made, pair⟩ := map_eq_ok.mp read
    obtain ⟨rfl, -⟩ := Prod.mk.inj pair
    obtain ⟨decimal, rfl, possible⟩ := decimalOf_possible made
    exact possible

/-- A literal word denotes its value. -/
theorem scanWord_value {word : String} {value found : Json} {text rest : PyStr}
    (read : scanWord word value text = .ok (found, rest)) : found = value := by
  unfold scanWord at read
  split at read
  · exact (Prod.mk.inj (Except.ok.inj read)).1.symm
  · cases read

/-- The keys after a member was set. -/
theorem setMember_keys {members : List (PyStr × Json)} {key : PyStr} {value : Json} :
    (setMember key value members).map Prod.fst =
      if key ∈ members.map Prod.fst then members.map Prod.fst
      else members.map Prod.fst ++ [key] := by
  induction members with
  | nil => rfl
  | cons entry rest ih =>
    obtain ⟨name, old⟩ := entry
    unfold setMember
    by_cases same : name = key
    · simp [same]
    · rw [if_neg same, List.map_cons, ih]
      by_cases later : key ∈ rest.map Prod.fst
      · rw [if_pos later, if_pos (by simp [later])]
        rfl
      · have absent : key ∉ ((name, old) :: rest).map Prod.fst := by
          rw [List.map_cons, List.mem_cons]
          rintro (clash | other)
          · exact same clash.symm
          · exact later other
        rw [if_neg later, if_neg absent]
        rfl

/-- The members after a member was set. -/
theorem mem_setMember {members : List (PyStr × Json)} {key : PyStr} {value : Json}
    {entry : PyStr × Json} (member : entry ∈ setMember key value members) :
    entry.2 = value ∨ entry ∈ members := by
  induction members with
  | nil =>
    rw [setMember, List.mem_singleton] at member
    exact Or.inl (by rw [member])
  | cons first rest ih =>
    obtain ⟨name, old⟩ := first
    unfold setMember at member
    split at member
    · rcases List.mem_cons.mp member with rfl | later
      · exact Or.inl rfl
      · exact Or.inr (List.mem_cons_of_mem _ later)
    · rcases List.mem_cons.mp member with rfl | later
      · exact Or.inr (List.mem_cons_self ..)
      · exact (ih later).imp_right (List.mem_cons_of_mem _)

/-- What the scanners guarantee of what they return, with so much work allowed. -/
structure Scans (fuel : Nat) : Prop where
  /-- A value. -/
  value : ∀ {depth : Nat} {text rest : PyStr} {value : Json},
    scanValue fuel depth text = .ok (value, rest) → Decoded Decimal.Possible value depth
  /-- The members of an object. -/
  members : ∀ {depth : Nat} {members found : List (PyStr × Json)} {text rest : PyStr},
    (members.map Prod.fst).Nodup → DecodedMembers Decimal.Possible members depth →
      scanMembers fuel depth members text = .ok (found, rest) →
        (found.map Prod.fst).Nodup ∧ DecodedMembers Decimal.Possible found depth
  /-- The items of an array. -/
  items : ∀ {depth : Nat} {text rest : PyStr} {items : List Json},
    scanItems fuel depth text = .ok (items, rest) → DecodedItems Decimal.Possible items depth

/-- Setting a member keeps the keys distinct. -/
theorem nodup_setMember {members : List (PyStr × Json)} (key : PyStr) (value : Json)
    (distinct : (members.map Prod.fst).Nodup) :
    ((setMember key value members).map Prod.fst).Nodup := by
  rw [setMember_keys]
  split
  · exact distinct
  · rename_i absent
    rw [List.nodup_append]
    refine ⟨distinct, by simp, ?_⟩
    rintro name present other last rfl
    exact absent (List.mem_singleton.mp last ▸ present)

/-- One value more, from what less work guarantees. -/
theorem Scans.value_succ {fuel depth : Nat} {text rest : PyStr} {value : Json}
    (scans : Scans fuel) (read : scanValue (fuel + 1) depth text = .ok (value, rest)) :
    Decoded Decimal.Possible value depth := by
  unfold scanValue at read
  split at read
  · obtain ⟨scanned, -, pair⟩ := map_eq_ok.mp read
    obtain ⟨rfl, -⟩ := Prod.mk.inj pair
    trivial
  · split at read
    · cases read
    · split at read
      · obtain ⟨rfl, -⟩ := Prod.mk.inj (Except.ok.inj read)
        exact ⟨Nat.succ_pos _, List.nodup_nil, trivial⟩
      · obtain ⟨found, inner, pair⟩ := map_eq_ok.mp read
        obtain ⟨rfl, -⟩ := Prod.mk.inj pair
        have first : (([] : List (PyStr × Json)).map Prod.fst).Nodup := List.nodup_nil
        exact ⟨Nat.succ_pos _, scans.members first trivial inner⟩
  · split at read
    · cases read
    · split at read
      · obtain ⟨rfl, -⟩ := Prod.mk.inj (Except.ok.inj read)
        exact ⟨Nat.succ_pos _, trivial⟩
      · obtain ⟨found, inner, pair⟩ := map_eq_ok.mp read
        obtain ⟨rfl, -⟩ := Prod.mk.inj pair
        exact ⟨Nat.succ_pos _, scans.items inner⟩
  -- The words come next, and everything else is a number.
  · rw [scanWord_value read]
    trivial
  · rw [scanWord_value read]
    trivial
  · rw [scanWord_value read]
    trivial
  · rw [scanWord_value read]
    trivial
  · rw [scanWord_value read]
    trivial
  · rw [scanWord_value read]
    trivial
  · exact scanNumber_decoded read
  · exact scanNumber_decoded read

/-- Members after those that were read before, from what less work guarantees. -/
theorem Scans.members_succ {fuel depth : Nat} {members found : List (PyStr × Json)}
    {text rest : PyStr} (scans : Scans fuel) (distinct : (members.map Prod.fst).Nodup)
    (held : DecodedMembers Decimal.Possible members depth)
    (read : scanMembers (fuel + 1) depth members text = .ok (found, rest)) :
    (found.map Prod.fst).Nodup ∧ DecodedMembers Decimal.Possible found depth := by
  unfold scanMembers at read
  split at read
  · obtain ⟨⟨scanned, afterKey⟩, -, read⟩ := bind_eq_ok.mp read
    dsimp only at read
    split at read
    · obtain ⟨⟨value, afterValue⟩, inner, read⟩ := bind_eq_ok.mp read
      have added : DecodedMembers Decimal.Possible
          (setMember (joinEscapes scanned) value members) depth := by
        rw [decodedMembers_iff] at held ⊢
        intro entry member
        rcases mem_setMember member with same | old
        · rw [same]
          exact scans.value inner
        · exact held entry old
      have apart := nodup_setMember (joinEscapes scanned) value distinct
      dsimp only at read
      split at read
      · obtain ⟨rfl, -⟩ := Prod.mk.inj (Except.ok.inj read)
        exact ⟨apart, added⟩
      · exact scans.members apart added read
      · cases read
    · cases read
  · cases read

/-- Items of an array, from what less work guarantees. -/
theorem Scans.items_succ {fuel depth : Nat} {text rest : PyStr} {items : List Json}
    (scans : Scans fuel) (read : scanItems (fuel + 1) depth text = .ok (items, rest)) :
    DecodedItems Decimal.Possible items depth := by
  unfold scanItems at read
  obtain ⟨⟨value, afterValue⟩, inner, read⟩ := bind_eq_ok.mp read
  dsimp only at read
  split at read
  · obtain ⟨rfl, -⟩ := Prod.mk.inj (Except.ok.inj read)
    exact ⟨scans.value inner, trivial⟩
  · obtain ⟨⟨others, last⟩, later, read⟩ := bind_eq_ok.mp read
    obtain ⟨rfl, -⟩ := Prod.mk.inj (Except.ok.inj read)
    exact ⟨scans.value inner, scans.items later⟩
  · cases read

/-- The scanners return decoded values, whatever work is allowed. -/
theorem scans (fuel : Nat) : Scans fuel := by
  induction fuel with
  | zero =>
    constructor
    · intro depth text rest value read
      cases read
    · intro depth members found text rest distinct held read
      cases read
    · intro depth text rest items read
      cases read
  | succ fuel less =>
    exact ⟨less.value_succ, less.members_succ, less.items_succ⟩

/-- `json.loads` returns decoded values. -/
theorem loads_decoded {depth : Nat} {text : PyStr} {value : Json}
    (read : loads depth text = .ok value) : Decoded Decimal.Possible value depth := by
  obtain ⟨⟨found, rest⟩, scanned, ending⟩ := bind_eq_ok.mp read
  dsimp only at ending
  split at ending
  · rw [← Except.ok.inj ending]
    exact (scans _).value scanned
  · cases ending

/-- A member of a decoded object is decoded. -/
theorem Decoded.get {members : List (PyStr × Json)} {depth : Nat}
    (held : Decoded numbers (.obj members) depth) (key : PyStr) :
    Decoded numbers (Json.get members key) (depth - 1) := by
  unfold Json.get member?
  cases found : members.find? fun entry => entry.1 = key with
  | none => trivial
  | some entry =>
    exact decodedMembers_iff.mp held.2.2 entry (List.mem_of_find?_eq_some found)

end Json

end Python
