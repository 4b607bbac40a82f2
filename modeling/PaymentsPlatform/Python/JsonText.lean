import PaymentsPlatform.Python.Canonical

/-!
# Texts read back

`json.loads` reads what `json.dumps` wrote of a decoded value: the canonical form of the value, in
the order it was written. The decimal numbers of the value are strings by then.
-/

namespace Python

namespace Json

/-! ## Strings -/

/-- What the scanner notes of a character that was written: control characters without a short
escape are written as `\u` escapes. -/
def escapeMark (code : Nat) : Nat × Bool :=
  (code, decide (code < 32) && !decide (code ∈ [8, 9, 10, 12, 13]))

/-- A written character is read back. -/
theorem scanString_escapeChar (code : Nat) (rest : PyStr) :
    scanString (escapeChar code ++ rest) =
      (scanString rest).map fun (text, rest) => (escapeMark code :: text, rest) := by
  by_cases control : code < 32
  · interval_cases code <;> rfl
  by_cases quoted : code = 34
  · subst quoted
    rfl
  by_cases slashed : code = 92
  · subst slashed
    rfl
  have plain : escapeChar code = [code] := by
    unfold escapeChar
    rw [if_neg quoted, if_neg slashed, if_neg (by omega), if_neg (by omega), if_neg (by omega),
      if_neg (by omega), if_neg (by omega), if_neg control]
  have mark : escapeMark code = (code, false) := by
    rw [escapeMark, decide_eq_false control, Bool.false_and]
  rw [plain, mark, List.singleton_append, scanString.eq_def]
  split
  · rename_i empty
    cases empty
  · rename_i same
    exact absurd (List.cons.inj same).1 quoted
  · rename_i same
    exact absurd (List.cons.inj same).1 slashed
  · rename_i same
    exact absurd (List.cons.inj same).1 slashed
  · rename_i same
    exact absurd (List.cons.inj same).1 slashed
  · rename_i same
    obtain ⟨rfl, rfl⟩ := List.cons.inj same
    rw [if_neg control]

/-- A written string is read back up to its closing quote. -/
theorem scanString_flatMap (text rest : PyStr) :
    scanString (text.flatMap escapeChar ++ 34 :: rest) = .ok (text.map escapeMark, rest) := by
  induction text with
  | nil => rfl
  | cons code text ih =>
    rw [List.flatMap_cons, List.append_assoc, scanString_escapeChar, ih]
    rfl

/-- An escape that is no surrogate is not joined with the next one. -/
theorem joinEscapes_cons (code : Nat) (escaped : Bool) (rest : List (Nat × Bool))
    (apart : escaped = true → code < 0xD800) :
    joinEscapes ((code, escaped) :: rest) = code :: joinEscapes rest := by
  rw [joinEscapes.eq_def]
  split
  · rename_i same
    obtain ⟨pair, rfl⟩ := List.cons.inj same
    obtain ⟨rfl, rfl⟩ := Prod.mk.inj pair
    rw [if_neg (by have := apart rfl; omega)]
  · rename_i same
    obtain ⟨pair, rfl⟩ := List.cons.inj same
    obtain ⟨rfl, -⟩ := Prod.mk.inj pair
    rfl
  · rename_i empty
    cases empty

/-- The characters that were written. -/
theorem joinEscapes_marks (text : PyStr) : joinEscapes (text.map escapeMark) = text := by
  induction text with
  | nil => rfl
  | cons code text ih =>
    rw [List.map_cons, escapeMark, joinEscapes_cons, ih]
    intro escaped
    rw [Bool.and_eq_true, decide_eq_true_eq] at escaped
    omega

/-! ## Numbers -/

/-- The text behind a number does not go on with it. -/
def Stops (rest : PyStr) : Prop :=
  ∀ code ∈ rest.head?, isDigit code = false ∧ code ≠ 46 ∧ code ≠ 101 ∧ code ≠ 69

/-- A positive number does not start with a zero. -/
theorem natText_head {number : Nat} (positive : number ≠ 0) (tail : PyStr) :
    natText number ≠ 48 :: tail := by
  intro shape
  have value := digitsValue_natText number
  have digits : ∀ code ∈ tail, isDigit code = true := fun code member =>
    @natText_isDigit number code (by rw [shape]; exact List.mem_cons_of_mem _ member)
  have zero : digitsValue (48 :: tail) = digitsValue tail := by simp [digitsValue]
  have small := digitsValue_lt digits
  rw [shape, zero] at value
  rw [value] at small
  cases tail with
  | nil => exact positive value.symm
  | cons code tail =>
    have short := (natText_length_le (Nat.succ_pos _)).mpr small
    rw [shape, List.length_cons] at short
    exact absurd short (by simp)

/-- The digits of a written number are found again. -/
theorem leadingDigits_natText (number : Nat) {rest : PyStr} (stops : Stops rest) :
    leadingDigits (natText number ++ rest) = natText number := by
  by_cases zero : number = 0
  · subst zero
    rfl
  · have none : rest.takeWhile isDigit = [] := by
      cases rest with
      | nil => rfl
      | cons code tail =>
        rw [List.takeWhile_cons_of_neg]
        simpa using (stops code rfl).1
    have scanned : (natText number ++ rest).takeWhile isDigit = natText number := by
      rw [List.takeWhile_append_of_pos fun code member => natText_isDigit member, none,
        List.append_nil]
    unfold leadingDigits
    split
    · rename_i tail shape
      obtain ⟨first, digits, cons⟩ := List.exists_cons_of_ne_nil (natText_ne_nil number)
      rw [cons, List.cons_append] at shape
      rw [(List.cons.inj shape).1] at cons
      exact absurd cons (natText_head zero digits)
    · exact scanned

/-- A written integer is read back. -/
theorem scanNumber_natText (negative : Bool) {number : Nat} {rest : PyStr}
    (fits : (natText number).length ≤ maxIntDigits) (stops : Stops rest) :
    scanNumber negative (natText number ++ rest) =
      .ok (.int (if negative then -number else number), rest) := by
  have fraction : scanFraction rest = none := by
    unfold scanFraction
    split
    · exact absurd rfl (stops 46 rfl).2.1
    · rfl
  have exponent : scanExponent rest = none := by
    unfold scanExponent
    split
    · rename_i letter tail
      obtain ⟨-, -, lower, upper⟩ := stops letter rfl
      rw [if_neg (by omega)]
    · rfl
  rw [scanNumber_eq, leadingDigits_natText number stops, if_neg (natText_ne_nil number),
    List.drop_left]
  unfold scanAfterDigits
  rw [fraction]
  dsimp only [Option.getD_none]
  rw [exponent]
  dsimp only [Option.getD_none]
  rw [if_pos ⟨rfl, rfl⟩, if_neg (Nat.not_lt.mpr fits), digitsValue_natText]

/-- A text that starts with a digit is a number. -/
theorem scanValue_digit {fuel depth code : Nat} {rest : PyStr} (digit : isDigit code = true) :
    scanValue (fuel + 1) depth (code :: rest) = scanNumber false (code :: rest) := by
  simp only [isDigit, Bool.and_eq_true, decide_eq_true_eq] at digit
  obtain ⟨low, high⟩ := digit
  unfold scanValue
  interval_cases code <;> rfl

/-- A text that starts with a minus sign and a digit is a number. -/
theorem scanValue_minus {fuel depth code : Nat} {rest : PyStr} (digit : isDigit code = true) :
    scanValue (fuel + 1) depth (45 :: code :: rest) = scanNumber true (code :: rest) := by
  simp only [isDigit, Bool.and_eq_true, decide_eq_true_eq] at digit
  obtain ⟨low, high⟩ := digit
  unfold scanValue
  interval_cases code <;> rfl

/-- The integer of a text of digits behind its sign. -/
theorem scanValue_intText {fuel depth : Nat} {number : Int} {rest : PyStr}
    (fits : printable number = true) (stops : Stops rest) :
    scanValue (fuel + 1) depth (intText number ++ rest) = .ok (.int number, rest) := by
  unfold printable at fits
  rw [decide_eq_true_eq] at fits
  have first : ∀ natural : Nat, ∃ code tail, natText natural = code :: tail ∧
      isDigit code = true := by
    intro natural
    obtain ⟨code, tail, shape⟩ := List.exists_cons_of_ne_nil (natText_ne_nil natural)
    exact ⟨code, tail, shape, @natText_isDigit natural code (by rw [shape]; simp)⟩
  cases number with
  | ofNat natural =>
    obtain ⟨code, tail, shape, digit⟩ := first natural
    have read := scanNumber_natText false fits stops
    rw [intText, shape, List.cons_append, scanValue_digit digit, ← List.cons_append, ← shape]
    exact read
  | negSucc natural =>
    obtain ⟨code, tail, shape, digit⟩ := first (natural + 1)
    have read := scanNumber_natText true fits stops
    have sign : py "-" = [45] := rfl
    rw [intText, sign, shape, List.singleton_append, List.cons_append, List.cons_append,
      scanValue_minus digit, ← List.cons_append, ← shape]
    exact read

/-! ## Values -/

/-- A written value starts with a character that is no white space and closes no array. -/
theorem render_head (value : Json) :
    ∃ code tail, render value = code :: tail ∧ isSpace code = false ∧ code ≠ 93 := by
  have number : ∀ natural : Nat, ∃ code tail, natText natural = code :: tail ∧
      isSpace code = false ∧ code ≠ 93 := by
    intro natural
    obtain ⟨code, tail, shape⟩ := List.exists_cons_of_ne_nil (natText_ne_nil natural)
    have digit := @natText_digits natural code (by rw [shape]; simp)
    refine ⟨code, tail, shape, ?_, by omega⟩
    simp only [isSpace, Bool.or_eq_false_iff, decide_eq_false_iff_not]
    omega
  cases value with
  | null => exact ⟨_, _, rfl, rfl, by decide⟩
  | bool flag =>
    cases flag with
    | true => exact ⟨_, _, rfl, rfl, by decide⟩
    | false => exact ⟨_, _, rfl, rfl, by decide⟩
  | int value =>
    cases value with
    | ofNat natural => exact number natural
    | negSucc natural => exact ⟨_, _, rfl, rfl, by decide⟩
  | decimal value => exact ⟨_, _, rfl, rfl, by decide⟩
  | nan => exact ⟨_, _, rfl, rfl, by decide⟩
  | infinity negative =>
    cases negative with
    | true => exact ⟨_, _, rfl, rfl, by decide⟩
    | false => exact ⟨_, _, rfl, rfl, by decide⟩
  | str value => exact ⟨_, _, rfl, rfl, by decide⟩
  | arr items => exact ⟨_, _, rfl, rfl, by decide⟩
  | obj members => exact ⟨_, _, rfl, rfl, by decide⟩

/-- No white space stands before a written value. -/
theorem dropWhile_render (value : Json) (rest : PyStr) :
    (render value ++ rest).dropWhile isSpace = render value ++ rest := by
  obtain ⟨code, tail, shape, visible, -⟩ := render_head value
  rw [shape, List.cons_append, List.dropWhile_cons_of_neg]
  rw [visible]
  decide

/-- The items of an array that has some, up to the first comma. -/
theorem renderItems_cons (item : Json) (rest : List Json) :
    renderItems (item :: rest) = render item ++
      (if rest = [] then [] else 44 :: renderItems rest) := by
  cases rest with
  | nil => simp [renderItems]
  | cons next later =>
    rw [renderItems.eq_3 _ _ (by simp), if_neg (List.cons_ne_nil _ _)]
    simp [py]

/-- The members of an object that has some, up to the first comma. -/
theorem renderMembers_cons (name : PyStr) (value : Json) (rest : List (PyStr × Json)) :
    renderMembers ((name, value) :: rest) = 34 :: (name.flatMap escapeChar ++ 34 :: 58 ::
      (render value ++ (if rest = [] then [] else 44 :: renderMembers rest))) := by
  cases rest with
  | nil => simp [renderMembers, quote, py]
  | cons next later =>
    rw [renderMembers.eq_3 _ _ _ (by simp), if_neg (List.cons_ne_nil _ _)]
    simp [quote, py]

/-- A value stops before what may stand behind it. -/
theorem stops_mark {code : Nat} (rest : PyStr) (mark : code ∈ [44, 93, 125]) :
    Stops (code :: rest) := by
  intro other first
  obtain rfl := Option.some.inj first
  simp only [List.mem_cons, List.not_mem_nil, or_false] at mark
  rcases mark with rfl | rfl | rfl
  · decide
  · decide
  · decide

/-- A new key goes behind the others. -/
theorem setMember_fresh {members : List (PyStr × Json)} {key : PyStr} (value : Json)
    (fresh : key ∉ members.map Prod.fst) :
    setMember key value members = members ++ [(key, value)] := by
  induction members with
  | nil => rfl
  | cons entry rest ih =>
    obtain ⟨name, old⟩ := entry
    rw [List.map_cons, List.mem_cons, not_or] at fresh
    rw [setMember, if_neg (Ne.symm fresh.1), ih fresh.2]
    rfl

/-- One member is read, and the comma or the brace behind it decides what follows. -/
theorem scanMembers_step {fuel depth : Nat} {found : List (PyStr × Json)} {name : PyStr}
    {value : Json} {tail : PyStr} (fresh : name ∉ found.map Prod.fst)
    (read : scanValue fuel depth (render value ++ tail) = .ok (value, tail)) :
    scanMembers (fuel + 1) depth found
        (34 :: (name.flatMap escapeChar ++ 34 :: 58 :: (render value ++ tail))) =
      match tail.dropWhile isSpace with
      | 125 :: rest => .ok (found ++ [(name, value)], rest)
      | 44 :: rest => scanMembers fuel depth (found ++ [(name, value)]) (rest.dropWhile isSpace)
      | _ => .error malformed := by
  have colon : ∀ text : PyStr, (58 :: text).dropWhile isSpace = 58 :: text := fun _ => rfl
  rw [scanMembers]
  simp only [scanString_flatMap, bind, Except.bind, colon, dropWhile_render, read,
    joinEscapes_marks, setMember_fresh value fresh]
  try rfl

/-- One item is read, and the comma or the bracket behind it decides what follows. -/
theorem scanItems_step {fuel depth : Nat} {item : Json} {tail : PyStr}
    (read : scanValue fuel depth (render item ++ tail) = .ok (item, tail)) :
    scanItems (fuel + 1) depth (render item ++ tail) =
      match tail.dropWhile isSpace with
      | 93 :: rest => .ok ([item], rest)
      | 44 :: rest => do
        let (items, rest) ← scanItems fuel depth (rest.dropWhile isSpace)
        .ok (item :: items, rest)
      | _ => .error malformed := by
  rw [scanItems]
  simp only [bind, Except.bind, read]
  try rfl

/-- A written string is read back. -/
theorem scanValue_quote (fuel depth : Nat) (text rest : PyStr) :
    scanValue (fuel + 1) depth (quote text ++ rest) = .ok (.str text, rest) := by
  have mark : py "\"" = [34] := rfl
  have shape : quote text ++ rest = 34 :: (text.flatMap escapeChar ++ 34 :: rest) := by
    simp [quote, mark]
  rw [shape, scanValue]
  dsimp only
  rw [scanString_flatMap, Except.map, joinEscapes_marks]

mutual

/-- A written value is read back, whatever stands behind it. -/
theorem scanValue_render : ∀ (value : Json) {fuel depth : Nat} {rest : PyStr},
    Decoded (fun _ => False) value depth → Stops rest → (render value).length < fuel →
      scanValue fuel depth (render value ++ rest) = .ok (value, rest)
  | value, 0, _, _, _, _, room => absurd room (Nat.not_lt_zero _)
  | .null, fuel + 1, depth, rest, _, _, _ => rfl
  | .bool true, fuel + 1, depth, rest, _, _, _ => rfl
  | .bool false, fuel + 1, depth, rest, _, _, _ => rfl
  | .int _, fuel + 1, depth, rest, held, stops, _ => scanValue_intText held stops
  | .nan, fuel + 1, depth, rest, _, _, _ => rfl
  | .infinity true, fuel + 1, depth, rest, _, _, _ => rfl
  | .infinity false, fuel + 1, depth, rest, _, _, _ => rfl
  | .str text, fuel + 1, depth, rest, _, _, _ => scanValue_quote fuel depth text rest
  | .arr items, fuel + 1, 0, rest, held, _, _ => absurd held.1 (Nat.not_lt_zero _)
  | .arr items, fuel + 1, depth + 1, rest, held, _, room => by
    have shape : render (.arr items) ++ rest = 91 :: (renderItems items ++ 93 :: rest) := by
      simp [render, py]
    have size : (renderItems items).length + 1 < fuel := by
      have length : (render (.arr items)).length = (renderItems items).length + 2 := by
        simp [render, py]
      omega
    rw [shape, scanValue]
    dsimp only
    cases items with
    | nil => rfl
    | cons item others =>
      have read := @scanItems_render (item :: others) fuel depth rest (List.cons_ne_nil _ _)
        held.2 size
      obtain ⟨code, tail, first, visible, closed⟩ := render_head item
      rw [renderItems_cons, first] at read ⊢
      simp only [List.cons_append] at read ⊢
      rw [List.dropWhile_cons_of_neg (by rw [visible]; decide)]
      split
      · rename_i same
        exact absurd (List.cons.inj same).1 closed
      · rw [read]
        rfl
  | .obj members, fuel + 1, 0, rest, held, _, _ => absurd held.1 (Nat.not_lt_zero _)
  | .obj members, fuel + 1, depth + 1, rest, held, _, room => by
    have shape : render (.obj members) ++ rest =
        123 :: (renderMembers members ++ 125 :: rest) := by
      simp [render, py]
    have size : (renderMembers members).length + 1 < fuel := by
      have length : (render (.obj members)).length = (renderMembers members).length + 2 := by
        simp [render, py]
      omega
    rw [shape, scanValue]
    dsimp only
    cases members with
    | nil => rfl
    | cons entry others =>
      obtain ⟨name, value⟩ := entry
      have read := @scanMembers_render ((name, value) :: others) fuel depth [] rest
        (List.cons_ne_nil _ _) held.2.1 held.2.2 size
      rw [renderMembers_cons] at read ⊢
      simp only [List.cons_append] at read ⊢
      rw [List.dropWhile_cons_of_neg (by decide)]
      split
      · rename_i same
        exact absurd (List.cons.inj same).1 (by decide)
      · rw [read]
        rfl

/-- The written items of an array are read back. -/
theorem scanItems_render : ∀ (items : List Json) {fuel depth : Nat} {rest : PyStr},
    items ≠ [] → DecodedItems (fun _ => False) items depth →
      (renderItems items).length + 1 < fuel →
        scanItems fuel depth (renderItems items ++ 93 :: rest) = .ok (items, rest)
  | [], _, _, _, nonempty, _, _ => absurd rfl nonempty
  | item :: others, 0, _, _, _, _, room => absurd room (Nat.not_lt_zero _)
  | item :: others, fuel + 1, depth, rest, _, held, room => by
    rw [renderItems_cons] at room ⊢
    rw [List.length_append] at room
    rw [List.append_assoc]
    by_cases last : others = []
    · subst last
      rw [if_pos rfl, List.nil_append]
      rw [scanItems_step (scanValue_render item held.1 (stops_mark rest (by decide)) (by omega)),
        List.dropWhile_cons_of_neg (by decide)]
      rfl
    · rw [if_neg last, List.cons_append] at *
      rw [List.length_cons] at room
      rw [scanItems_step (scanValue_render item held.1 (stops_mark _ (by decide)) (by omega)),
        List.dropWhile_cons_of_neg (by decide)]
      obtain ⟨next, later, rfl⟩ := List.exists_cons_of_ne_nil last
      have read := @scanItems_render (next :: later) fuel depth rest last held.2 (by omega)
      have visible : (renderItems (next :: later) ++ 93 :: rest).dropWhile isSpace =
          renderItems (next :: later) ++ 93 :: rest := by
        rw [renderItems_cons, List.append_assoc, dropWhile_render]
      change (do
        let (items, rest) ← scanItems fuel depth
          ((renderItems (next :: later) ++ 93 :: rest).dropWhile isSpace)
        .ok (item :: items, rest)) = _
      rw [visible, read]
      rfl

/-- The written members of an object are read back behind those that were found before. -/
theorem scanMembers_render : ∀ (members : List (PyStr × Json)) {fuel depth : Nat}
    {found : List (PyStr × Json)} {rest : PyStr},
    members ≠ [] → ((found ++ members).map Prod.fst).Nodup →
      DecodedMembers (fun _ => False) members depth →
        (renderMembers members).length + 1 < fuel →
          scanMembers fuel depth found (renderMembers members ++ 125 :: rest) =
            .ok (found ++ members, rest)
  | [], _, _, _, _, nonempty, _, _, _ => absurd rfl nonempty
  | (name, value) :: others, 0, _, _, _, _, _, _, room => absurd room (Nat.not_lt_zero _)
  | (name, value) :: others, fuel + 1, depth, found, rest, _, distinct, held, room => by
    have fresh : name ∉ found.map Prod.fst := by
      intro present
      rw [List.map_append, List.nodup_append] at distinct
      exact distinct.2.2 name present name (by simp) rfl
    rw [renderMembers_cons] at room ⊢
    simp only [List.length_cons, List.length_append] at room
    simp only [List.cons_append, List.append_assoc]
    by_cases last : others = []
    · subst last
      rw [if_pos rfl, List.nil_append, scanMembers_step fresh
        (scanValue_render value held.1 (stops_mark rest (by decide)) (by omega)),
        List.dropWhile_cons_of_neg (by decide)]
      rfl
    · rw [if_neg last] at *
      rw [List.length_cons] at room
      rw [List.cons_append, scanMembers_step fresh
        (scanValue_render value held.1 (stops_mark _ (by decide)) (by omega)),
        List.dropWhile_cons_of_neg (by decide)]
      obtain ⟨next, later, rfl⟩ := List.exists_cons_of_ne_nil last
      have read := @scanMembers_render (next :: later) fuel depth (found ++ [(name, value)]) rest
        last (by rw [List.append_assoc]; exact distinct) held.2 (by omega)
      have visible : (renderMembers (next :: later) ++ 125 :: rest).dropWhile isSpace =
          renderMembers (next :: later) ++ 125 :: rest := by
        obtain ⟨nextName, nextValue⟩ := next
        rw [renderMembers_cons]
        rfl
      change scanMembers fuel depth (found ++ [(name, value)])
        ((renderMembers (next :: later) ++ 125 :: rest).dropWhile isSpace) = _
      rw [visible, read, List.append_assoc]
      rfl

end

/-- `json.loads` reads the canonical form from what `json.dumps` wrote. -/
theorem loads_dumps {numbers : Decimal → Prop} {depth : Nat} {value : Json}
    (held : Decoded numbers value depth) : loads depth (dumps value) = .ok (canonical value) := by
  have read := @scanValue_render (canonical value) ((dumps value).length + 1) depth []
    held.canonical (by rintro code ⟨⟩) (Nat.lt_succ_self _)
  have visible := dropWhile_render (canonical value) []
  rw [List.append_nil] at read visible
  unfold dumps at read ⊢
  unfold loads
  rw [visible, read]
  rfl

end Json

end Python
