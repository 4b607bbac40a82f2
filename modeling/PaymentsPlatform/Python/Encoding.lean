import PaymentsPlatform.Python.Binary
import PaymentsPlatform.Python.Json
import PaymentsPlatform.Python.Path
import PaymentsPlatform.Python.Sha256

/-!
# Texts that can be encoded

Only a lone surrogate keeps a text from being encoded as UTF-8. Decoded bytes, numbers, digests
and base64 have none; a JSON document has one where a string or a member name of it has one, and
the compact dump keeps it.
-/

namespace Python

/-- A character below the surrogates can be encoded. -/
theorem not_isSurrogate_of_lt {code : Nat} (low : code < 0xD800) : (!isSurrogate code) = true := by
  simp only [isSurrogate, Bool.not_eq_true', Bool.and_eq_false_iff, decide_eq_false_iff_not]
  omega

/-- A text of characters below the surrogates can be encoded. -/
theorem encodable_of_lt {text : PyStr} (low : ∀ code ∈ text, code < 0xD800) :
    encodable text = true :=
  List.all_eq_true.mpr fun code member => not_isSurrogate_of_lt (low code member)

/-- A text can be encoded where its parts can. -/
@[simp] theorem encodable_append (left right : PyStr) :
    encodable (left ++ right) = (encodable left && encodable right) := List.all_append

/-- Numbers can be encoded. -/
theorem natText_encodable (number : Nat) : encodable (natText number) = true := by
  refine encodable_of_lt fun code member => ?_
  have := natText_digits member
  omega

/-- Integers can be encoded. -/
theorem intText_encodable (number : Int) : encodable (intText number) = true := by
  cases number with
  | ofNat number => exact natText_encodable number
  | negSucc number =>
    rw [intText, encodable_append, natText_encodable, Bool.and_true]
    decide

/-- Digests can be encoded. -/
theorem hexdigest_encodable (sha : Sha256) (data : Bytes) :
    encodable (sha.hexdigest data) = true := by
  refine encodable_of_lt fun code member => ?_
  have := sha.hexdigest_digits data code member
  omega

/-- Base64 can be encoded. -/
theorem base64_encodable (bytes : Bytes) : encodable (base64 bytes) = true := by
  refine encodable_of_lt (base64_forall ?_ (by decide) bytes)
  decide +kernel

/-- Decimals can be encoded. -/
theorem Decimal.text_encodable (value : Decimal) : encodable value.text = true := by
  have zeros : ∀ count, encodable (List.replicate count 48) = true := by
    intro count
    refine encodable_of_lt fun code member => ?_
    rw [List.eq_of_mem_replicate member]
    decide
  have part : ∀ {text : PyStr} {keep : Nat}, encodable text = true →
      encodable (text.take keep) = true ∧ encodable (text.drop keep) = true := by
    intro text keep whole
    rw [← List.take_append_drop keep text, encodable_append, Bool.and_eq_true] at whole
    exact whole
  have digits := natText_encodable value.coefficient
  have dot : encodable (py ".") = true := by decide
  have small : encodable (py "0.") = true := by decide
  have letter : encodable (py "E") = true := by decide
  have plus : encodable (py "+") = true := by decide
  have minus : encodable (py "-") = true := by decide
  unfold Decimal.text
  extract_lets written leftDigits dotPlace body shift power
  have main : encodable body = true := by
    unfold body
    split
    · rw [encodable_append, encodable_append, small, zeros, digits]
      rfl
    · split
      · rw [encodable_append, encodable_append, (part digits).1, dot, (part digits).2]
        rfl
      · rw [encodable_append, digits, zeros]
        rfl
  have scale : encodable power = true := by
    unfold power
    split
    · rfl
    · rw [encodable_append, encodable_append, letter, intText_encodable]
      split
      · rw [plus]
        rfl
      · rfl
  rw [encodable_append, encodable_append, main, scale]
  split
  · rw [minus]
    rfl
  · rfl

/-- A continuation byte carries six bits. -/
theorem continuation_lt {byte : UInt8} {bits : Nat} (carried : continuation byte = some bits) :
    bits < 64 := by
  unfold continuation at carried
  split at carried
  · obtain rfl := Option.some.inj carried
    omega
  · cases carried

/-- Decoded bytes can be encoded. -/
theorem decodeUtf8_encodable {bytes : Bytes} {text : PyStr}
    (decoded : decodeUtf8 bytes = some text) : encodable text = true := by
  have step : ∀ {code : Nat} {tail : PyStr}, isSurrogate code = false → encodable tail = true →
      encodable (code :: tail) = true := by
    intro code tail plain rest
    rw [encodable, List.all_cons, plain]
    exact rest
  fun_induction decodeUtf8 bytes generalizing text with
  | case1 =>
    obtain rfl := Option.some.inj decoded
    rfl
  | case2 a rest ascii ih =>
    obtain ⟨tail, read, rfl⟩ := Option.map_eq_some_iff.mp decoded
    exact step (by simp [isSurrogate]; omega) (ih read)
  | case3 => cases decoded
  | case4 a _ _ short b rest ih =>
    simp only [Option.bind_eq_bind, Option.bind_eq_some_iff] at decoded
    obtain ⟨low, carried, tail, read, same⟩ := decoded
    obtain rfl := Option.some.inj same
    have := continuation_lt carried
    exact step (by simp [isSurrogate]; omega) (ih read)
  | case5 => cases decoded
  | case6 a _ _ _ _ b c rest ih =>
    simp only [Option.bind_eq_bind, Option.bind_eq_some_iff] at decoded
    obtain ⟨high, -, low, -, tail, read, checked⟩ := decoded
    split at checked
    · cases checked
    · rename_i valid
      obtain rfl := Option.some.inj checked
      exact step (by simp [isSurrogate]; omega) (ih read)
  | case7 => cases decoded
  | case8 a _ _ _ _ b c d rest ih =>
    simp only [Option.bind_eq_bind, Option.bind_eq_some_iff] at decoded
    obtain ⟨first, -, second, -, third, -, tail, read, checked⟩ := decoded
    split at checked
    · cases checked
    · rename_i valid
      obtain rfl := Option.some.inj checked
      exact step (by simp [isSurrogate]; omega) (ih read)
  | case9 => cases decoded

/-! ## JSON documents -/

namespace Json

mutual

/-- No string and no member name of the document has a surrogate. -/
def encodable : Json → Bool
  | .str value => Python.encodable value
  | .arr items => encodableItems items
  | .obj members => encodableMembers members
  | _ => true

/-- The same for the items of an array. -/
def encodableItems : List Json → Bool
  | [] => true
  | item :: rest => encodable item && encodableItems rest

/-- The same for the members of an object. -/
def encodableMembers : List (PyStr × Json) → Bool
  | [] => true
  | (name, value) :: rest => Python.encodable name && encodable value && encodableMembers rest

end

/-- The order of the members does not matter. -/
theorem encodableMembers_sortMembers (members : List (PyStr × Json)) :
    encodableMembers (sortMembers members) = encodableMembers members := by
  have inserted : ∀ (entry : PyStr × Json) (rest : List (PyStr × Json)),
      encodableMembers (insertMember entry rest) =
        (Python.encodable entry.1 && encodable entry.2 && encodableMembers rest) := by
    intro entry rest
    induction rest with
    | nil => rfl
    | cons first rest ih =>
      unfold insertMember
      split
      · rfl
      · rw [encodableMembers, ih, encodableMembers]
        grind
  induction members with
  | nil => rfl
  | cons entry rest ih =>
    change encodableMembers (insertMember entry (sortMembers rest)) = _
    rw [inserted, ih]
    rfl

mutual

/-- The canonical form has the surrogates of the document. -/
theorem encodable_canonical : ∀ value : Json, encodable (canonical value) = encodable value
  | .null => rfl
  | .bool _ => rfl
  | .int _ => rfl
  | .decimal value => by
    rw [canonical, encodable, Decimal.text_encodable]
    rfl
  | .nan => rfl
  | .infinity _ => rfl
  | .str _ => rfl
  | .arr items => by
    rw [canonical, encodable, encodable_canonicalItems items]
    rfl
  | .obj members => by
    rw [canonical, encodable, encodableMembers_sortMembers, encodable_canonicalMembers members]
    rfl

/-- The same for the items of an array. -/
theorem encodable_canonicalItems : ∀ items : List Json,
    encodableItems (canonicalItems items) = encodableItems items
  | [] => rfl
  | item :: rest => by
    rw [canonicalItems, encodableItems, encodableItems, encodable_canonical item,
      encodable_canonicalItems rest]

/-- The same for the members of an object. -/
theorem encodable_canonicalMembers : ∀ members : List (PyStr × Json),
    encodableMembers (canonicalMembers members) = encodableMembers members
  | [] => rfl
  | (name, value) :: rest => by
    rw [canonicalMembers, encodableMembers, encodableMembers, encodable_canonical value,
      encodable_canonicalMembers rest]

end

/-- The escape of a character keeps a surrogate. -/
theorem escapeChar_encodable (code : Nat) :
    Python.encodable (escapeChar code) = !isSurrogate code := by
  by_cases low : code < 0xD800
  · rw [not_isSurrogate_of_lt low]
    refine encodable_of_lt fun other member => ?_
    have named : ∀ literal : PyStr, (∀ letter ∈ literal, letter < 0xD800) → other ∈ literal →
        other < 0xD800 := fun literal all inside => all other inside
    unfold escapeChar at member
    split at member
    · exact named _ (by decide) member
    split at member
    · exact named _ (by decide) member
    split at member
    · exact named _ (by decide) member
    split at member
    · exact named _ (by decide) member
    split at member
    · exact named _ (by decide) member
    split at member
    · exact named _ (by decide) member
    split at member
    · exact named _ (by decide) member
    split at member
    · rw [List.mem_append, List.mem_append, List.mem_singleton, List.mem_singleton] at member
      rcases member with (mark | rfl) | rfl
      · exact named _ (by decide) mark
      · omega
      · split
        · omega
        · omega
    · rw [List.mem_singleton.mp member]
      exact low
  · have high : 0xD800 ≤ code := Nat.le_of_not_lt low
    have plain : escapeChar code = [code] := by
      unfold escapeChar
      rw [if_neg (by omega), if_neg (by omega), if_neg (by omega), if_neg (by omega),
        if_neg (by omega), if_neg (by omega), if_neg (by omega), if_neg (by omega)]
    rw [plain, Python.encodable, List.all_cons, List.all_nil, Bool.and_true]

/-- A quoted text keeps its surrogates. -/
theorem quote_encodable (text : PyStr) : Python.encodable (quote text) = Python.encodable text := by
  have quotes : Python.encodable (py "\"") = true := by decide
  have body : Python.encodable (text.flatMap escapeChar) = Python.encodable text := by
    induction text with
    | nil => rfl
    | cons code rest ih =>
      rw [List.flatMap_cons, encodable_append, escapeChar_encodable, ih]
      rfl
  rw [quote, encodable_append, encodable_append, quotes, body, Bool.and_true, Bool.true_and]

mutual

/-- The text of a document has the surrogates of the document. -/
theorem encodable_render : ∀ value : Json, Python.encodable (render value) = encodable value
  | .null => by decide
  | .bool true => by decide
  | .bool false => by decide
  | .int value => by
    rw [render, intText_encodable]
    rfl
  | .decimal value => by
    rw [render, quote_encodable, Decimal.text_encodable]
    rfl
  | .nan => by decide
  | .infinity false => by decide
  | .infinity true => by decide
  | .str value => by
    rw [render, quote_encodable]
    rfl
  | .arr items => by
    rw [render, encodable_append, encodable_append, encodable_renderItems items]
    have brackets : Python.encodable (py "[") = true ∧ Python.encodable (py "]") = true := by decide
    rw [brackets.1, brackets.2, Bool.and_true, Bool.true_and]
    rfl
  | .obj members => by
    rw [render, encodable_append, encodable_append, encodable_renderMembers members]
    have braces : Python.encodable (py "\x7b") = true ∧ Python.encodable (py "\x7d") = true := by
      decide
    rw [braces.1, braces.2, Bool.and_true, Bool.true_and]
    rfl

/-- The same for the items of an array. -/
theorem encodable_renderItems : ∀ items : List Json,
    Python.encodable (renderItems items) = encodableItems items
  | [] => rfl
  | [item] => by
    rw [renderItems, encodable_render item, encodableItems, encodableItems, Bool.and_true]
  | item :: next :: rest => by
    have comma : Python.encodable (py ",") = true := by decide
    rw [renderItems, encodable_append, encodable_append, encodable_render item, comma,
      encodable_renderItems (next :: rest), encodableItems, Bool.and_true]
    · rfl
    · exact List.cons_ne_nil _ _

/-- The same for the members of an object. -/
theorem encodable_renderMembers : ∀ members : List (PyStr × Json),
    Python.encodable (renderMembers members) = encodableMembers members
  | [] => rfl
  | [(name, value)] => by
    have colon : Python.encodable (py ":") = true := by decide
    rw [renderMembers, encodable_append, encodable_append, quote_encodable, colon,
      encodable_render value, encodableMembers, encodableMembers, Bool.and_true, Bool.and_true]
  | (name, value) :: next :: rest => by
    have colon : Python.encodable (py ":") = true := by decide
    have comma : Python.encodable (py ",") = true := by decide
    rw [renderMembers, encodable_append, encodable_append, encodable_append, encodable_append,
      quote_encodable, colon, encodable_render value, comma,
      encodable_renderMembers (next :: rest), encodableMembers, Bool.and_true, Bool.and_true]
    · rfl
    · exact List.cons_ne_nil _ _

end

/-- A dump can be encoded where the document can. -/
theorem encodable_dumps (value : Json) : Python.encodable (dumps value) = encodable value := by
  rw [dumps, encodable_render, encodable_canonical]

end Json

end Python
