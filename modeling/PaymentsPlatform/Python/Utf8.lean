import PaymentsPlatform.Python.Text

/-!
# UTF-8 read back

`decode` returns every text that `encode` accepts: a text of code points, none of them a surrogate.
So two texts with the same bytes are the same text.
-/

namespace Python

/-- The text is one a Python string can be: no code is above the last code point. -/
def IsUnicode (text : PyStr) : Prop := ∀ code ∈ text, code < 0x110000

/-- The value of a byte that was made from a small number. -/
theorem toNat_ofNat_byte {number : Nat} (small : number < 256) :
    (UInt8.ofNat number).toNat = number := by
  rw [UInt8.toNat_ofNat']
  exact Nat.mod_eq_of_lt small

/-- A continuation byte has the bits it was made from. -/
theorem continuation_byte {bits : Nat} (small : bits < 64) :
    continuation (UInt8.ofNat (0x80 + bits)) = some bits := by
  unfold continuation
  rw [toNat_ofNat_byte (by omega), if_pos (by omega), Nat.add_sub_cancel_left]

/-- The bytes of one character are read back. -/
theorem decodeUtf8_char {code : Nat} (small : code < 0x110000) (whole : isSurrogate code = false)
    (rest : Bytes) : decodeUtf8 (utf8Char code ++ rest) = (decodeUtf8 rest).map (code :: ·) := by
  have apart : ¬ (0xD800 ≤ code ∧ code < 0xE000) := by
    simpa [isSurrogate] using whole
  unfold utf8Char
  by_cases one : code < 0x80
  · rw [if_pos one, List.singleton_append, decodeUtf8.eq_def]
    dsimp only
    rw [toNat_ofNat_byte (by omega), if_pos one]
  rw [if_neg one]
  by_cases two : code < 0x800
  · rw [if_pos two]
    simp only [List.cons_append, List.nil_append]
    rw [decodeUtf8.eq_def]
    dsimp only
    rw [toNat_ofNat_byte (by omega), if_neg (by omega), if_neg (by omega),
      if_pos (by omega), continuation_byte (by omega)]
    have value : (0xC0 + code / 64 - 0xC0) * 64 + code % 64 = code := by omega
    simp only [Option.bind_eq_bind, Option.bind_some, value]
    cases decodeUtf8 rest <;> rfl
  rw [if_neg two]
  by_cases three : code < 0x10000
  · rw [if_pos three]
    simp only [List.cons_append, List.nil_append]
    rw [decodeUtf8.eq_def]
    dsimp only
    rw [toNat_ofNat_byte (by omega), if_neg (by omega), if_neg (by omega),
      if_neg (by omega), if_pos (by omega), continuation_byte (by omega),
      continuation_byte (by omega)]
    have value : (0xE0 + code / 4096 - 0xE0) * 4096 + code / 64 % 64 * 64 + code % 64 = code := by
      omega
    have valid : ¬ (code < 0x800 ∨ (0xD800 ≤ code ∧ code < 0xE000)) := by omega
    simp only [Option.bind_eq_bind, Option.bind_some, value, if_neg valid]
    cases decodeUtf8 rest <;> rfl
  · rw [if_neg three]
    simp only [List.cons_append, List.nil_append]
    rw [decodeUtf8.eq_def]
    dsimp only
    rw [toNat_ofNat_byte (by omega), if_neg (by omega), if_neg (by omega),
      if_neg (by omega), if_neg (by omega), continuation_byte (by omega),
      continuation_byte (by omega), continuation_byte (by omega)]
    have value : (0xF0 + code / 262144 - 0xF0) * 262144 + code / 4096 % 64 * 4096 +
        code / 64 % 64 * 64 + code % 64 = code := by
      omega
    have valid : ¬ (code < 0x10000 ∨ 0x110000 ≤ code) := by omega
    simp only [Option.bind_eq_bind, Option.bind_some, value, if_neg valid]
    cases decodeUtf8 rest <;> rfl

/-- The bytes of a text are read back. -/
theorem decodeUtf8_utf8 {text : PyStr} (unicode : IsUnicode text) (whole : encodable text = true) :
    decodeUtf8 (utf8 text) = some text := by
  induction text with
  | nil => rfl
  | cons code rest ih =>
    rw [encodable, List.all_cons, Bool.and_eq_true, Bool.not_eq_true'] at whole
    have later := ih (fun other member => unicode other (List.mem_cons_of_mem _ member)) whole.2
    unfold utf8 at later ⊢
    rw [List.flatMap_cons, decodeUtf8_char (unicode code (List.mem_cons_self ..)) whole.1, later]
    rfl

/-- Texts with the same bytes are the same. -/
theorem utf8_injective {left right : PyStr} (unicode : IsUnicode left) (unicode' : IsUnicode right)
    (whole : encodable left = true) (whole' : encodable right = true)
    (same : utf8 left = utf8 right) : left = right := by
  have read := decodeUtf8_utf8 unicode whole
  rw [same, decodeUtf8_utf8 unicode' whole'] at read
  exact (Option.some.inj read).symm

end Python
