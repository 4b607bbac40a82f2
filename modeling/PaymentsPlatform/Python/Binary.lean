import PaymentsPlatform.Python.Text

/-!
# Bytes and integers

Strict base64 decoding and big-endian integers in two's complement, with their round trips. The
shortest encoding of an integer is that of `BigInteger.toByteArray`, which Kafka Connect sends:
one bit more than the magnitude needs, rounded up to whole bytes.
-/

namespace Python

/-! ## Base64 -/

/-- The value of a base64 digit. -/
def base64Value (code : Nat) : Option Nat :=
  base64Alphabet.findIdx? fun digit => digit = code

/-- `base64.b64decode(text, validate=True)`; `none` is an error. -/
def base64Decode : PyStr → Option Bytes
  | [] => some []
  | [a, b, 61, 61] => do
    let a ← base64Value a
    let b ← base64Value b
    some [UInt8.ofNat (a * 4 + b / 16)]
  | [a, b, c, 61] => do
    let a ← base64Value a
    let b ← base64Value b
    let c ← base64Value c
    some [UInt8.ofNat (a * 4 + b / 16), UInt8.ofNat (b * 16 + c / 4)]
  | a :: b :: c :: d :: rest => do
    let a ← base64Value a
    let b ← base64Value b
    let c ← base64Value c
    let d ← base64Value d
    let bytes ← base64Decode rest
    some (UInt8.ofNat (a * 4 + b / 16) :: UInt8.ofNat (b * 16 + c / 4) ::
      UInt8.ofNat (c * 64 + d) :: bytes)
  | _ => none

/-- A digit has the value it was written for, and it is not the padding. -/
theorem base64Digit_value (value : Nat) (bound : value < 64) :
    base64Value (base64Digit value) = some value ∧ base64Digit value ≠ 61 := by
  have all : ∀ value < 64, base64Value (base64Digit value) = some value ∧
      base64Digit value ≠ 61 := by decide +kernel
  exact all value bound

/-- What holds of the digits and of the padding holds of the text. -/
theorem base64_forall {P : Nat → Prop} (digits : ∀ value < 64, P (base64Digit value))
    (padding : P 61) (bytes : Bytes) : ∀ code ∈ base64 bytes, P code := by
  fun_induction base64 bytes with
  | case1 => simp
  | case2 a =>
    have := a.toNat_lt
    have first := digits (a.toNat / 4) (by omega)
    have second := digits (a.toNat % 4 * 16) (by omega)
    simp [first, second, padding]
  | case3 a b =>
    have := a.toNat_lt
    have := b.toNat_lt
    have first := digits (a.toNat / 4) (by omega)
    have second := digits (a.toNat % 4 * 16 + b.toNat / 16) (by omega)
    have third := digits (b.toNat % 16 * 4) (by omega)
    simp [first, second, third, padding]
  | case4 a b c rest ih =>
    have := a.toNat_lt
    have := b.toNat_lt
    have := c.toNat_lt
    have first := digits (a.toNat / 4) (by omega)
    have second := digits (a.toNat % 4 * 16 + b.toNat / 16) (by omega)
    have third := digits (b.toNat % 16 * 4 + c.toNat / 64) (by omega)
    have fourth := digits (c.toNat % 64) (by omega)
    simp only [List.forall_mem_cons]
    exact ⟨first, second, third, fourth, ih⟩

/-- The first digit of a text has the upper six bits of the first byte. -/
theorem base64_head (byte : UInt8) (rest : Bytes) :
    (base64 (byte :: rest)).head? = some (base64Digit (byte.toNat / 4)) := by
  match rest with
  | [] => rfl
  | [_] => rfl
  | _ :: _ :: _ => rfl

/-- A byte is what its number says. -/
theorem ofNat_eq {number : Nat} {byte : UInt8} (same : number % 256 = byte.toNat) :
    UInt8.ofNat number = byte := by
  apply UInt8.toNat_inj.mp
  rw [UInt8.toNat_ofNat', same]

/-- Four digits that do not end in padding. -/
theorem base64Decode_group {a b c d : Nat} (rest : PyStr) (digit : d ≠ 61) :
    base64Decode (a :: b :: c :: d :: rest) = (do
      let a ← base64Value a
      let b ← base64Value b
      let c ← base64Value c
      let d ← base64Value d
      let bytes ← base64Decode rest
      some (UInt8.ofNat (a * 4 + b / 16) :: UInt8.ofNat (b * 16 + c / 4) ::
        UInt8.ofNat (c * 64 + d) :: bytes)) := by
  rw [base64Decode]
  · intro _ same
    exact absurd same digit
  · intro same
    exact absurd same digit

/-- Decoding returns the bytes that were encoded. -/
theorem base64Decode_base64 (bytes : Bytes) : base64Decode (base64 bytes) = some bytes := by
  fun_induction base64 bytes with
  | case1 => rfl
  | case2 a =>
    have := a.toNat_lt
    simp only [base64Decode, (base64Digit_value (a.toNat / 4) (by omega)).1,
      (base64Digit_value (a.toNat % 4 * 16) (by omega)).1, Option.bind_eq_bind,
      Option.bind_some, Option.some.injEq, List.cons.injEq, and_true]
    exact ofNat_eq (by omega)
  | case3 a b =>
    have := a.toNat_lt
    have := b.toNat_lt
    have third := base64Digit_value (b.toNat % 16 * 4) (by omega)
    rw [base64Decode]
    · simp only [(base64Digit_value (a.toNat / 4) (by omega)).1,
        (base64Digit_value (a.toNat % 4 * 16 + b.toNat / 16) (by omega)).1, third.1,
        Option.bind_eq_bind, Option.bind_some, Option.some.injEq, List.cons.injEq, and_true]
      exact ⟨ofNat_eq (by omega), ofNat_eq (by omega)⟩
    · exact third.2
  | case4 a b c rest ih =>
    have := a.toNat_lt
    have := b.toNat_lt
    have := c.toNat_lt
    have fourth := base64Digit_value (c.toNat % 64) (by omega)
    rw [base64Decode_group _ fourth.2]
    simp only [(base64Digit_value (a.toNat / 4) (by omega)).1,
      (base64Digit_value (a.toNat % 4 * 16 + b.toNat / 16) (by omega)).1,
      (base64Digit_value (b.toNat % 16 * 4 + c.toNat / 64) (by omega)).1, fourth.1, ih,
      Option.bind_eq_bind, Option.bind_some, Option.some.injEq, List.cons.injEq, and_true]
    exact ⟨ofNat_eq (by omega), ofNat_eq (by omega), ofNat_eq (by omega)⟩

/-! ## Big-endian integers -/

/-- The number of big-endian bytes. -/
def natOfBytes (raw : Bytes) : Nat := raw.foldl (fun number byte => number * 256 + byte.toNat) 0

/-- `int.from_bytes(raw, byteorder="big", signed=True)`. -/
def signedOfBytes (raw : Bytes) : Int :=
  let unsigned : Nat := natOfBytes raw
  if raw.head?.any (128 ≤ ·) then (unsigned : Int) - 256 ^ raw.length else unsigned

/-- The last `width` big-endian bytes of a number. -/
def bytesOfNat : Nat → Nat → Bytes
  | 0, _ => []
  | width + 1, number => bytesOfNat width (number / 256) ++ [UInt8.ofNat (number % 256)]

/-- The bytes the shortest encoding of an integer needs. -/
def signedWidth : Int → Nat
  | .ofNat number => number.size / 8 + 1
  | .negSucc number => number.size / 8 + 1

/-- The shortest big-endian encoding in two's complement. -/
def signedBytes (number : Int) : Bytes :=
  bytesOfNat (signedWidth number) (number % 256 ^ signedWidth number).toNat

/-- The length of an encoding. -/
@[simp] theorem length_bytesOfNat (width number : Nat) :
    (bytesOfNat width number).length = width := by
  induction width generalizing number with
  | zero => rfl
  | succ width ih => rw [bytesOfNat, List.length_append, ih]; rfl

/-- The number of some bytes and one more. -/
theorem natOfBytes_append (raw : Bytes) (byte : UInt8) :
    natOfBytes (raw ++ [byte]) = natOfBytes raw * 256 + byte.toNat := by
  simp [natOfBytes, List.foldl_append]

/-- The number of the bytes of a number. -/
theorem natOfBytes_bytesOfNat (width number : Nat) :
    natOfBytes (bytesOfNat width number) = number % 256 ^ width := by
  induction width generalizing number with
  | zero => simp [bytesOfNat, natOfBytes, Nat.mod_one]
  | succ width ih =>
    have byte : (UInt8.ofNat (number % 256)).toNat = number % 256 := by
      rw [UInt8.toNat_ofNat']
      omega
    rw [bytesOfNat, natOfBytes_append, ih, byte, Nat.pow_succ, Nat.mul_comm (256 ^ width) 256,
      Nat.mod_mul]
    omega

/-- A number of the given bytes is below the next power. -/
theorem natOfBytes_lt (raw : Bytes) : natOfBytes raw < 256 ^ raw.length := by
  induction raw using List.reverseRecOn with
  | nil => simp [natOfBytes]
  | append_singleton raw byte ih =>
    have := byte.toNat_lt
    rw [natOfBytes_append, List.length_append, List.length_singleton, Nat.pow_succ]
    omega

/-- The first byte has the highest weight. -/
theorem natOfBytes_cons (byte : UInt8) (raw : Bytes) :
    natOfBytes (byte :: raw) = byte.toNat * 256 ^ raw.length + natOfBytes raw := by
  induction raw using List.reverseRecOn with
  | nil => simp [natOfBytes]
  | append_singleton raw last ih =>
    rw [← List.cons_append, natOfBytes_append, ih, natOfBytes_append, List.length_append,
      List.length_singleton, Nat.pow_succ]
    ring

/-- The sign bit stands for half of the range. -/
theorem sign_iff {raw : Bytes} {width : Nat} (size : raw.length = width + 1) :
    raw.head?.any (128 ≤ ·) = true ↔ 128 * 256 ^ width ≤ natOfBytes raw := by
  cases raw with
  | nil => cases size
  | cons byte rest =>
    have length : rest.length = width := Nat.succ.inj size
    have small := natOfBytes_lt rest
    rw [natOfBytes_cons, length]
    rw [length] at small
    simp only [List.head?_cons, Option.any_some, decide_eq_true_eq]
    have order : (128 : UInt8) ≤ byte ↔ 128 ≤ byte.toNat := Iff.rfl
    rw [order]
    constructor
    · intro high
      have := Nat.mul_le_mul_right (256 ^ width) high
      omega
    · intro large
      by_contra low
      have := Nat.mul_le_mul_right (256 ^ width) (Nat.le_of_lt_succ (Nat.lt_of_not_le low))
      have grown : byte.toNat * 256 ^ width + 256 ^ width ≤ 128 * 256 ^ width := by
        have := Nat.mul_le_mul_right (256 ^ width) (show byte.toNat + 1 ≤ 128 by omega)
        rw [Nat.add_mul, Nat.one_mul] at this
        exact this
      omega

/-- The encoding is wide enough for the integer and its sign. -/
theorem signedWidth_bounds (number : Int) : ∃ width, signedWidth number = width + 1 ∧
    -(128 * 256 ^ width : Int) ≤ number ∧ number < 128 * 256 ^ width := by
  have power : ∀ magnitude : Nat, (magnitude : Int) < 128 * 256 ^ (magnitude.size / 8) := by
    intro magnitude
    have bits : magnitude < 2 ^ (7 + 8 * (magnitude.size / 8)) :=
      Nat.size_le.mp (by omega)
    rw [Nat.pow_add, Nat.pow_mul] at bits
    have scaled : magnitude < 128 * 256 ^ (magnitude.size / 8) := bits
    zify at scaled
    exact scaled
  cases number with
  | ofNat magnitude =>
    refine ⟨magnitude.size / 8, rfl, ?_, power magnitude⟩
    have positive : (0 : Int) ≤ 128 * 256 ^ (magnitude.size / 8) := by positivity
    have natural : (0 : Int) ≤ Int.ofNat magnitude := Int.natCast_nonneg magnitude
    omega
  | negSucc magnitude =>
    have bound := power magnitude
    refine ⟨magnitude.size / 8, rfl, ?_, ?_⟩
    · rw [Int.negSucc_eq]
      omega
    · have negative := Int.negSucc_lt_zero magnitude
      omega

/-- Decoding the shortest encoding returns the integer. -/
theorem signedOfBytes_signedBytes (number : Int) : signedOfBytes (signedBytes number) = number := by
  obtain ⟨width, size, low, high⟩ := signedWidth_bounds number
  have length : (signedBytes number).length = width + 1 := by
    rw [signedBytes, length_bytesOfNat, size]
  have power : (256 : Int) ^ (width + 1) = 256 * 256 ^ width := by rw [pow_succ]; ring
  have positive : (0 : Int) < 256 ^ width := by positivity
  have remainder : 0 ≤ number % 256 ^ (width + 1) ∧
      number % 256 ^ (width + 1) < 256 ^ (width + 1) :=
    ⟨Int.emod_nonneg _ (by positivity), Int.emod_lt_of_pos _ (by positivity)⟩
  have unsigned : (natOfBytes (signedBytes number) : Int) = number % 256 ^ (width + 1) := by
    rw [signedBytes, size, natOfBytes_bytesOfNat, Nat.mod_eq_of_lt, Int.toNat_of_nonneg remainder.1]
    have := Int.toNat_of_nonneg remainder.1
    have bound := remainder.2
    zify
    omega
  have signed := sign_iff length
  zify at signed
  rw [unsigned] at signed
  unfold signedOfBytes
  simp only [unsigned, length]
  by_cases negative : number < 0
  · have wrapped : number % 256 ^ (width + 1) = number + 256 ^ (width + 1) := by
      rw [← Int.add_emod_right, Int.emod_eq_of_lt]
      · omega
      · omega
    rw [if_pos (signed.mpr (by rw [wrapped, power]; omega)), wrapped]
    omega
  · have plain : number % 256 ^ (width + 1) = number := by
      rw [Int.emod_eq_of_lt]
      · omega
      · omega
    rw [if_neg (fun high => by have := signed.mp high; rw [plain] at this; omega), plain]

example : base64 (signedBytes 12345) = py "MDk=" := by decide +kernel

end Python
