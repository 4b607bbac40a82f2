import PaymentsPlatform.Python.Text

/-!
# SHA-256

`hashlib.sha256`. The developments below use no property of the digest but its length, so they
take it as a parameter of type `Sha256`; `sha256` is the function itself.
-/

namespace Python

/-- `hashlib.sha256(data).hexdigest()`. -/
structure Sha256 where
  /-- The lowercase digest of some content. -/
  hexdigest : Bytes → PyStr
  /-- A digest has 64 hexadecimal digits. -/
  hexdigest_length : ∀ data, (hexdigest data).length = 64
  /-- The digits are lowercase. -/
  hexdigest_digits : ∀ data, ∀ code ∈ hexdigest data,
    (48 ≤ code ∧ code ≤ 57) ∨ (97 ≤ code ∧ code ≤ 102)

namespace Sha256

/-- A 32-bit word. -/
abbrev Word := BitVec 32

/-- The round constants. -/
def roundConstants : List Word :=
  [0x428a2f98, 0x71374491, 0xb5c0fbcf, 0xe9b5dba5, 0x3956c25b, 0x59f111f1, 0x923f82a4, 0xab1c5ed5,
    0xd807aa98, 0x12835b01, 0x243185be, 0x550c7dc3, 0x72be5d74, 0x80deb1fe, 0x9bdc06a7, 0xc19bf174,
    0xe49b69c1, 0xefbe4786, 0x0fc19dc6, 0x240ca1cc, 0x2de92c6f, 0x4a7484aa, 0x5cb0a9dc, 0x76f988da,
    0x983e5152, 0xa831c66d, 0xb00327c8, 0xbf597fc7, 0xc6e00bf3, 0xd5a79147, 0x06ca6351, 0x14292967,
    0x27b70a85, 0x2e1b2138, 0x4d2c6dfc, 0x53380d13, 0x650a7354, 0x766a0abb, 0x81c2c92e, 0x92722c85,
    0xa2bfe8a1, 0xa81a664b, 0xc24b8b70, 0xc76c51a3, 0xd192e819, 0xd6990624, 0xf40e3585, 0x106aa070,
    0x19a4c116, 0x1e376c08, 0x2748774c, 0x34b0bcb5, 0x391c0cb3, 0x4ed8aa4a, 0x5b9cca4f, 0x682e6ff3,
    0x748f82ee, 0x78a5636f, 0x84c87814, 0x8cc70208, 0x90befffa, 0xa4506ceb, 0xbef9a3f7, 0xc67178f2]

/-- The chaining value. -/
structure State where
  /-- Eight words. -/
  (a b c d e f g h : Word)

/-- The initial chaining value. -/
def initial : State :=
  ⟨0x6a09e667, 0xbb67ae85, 0x3c6ef372, 0xa54ff53a, 0x510e527f, 0x9b05688c, 0x1f83d9ab, 0x5be0cd19⟩

/-- The most significant `width` bytes first. -/
def bigEndian (number : Nat) : Nat → Bytes
  | 0 => []
  | width + 1 => bigEndian (number / 256) width ++ [UInt8.ofNat number]

/-- The padded message: a one bit, zeros, and the length in bits. -/
def pad (data : Bytes) : Bytes :=
  data ++ 0x80 :: List.replicate ((119 - data.length % 64) % 64) 0 ++
    bigEndian (8 * data.length) 8

/-- The words of some bytes. -/
def words : Bytes → List Word
  | first :: second :: third :: fourth :: rest =>
    BitVec.ofNat 32 (((first.toNat * 256 + second.toNat) * 256 + third.toNat) * 256 +
      fourth.toNat) :: words rest
  | _ => []

/-- The message schedule, the latest word first, extended by `count` words. -/
def extend (schedule : List Word) : Nat → List Word
  | 0 => schedule
  | count + 1 =>
    let near := schedule.getD 1 0
    let far := schedule.getD 14 0
    let word := ((near.rotateRight 17 ^^^ near.rotateRight 19) ^^^ (near >>> 10)) +
      schedule.getD 6 0 + ((far.rotateRight 7 ^^^ far.rotateRight 18) ^^^ (far >>> 3)) +
      schedule.getD 15 0
    extend (word :: schedule) count

/-- One round. -/
def round (state : State) (input : Word × Word) : State :=
  let choice := (state.e &&& state.f) ^^^ (~~~ state.e &&& state.g)
  let majority := (state.a &&& state.b) ^^^ (state.a &&& state.c) ^^^ (state.b &&& state.c)
  let first := state.h + (state.e.rotateRight 6 ^^^ state.e.rotateRight 11 ^^^
    state.e.rotateRight 25) + choice + input.1 + input.2
  let second := (state.a.rotateRight 2 ^^^ state.a.rotateRight 13 ^^^ state.a.rotateRight 22) +
    majority
  ⟨first + second, state.a, state.b, state.c, state.d + first, state.e, state.f, state.g⟩

/-- One block of 16 words. -/
def compress (state : State) (block : List Word) : State :=
  let schedule := (extend block.reverse 48).reverse
  let last := (roundConstants.zip schedule).foldl round state
  ⟨state.a + last.a, state.b + last.b, state.c + last.c, state.d + last.d, state.e + last.e,
    state.f + last.f, state.g + last.g, state.h + last.h⟩

/-- The chaining value after `count` blocks. -/
def blocks (state : State) (message : List Word) : Nat → State
  | 0 => state
  | count + 1 => blocks (compress state (message.take 16)) (message.drop 16) count

/-- A lowercase hexadecimal digit. -/
def hexDigit (value : Nat) : Nat := if value < 10 then 48 + value else 87 + value

/-- The last `width` hexadecimal digits of a number. -/
def hex (number : Nat) : Nat → PyStr
  | 0 => []
  | width + 1 => hex (number / 16) width ++ [hexDigit (number % 16)]

/-- A number has as many digits as asked for. -/
theorem hex_length (number width : Nat) : (hex number width).length = width := by
  induction width generalizing number with
  | zero => rfl
  | succ width ih => rw [hex, List.length_append, ih]; rfl

/-- The digest of some content. -/
def digest (data : Bytes) : PyStr :=
  let message := words (pad data)
  let state := blocks initial message (message.length / 16)
  [state.a, state.b, state.c, state.d, state.e, state.f, state.g, state.h].flatMap
    fun word => hex word.toNat 8

/-- The digits of a number. -/
theorem hex_digits {number width code : Nat} (member : code ∈ hex number width) :
    (48 ≤ code ∧ code ≤ 57) ∨ (97 ≤ code ∧ code ≤ 102) := by
  induction width generalizing number with
  | zero => cases member
  | succ width ih =>
    rw [hex, List.mem_append, List.mem_singleton] at member
    obtain before | rfl := member
    · exact ih before
    · have bound : number % 16 < 16 := Nat.mod_lt _ (by decide)
      unfold hexDigit
      split <;> omega

end Sha256

/-- `hashlib.sha256`. -/
def sha256 : Sha256 where
  hexdigest := Sha256.digest
  hexdigest_length := fun data => by simp [Sha256.digest, Sha256.hex_length]
  hexdigest_digits := by
    intro data code member
    obtain ⟨word, -, inside⟩ := List.mem_flatMap.mp member
    exact Sha256.hex_digits inside

example : sha256.hexdigest (utf8 "abc") =
    py "ba7816bf8f01cfea414140de5dae2223b00361a396177a9cb410ff61f20015ad" := by decide +kernel

end Python
