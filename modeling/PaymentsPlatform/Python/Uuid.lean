import PaymentsPlatform.Python.Sha256

/-!
# Name-based identifiers

`uuid.uuid5` and the SHA-1 it is built on. The message is padded and cut into words as for
SHA-256.
-/

namespace Python

namespace Sha1

open Sha256 (Word)

/-- The chaining value. -/
structure State where
  /-- Five words. -/
  (a b c d e : Word)

/-- The initial chaining value. -/
def initial : State := ⟨0x67452301, 0xefcdab89, 0x98badcfe, 0x10325476, 0xc3d2e1f0⟩

/-- The message schedule, the latest word first, extended by `count` words. -/
def extend (schedule : List Word) : Nat → List Word
  | 0 => schedule
  | count + 1 =>
    let word := schedule.getD 2 0 ^^^ schedule.getD 7 0 ^^^ schedule.getD 13 0 ^^^
      schedule.getD 15 0
    extend (word.rotateLeft 1 :: schedule) count

/-- The function and the constant of a round. -/
def mixed (state : State) (index : Nat) : Word × Word :=
  if index < 20 then ((state.b &&& state.c) ||| (~~~ state.b &&& state.d), 0x5a827999)
  else if index < 40 then (state.b ^^^ state.c ^^^ state.d, 0x6ed9eba1)
  else if index < 60 then
    ((state.b &&& state.c) ||| (state.b &&& state.d) ||| (state.c &&& state.d), 0x8f1bbcdc)
  else (state.b ^^^ state.c ^^^ state.d, 0xca62c1d6)

/-- One round. -/
def round (state : State) (input : Word × Nat) : State :=
  let (value, constant) := mixed state input.2
  ⟨state.a.rotateLeft 5 + value + state.e + constant + input.1, state.a, state.b.rotateLeft 30,
    state.c, state.d⟩

/-- One block of 16 words. -/
def compress (state : State) (block : List Word) : State :=
  let last := (extend block.reverse 64).reverse.zipIdx.foldl round state
  ⟨state.a + last.a, state.b + last.b, state.c + last.c, state.d + last.d, state.e + last.e⟩

/-- The chaining value after `count` blocks. -/
def blocks (state : State) (message : List Word) : Nat → State
  | 0 => state
  | count + 1 => blocks (compress state (message.take 16)) (message.drop 16) count

/-- `int.from_bytes(hashlib.sha1(data).digest())`. -/
def digest (data : Bytes) : Nat :=
  let message := Sha256.words (Sha256.pad data)
  let state := blocks initial message (message.length / 16)
  [state.a, state.b, state.c, state.d, state.e].foldl
    (fun number word => number * 2 ^ 32 + word.toNat) 0

end Sha1

/-- `str(uuid)` of the number of a UUID. -/
def uuidText (number : Nat) : PyStr :=
  let digits := Sha256.hex number 32
  List.intercalate "-" [digits.take 8, (digits.drop 8).take 4, (digits.drop 12).take 4,
    (digits.drop 16).take 4, digits.drop 20]

/-- `uuid.uuid5`: the first 16 bytes of the digest, with version and variant put in. -/
def uuid5 (namespaceUuid : Nat) (name : PyStr) : Nat :=
  let number := Sha1.digest (Sha256.bigEndian namespaceUuid 16 ++ utf8 name) / 2 ^ 32
  let upper := number / 2 ^ 80
  let version := 0x5000 + number / 2 ^ 64 % 2 ^ 12
  let variant := 0x8000 + number / 2 ^ 48 % 2 ^ 14
  ((upper * 2 ^ 16 + version) * 2 ^ 16 + variant) * 2 ^ 48 + number % 2 ^ 48

example : uuidText (uuid5 0x22a08d63cffc4d368a83a7b0d31c9f16 "banking_partner_settlement:VCB:00") =
    py "1f3c2222-03cd-5df4-ac63-ab0800c592db" := by decide +kernel

end Python
