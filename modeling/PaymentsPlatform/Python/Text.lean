import Mathlib

/-!
# Python text and bytes

A Python string is a sequence of code points and may hold a lone surrogate, so it is a list
of numbers here and not a Lean `String`. Comparison of strings is comparison of code points,
which is also the order in which SQLite compares the UTF-8 bytes of a text column.
-/

namespace Python

/-- A Python `str`: its code points in order. -/
abbrev PyStr := List Nat

instance lawfulText : LawfulBEq PyStr := inferInstance

/-- A Python `bytes`. -/
abbrev Bytes := List UInt8

/-- The Python string of a literal. -/
def py (text : String) : PyStr := text.toList.map Char.toNat

instance : Coe String PyStr := ⟨py⟩

/-- `str(n)` for a natural number. -/
def natText (number : Nat) : PyStr := (Nat.toDigits 10 number).map Char.toNat

/-- `str(n)` for an integer. -/
def intText : Int → PyStr
  | .ofNat number => natText number
  | .negSucc number => py "-" ++ natText (number + 1)

/-- The last `width` decimal digits of a number, leading zeros kept. -/
def fixedDigits : Nat → Nat → PyStr
  | 0, _ => []
  | width + 1, number => fixedDigits width (number / 10) ++ [48 + number % 10]

/-- A natural number in decimal, padded on the left with zeros to `width` digits. -/
def padded (width number : Nat) : PyStr :=
  if number < 10 ^ width then fixedDigits width number else natText number

/-- `text.replace(old, new)` for a single character `old`. -/
def replaceChar (old : Nat) (new : PyStr) (text : PyStr) : PyStr :=
  text.flatMap fun code => if code = old then new else [code]

/-- `text.split(separator)` for a single character: the parts around every occurrence, so a
text without the separator has one part. -/
def splitChar (separator : Nat) : PyStr → List PyStr
  | [] => [[]]
  | code :: rest =>
    if code = separator then [] :: splitChar separator rest
    else match splitChar separator rest with
      | [] => [[code]]
      | part :: parts => (code :: part) :: parts

/-- The text after the last occurrence of the separator: `text.rsplit(sep, maxsplit=1)[-1]`. -/
def afterLast (separator : Nat) (text : PyStr) : PyStr :=
  ((splitChar separator text).getLast?).getD []

/-- `text.removeprefix(start)` where the text starts with it. -/
def dropStart : PyStr → PyStr → Option PyStr
  | [], text => some text
  | _ :: _, [] => none
  | first :: start, code :: text => if first = code then dropStart start text else none

/-- `start` is a substring of the text. -/
def contains (needle : PyStr) : PyStr → Bool
  | [] => needle.isEmpty
  | code :: rest => (dropStart needle (code :: rest)).isSome || contains needle rest

/-- `text.endswith(ending)`. -/
def endsWith (ending text : PyStr) : Bool := (dropStart ending.reverse text.reverse).isSome

/-- `text.strip(chars)`: drop the characters of `chars` at both ends. -/
def strip (chars : Nat → Bool) (text : PyStr) : PyStr :=
  ((text.dropWhile chars).reverse.dropWhile chars).reverse

/-- Stripping a text without the characters. -/
theorem strip_plain {chars : Nat → Bool} {text : PyStr}
    (plain : ∀ code ∈ text, chars code = false) : strip chars text = text := by
  have kept : ∀ list : PyStr, (∀ code ∈ list, chars code = false) →
      list.dropWhile chars = list := by
    intro list all
    cases list with
    | nil => rfl
    | cons first rest =>
      rw [List.dropWhile_cons_of_neg]
      rw [all first (List.mem_cons_self ..)]
      decide
  unfold strip
  rw [kept text plain, kept text.reverse fun code member => plain code (List.mem_reverse.mp member),
    List.reverse_reverse]

/-- Characters `str.strip()` and `int()` treat as white space. -/
def isWhitespace (code : Nat) : Bool :=
  (9 ≤ code && code ≤ 13) || (28 ≤ code && code ≤ 32) || code = 133 || code = 160 ||
    code = 5760 || (8192 ≤ code && code ≤ 8202) || code = 8232 || code = 8233 ||
    code = 8239 || code = 8287 || code = 12288

/-- The zero of each block of ten decimal digits of Unicode. -/
def decimalZeros : List Nat :=
  [0x30, 0x660, 0x6F0, 0x7C0, 0x966, 0x9E6, 0xA66, 0xAE6, 0xB66, 0xBE6, 0xC66, 0xCE6, 0xD66,
    0xDE6, 0xE50, 0xED0, 0xF20, 0x1040, 0x1090, 0x17E0, 0x1810, 0x1946, 0x19D0, 0x1A80, 0x1A90,
    0x1B50, 0x1BB0, 0x1C40, 0x1C50, 0xA620, 0xA8D0, 0xA900, 0xA9D0, 0xA9F0, 0xAA50, 0xABF0,
    0xFF10, 0x104A0, 0x10D30, 0x11066, 0x110F0, 0x11136, 0x111D0, 0x112F0, 0x11450, 0x114D0,
    0x11650, 0x116C0, 0x11730, 0x118E0, 0x11950, 0x11C50, 0x11D50, 0x11DA0, 0x11F50, 0x16A60,
    0x16AC0, 0x16B50, 0x1D7CE, 0x1D7D8, 0x1D7E2, 0x1D7EC, 0x1D7F6, 0x1E140, 0x1E2F0, 0x1E4F0,
    0x1E950, 0x1FBF0]

/-- The value of a decimal digit of any script. -/
def decimalDigit (code : Nat) : Option Nat :=
  (decimalZeros.find? fun first => first ≤ code && code < first + 10).map (code - ·)

/-- The longest integer literal `int` accepts. -/
def maxIntDigits : Nat := 4300

/-- The digits of an integer literal: single underscores may stand between them. -/
def intDigits : PyStr → Option (List Nat)
  | [] => none
  | [code] => (decimalDigit code).map fun digit => [digit]
  | code :: 95 :: rest => do
    let digit ← decimalDigit code
    let digits ← intDigits rest
    some (digit :: digits)
  | code :: rest => do
    let digit ← decimalDigit code
    let digits ← intDigits rest
    some (digit :: digits)

/-- `int(text)`; `none` is `ValueError`. -/
def parseInt (text : PyStr) : Option Int :=
  let (negative, body) := match strip isWhitespace text with
    | 45 :: rest => (true, rest)
    | 43 :: rest => (false, rest)
    | rest => (false, rest)
  match intDigits body with
  | none => none
  | some digits =>
    if maxIntDigits < digits.length then none
    else
      let magnitude : Int := digits.foldl (fun value digit => value * 10 + digit) (0 : Nat)
      some (if negative then -magnitude else magnitude)

/-- A letter or digit of ASCII. -/
def isAlphanumeric (code : Nat) : Bool :=
  (48 ≤ code && code ≤ 57) || (65 ≤ code && code ≤ 90) || (97 ≤ code && code ≤ 122)

/-- The pattern `[A-Za-z0-9][A-Za-z0-9._-]{0,extra}`, matched in full. -/
def isName (extra : Nat) : PyStr → Bool
  | [] => false
  | first :: rest => isAlphanumeric first && rest.length ≤ extra &&
      rest.all fun code => isAlphanumeric code || code = 46 || code = 95 || code = 45

/-- The characters of a name. -/
theorem isName_characters {extra : Nat} {value : PyStr} (valid : isName extra value = true) :
    ∀ code ∈ value, isAlphanumeric code = true ∨ code = 46 ∨ code = 95 ∨ code = 45 := by
  cases value with
  | nil => cases valid
  | cons first rest =>
    rw [isName, Bool.and_eq_true, Bool.and_eq_true, List.all_eq_true] at valid
    intro code member
    rcases List.mem_cons.mp member with rfl | later
    · exact Or.inl valid.1.1
    · simpa [or_assoc] using valid.2 code later

/-- The code point of a continuation byte, its two high bits checked. -/
def continuation (byte : UInt8) : Option Nat :=
  if 0x80 ≤ byte.toNat ∧ byte.toNat < 0xC0 then some (byte.toNat - 0x80) else none

/-- `value.decode("utf-8")` in strict mode; `none` is `UnicodeDecodeError`. Overlong forms,
surrogates and values above the last code point are refused. -/
def decodeUtf8 : Bytes → Option PyStr
  | [] => some []
  | a :: rest =>
    if a.toNat < 0x80 then (decodeUtf8 rest).map (a.toNat :: ·)
    else if a.toNat < 0xC2 then none
    else if a.toNat < 0xE0 then
      match rest with
      | b :: rest => do
        let low ← continuation b
        let text ← decodeUtf8 rest
        some (((a.toNat - 0xC0) * 64 + low) :: text)
      | _ => none
    else if a.toNat < 0xF0 then
      match rest with
      | b :: c :: rest => do
        let high ← continuation b
        let low ← continuation c
        let code := (a.toNat - 0xE0) * 4096 + high * 64 + low
        let text ← decodeUtf8 rest
        if code < 0x800 ∨ (0xD800 ≤ code ∧ code < 0xE000) then none else some (code :: text)
      | _ => none
    else
      match rest with
      | b :: c :: d :: rest => do
        let first ← continuation b
        let second ← continuation c
        let third ← continuation d
        let code := (a.toNat - 0xF0) * 262144 + first * 4096 + second * 64 + third
        let text ← decodeUtf8 rest
        if code < 0x10000 ∨ 0x110000 ≤ code then none else some (code :: text)
      | _ => none

/-- Whether the code point is a surrogate, which UTF-8 cannot encode. -/
def isSurrogate (code : Nat) : Bool := 0xD800 ≤ code && code < 0xE000

/-- Whether `text.encode("utf-8")` returns: no code point is a surrogate. -/
def encodable (text : PyStr) : Bool := text.all fun code => !isSurrogate code

/-- Whether `str(number)` returns: it refuses more than 4300 digits. -/
def printable (number : Int) : Bool := (natText number.natAbs).length ≤ maxIntDigits

/-- A name can be encoded. -/
theorem isName_encodable {extra : Nat} {value : PyStr} (valid : isName extra value = true) :
    encodable value = true := by
  rw [encodable, List.all_eq_true]
  intro code member
  have shape := isName_characters valid code member
  simp only [isAlphanumeric, Bool.or_eq_true, Bool.and_eq_true, decide_eq_true_eq] at shape
  simp only [isSurrogate, Bool.not_eq_true', Bool.and_eq_false_iff, decide_eq_false_iff_not]
  omega

/-- The UTF-8 bytes of one code point; a surrogate is written in its three-byte form. -/
def utf8Char (code : Nat) : Bytes :=
  if code < 0x80 then [UInt8.ofNat code]
  else if code < 0x800 then [UInt8.ofNat (0xC0 + code / 64), UInt8.ofNat (0x80 + code % 64)]
  else if code < 0x10000 then
    [UInt8.ofNat (0xE0 + code / 4096), UInt8.ofNat (0x80 + code / 64 % 64),
      UInt8.ofNat (0x80 + code % 64)]
  else
    [UInt8.ofNat (0xF0 + code / 262144), UInt8.ofNat (0x80 + code / 4096 % 64),
      UInt8.ofNat (0x80 + code / 64 % 64), UInt8.ofNat (0x80 + code % 64)]

/-- `text.encode("utf-8")` of a text without surrogates; Python raises for the others. -/
def utf8 (text : PyStr) : Bytes := text.flatMap utf8Char

/-- The alphabet of `base64.b64encode`. -/
def base64Alphabet : PyStr :=
  py "ABCDEFGHIJKLMNOPQRSTUVWXYZabcdefghijklmnopqrstuvwxyz0123456789+/"

/-- One base64 digit. -/
def base64Digit (value : Nat) : Nat := (base64Alphabet[value % 64]?).getD 0

/-- `base64.b64encode(value).decode("ascii")`. -/
def base64 : Bytes → PyStr
  | [] => []
  | [a] => [base64Digit (a.toNat / 4), base64Digit (a.toNat % 4 * 16), 61, 61]
  | [a, b] =>
    [base64Digit (a.toNat / 4), base64Digit (a.toNat % 4 * 16 + b.toNat / 16),
      base64Digit (b.toNat % 16 * 4), 61]
  | a :: b :: c :: rest =>
    base64Digit (a.toNat / 4) :: base64Digit (a.toNat % 4 * 16 + b.toNat / 16) ::
      base64Digit (b.toNat % 16 * 4 + c.toNat / 64) :: base64Digit (c.toNat % 64) :: base64 rest

end Python
