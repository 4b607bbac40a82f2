import PaymentsPlatform.Python.DateTime
import PaymentsPlatform.Python.Json

/-!
# Decimal numbers

`Decimal(text)` and the operations of the code under study on its result, in the default context
of 28 digits with rounding half to even. Everything is exact: a result the context cannot hold
is `decimal.InvalidOperation`, written as `none`.
-/

namespace Python

/-- A `decimal.Decimal`. -/
inductive DecimalValue
  | finite (value : Decimal)
  | infinity (negative : Bool)
  | nan
deriving DecidableEq, Repr

/-- The lowercase form of an ASCII letter. -/
def asciiLower (code : Nat) : Nat := if 65 ≤ code ∧ code ≤ 90 then code + 32 else code

/-- The text `Decimal` parses: white space around it and underscores are dropped, and digits of
every script are read as ASCII digits. -/
def decimalToken (text : PyStr) : PyStr :=
  ((strip isWhitespace text).filter fun code => code ≠ 95).map fun code =>
    match decimalDigit code with
    | some digit => 48 + digit
    | none => asciiLower code

/-- The digits of a number token: those before and after the point. -/
def scanMantissa (token : PyStr) : Option (PyStr × PyStr × PyStr) :=
  let digits := token.takeWhile Json.isDigit
  let (fraction, rest) := match token.dropWhile Json.isDigit with
    | 46 :: rest => (rest.takeWhile Json.isDigit, rest.dropWhile Json.isDigit)
    | rest => ([], rest)
  if digits = [] ∧ fraction = [] then none else some (digits, fraction, rest)

/-- A number token without its sign. -/
def unsignedDecimal (negative : Bool) (token : PyStr) : Option DecimalValue :=
  if token = py "inf" ∨ token = py "infinity" then some (.infinity negative)
  else
    match dropStart "nan" token, dropStart "snan" token with
    | some payload, _ => if payload.all Json.isDigit then some .nan else none
    | none, some payload => if payload.all Json.isDigit then some .nan else none
    | none, none => do
      let (digits, fraction, rest) ← scanMantissa token
      let exponent ← if rest = [] then some 0
        else match Json.scanExponent rest with
          | some (exponent, []) => some exponent
          | _ => none
      match Json.decimalOf negative digits fraction exponent with
      | .ok (.decimal value) => some (.finite value)
      | _ => none

/-- `Decimal(text)`; `none` is `decimal.InvalidOperation`. -/
def parseDecimal (text : PyStr) : Option DecimalValue :=
  match decimalToken text with
  | 45 :: token => unsignedDecimal true token
  | 43 :: token => unsignedDecimal false token
  | token => unsignedDecimal false token

namespace Decimal

/-- The precision of the default context. -/
def contextPrecision : Nat := 28

/-- The number of digits of the coefficient; zero has one. -/
def digitCount (value : Decimal) : Nat := (natText value.coefficient).length

/-- `Decimal(number)`. -/
def ofInt (number : Int) : Decimal := ⟨number < 0, number.natAbs, 0⟩

/-- The number with its sign, as a coefficient of its power of ten. -/
def signed (value : Decimal) : Int :=
  if value.negative then -(value.coefficient : Int) else value.coefficient

/-- `value.quantize(Decimal(1).scaleb(-scale))`. -/
def quantize (value : Decimal) (scale : Nat) : Option Decimal :=
  let shift := value.exponent + scale
  let fits (coefficient : Nat) : Option Decimal :=
    if contextPrecision < (natText coefficient).length then none
    else some ⟨value.negative, coefficient, -scale⟩
  if value.coefficient = 0 then fits 0
  -- more digits than the context holds, whatever they are
  else if (contextPrecision : Int) < shift then none
  else if 0 ≤ shift then fits (value.coefficient * 10 ^ shift.toNat)
  -- below half of the last place whatever the digits are
  else if (value.digitCount : Int) < -shift then fits 0
  else fits (roundHalfEven value.coefficient (10 ^ (-shift).toNat))

/-- `Decimal(number).scaleb(-scale)`: a coefficient of more digits than the context holds is
rounded. -/
def scaled (number : Int) (scale : Nat) : Decimal :=
  let value := ofInt number
  let excess := value.digitCount - contextPrecision
  let rounded := roundHalfEven value.coefficient (10 ^ excess)
  -- rounding up to a power of ten leaves one digit too many
  if contextPrecision < (natText rounded).length then
    ⟨value.negative, rounded / 10, -(scale : Int) + excess + 1⟩
  else ⟨value.negative, rounded, -(scale : Int) + excess⟩

/-- `(left - right).quantize(Decimal("0.01"))` of two amounts with two decimal places. -/
def subtractCents (left right : Decimal) : Option Decimal :=
  let difference := left.signed - right.signed
  if contextPrecision < (natText difference.natAbs).length then none
  else some ⟨difference < 0, difference.natAbs, -2⟩

/-- `int(value)`: truncation. -/
def truncate (value : Decimal) : Int :=
  let magnitude : Int :=
    if 0 ≤ value.exponent then value.coefficient * 10 ^ value.exponent.toNat
    else (value.coefficient / 10 ^ (-value.exponent).toNat : Nat)
  if value.negative then -magnitude else magnitude

end Decimal

example : parseDecimal " +1_2.50 " = some (.finite ⟨false, 1250, -2⟩) := by decide
example : (⟨true, 12345, -3⟩ : Decimal).quantize 2 = some ⟨true, 1234, -2⟩ := by decide +kernel

end Python
