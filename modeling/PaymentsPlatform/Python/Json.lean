import PaymentsPlatform.Python.Exceptions

/-!
# JSON as the `json` module reads and writes it

`json.loads(text, parse_float=Decimal)` and the compact, key-sorted `json.dumps` of the
code under study. The reader accepts what CPython accepts: the constants `NaN`, `Infinity`
and `-Infinity`, lone surrogate escapes, and duplicate members (the last value at the first
position). It raises `JSONDecodeError` for malformed text, plain `ValueError` for an integer
of more than 4300 digits, `decimal.InvalidOperation` for an exponent no `Decimal` has, and
`RecursionError` below `depth` nested containers.
-/

namespace Python

/-- A finite `decimal.Decimal`: a signed coefficient times a power of ten. -/
structure Decimal where
  /-- Sign, kept for zero too. -/
  negative : Bool
  /-- The digits. -/
  coefficient : Nat
  /-- The power of ten. -/
  exponent : Int
deriving DecidableEq, Repr

/-- `str(decimal)`: scientific notation once the exponent is positive or the value is below
a millionth. -/
def Decimal.text (value : Decimal) : PyStr :=
  let digits := natText value.coefficient
  let leftDigits : Int := value.exponent + digits.length
  let dotPlace : Int := if value.exponent ≤ 0 ∧ -6 < leftDigits then leftDigits else 1
  let body :=
    if dotPlace ≤ 0 then py "0." ++ List.replicate (-dotPlace).toNat 48 ++ digits
    else if dotPlace.toNat < digits.length then
      digits.take dotPlace.toNat ++ py "." ++ digits.drop dotPlace.toNat
    else digits ++ List.replicate (dotPlace.toNat - digits.length) 48
  let shift := leftDigits - dotPlace
  let power :=
    if shift = 0 then []
    else py "E" ++ (if 0 ≤ shift then py "+" else []) ++ intText shift
  (if value.negative then py "-" else []) ++ body ++ power

/-- A decoded JSON value. Numbers with a fraction or an exponent are decimals. -/
inductive Json
  | null
  | bool (value : Bool)
  | int (value : Int)
  | decimal (value : Decimal)
  | nan
  | infinity (negative : Bool)
  | str (value : PyStr)
  | arr (items : List Json)
  | obj (members : List (PyStr × Json))
deriving Repr

namespace Json

/-- Set a key of a dict: a known key keeps its position. -/
def setMember (key : PyStr) (value : Json) : List (PyStr × Json) → List (PyStr × Json)
  | [] => [(key, value)]
  | (name, old) :: rest =>
    if name = key then (name, value) :: rest else (name, old) :: setMember key value rest

/-- `dict.get(key)` where an absent key and a null member are told apart. -/
def member? (members : List (PyStr × Json)) (key : PyStr) : Option Json :=
  (members.find? fun entry => entry.1 = key).map (·.2)

/-- `dict.get(key)`: an absent key reads as `None`. -/
def get (members : List (PyStr × Json)) (key : PyStr) : Json := (member? members key).getD .null

/-- Whether the value is `None`. -/
def isNull : Json → Bool
  | .null => true
  | _ => false

/-! ## Equality -/

mutual

/-- Whether two values are the same. -/
def same : Json → Json → Bool
  | .null, .null => true
  | .bool left, .bool right => left = right
  | .int left, .int right => left = right
  | .decimal left, .decimal right => left = right
  | .nan, .nan => true
  | .infinity left, .infinity right => left = right
  | .str left, .str right => left = right
  | .arr left, .arr right => sameItems left right
  | .obj left, .obj right => sameMembers left right
  | _, _ => false

/-- Whether two lists of values are the same. -/
def sameItems : List Json → List Json → Bool
  | [], [] => true
  | left :: lefts, right :: rights => same left right && sameItems lefts rights
  | _, _ => false

/-- Whether two objects are the same. -/
def sameMembers : List (PyStr × Json) → List (PyStr × Json) → Bool
  | [], [] => true
  | (name, left) :: lefts, (other, right) :: rights =>
    name = other && same left right && sameMembers lefts rights
  | _, _ => false

end

mutual

/-- The test of two values decides equality. -/
theorem same_iff : ∀ left right : Json, same left right = true ↔ left = right
  | .null, right => by cases right <;> simp [same]
  | .bool _, right => by cases right <;> simp [same]
  | .int _, right => by cases right <;> simp [same]
  | .decimal _, right => by cases right <;> simp [same]
  | .nan, right => by cases right <;> simp [same]
  | .infinity _, right => by cases right <;> simp [same]
  | .str _, right => by cases right <;> simp [same]
  | .arr items, right => by cases right <;> simp [same, sameItems_iff items]
  | .obj members, right => by cases right <;> simp [same, sameMembers_iff members]

/-- The test of two lists decides equality. -/
theorem sameItems_iff : ∀ left right : List Json, sameItems left right = true ↔ left = right
  | [], right => by cases right <;> simp [sameItems]
  | item :: items, right => by
    cases right with
    | nil => simp [sameItems]
    | cons other others => simp [sameItems, same_iff item other, sameItems_iff items others]

/-- The test of two objects decides equality. -/
theorem sameMembers_iff : ∀ left right : List (PyStr × Json),
    sameMembers left right = true ↔ left = right
  | [], right => by cases right <;> simp [sameMembers]
  | (name, value) :: members, right => by
    cases right with
    | nil => simp [sameMembers]
    | cons other others =>
      obtain ⟨otherName, otherValue⟩ := other
      simp [sameMembers, same_iff value otherValue, sameMembers_iff members others]

end

instance : DecidableEq Json := fun left right => decidable_of_iff _ (same_iff left right)

/-! ## Reading -/

/-- JSON white space. -/
def isSpace (code : Nat) : Bool := code = 32 || code = 9 || code = 10 || code = 13

/-- An ASCII digit. -/
def isDigit (code : Nat) : Bool := 48 ≤ code && code ≤ 57

/-- The value of a hexadecimal digit. -/
def hexDigit (code : Nat) : Option Nat :=
  if isDigit code then some (code - 48)
  else if 97 ≤ code ∧ code ≤ 102 then some (code - 87)
  else if 65 ≤ code ∧ code ≤ 70 then some (code - 55)
  else none

/-- The value of four hexadecimal digits. -/
def hex4 (a b c d : Nat) : Option Nat := do
  let a ← hexDigit a
  let b ← hexDigit b
  let c ← hexDigit c
  let d ← hexDigit d
  some (a * 4096 + b * 256 + c * 16 + d)

/-- The character of a one-letter escape. -/
def simpleEscape (code : Nat) : Option Nat :=
  if code = 34 ∨ code = 92 ∨ code = 47 then some code
  else if code = 98 then some 8
  else if code = 102 then some 12
  else if code = 110 then some 10
  else if code = 114 then some 13
  else if code = 116 then some 9
  else none

/-- The error of malformed text. -/
def malformed : PyError := ⟨.jsonDecodeError, py "Value is not valid JSON"⟩

/-- A string after its opening quote: its code points and the text after the closing quote.
The flag of each code point says whether a `\u` escape wrote it, since only two escapes form
a surrogate pair. -/
def scanString : PyStr → Except PyError (List (Nat × Bool) × PyStr)
  | [] => .error malformed
  | 34 :: rest => .ok ([], rest)
  | 92 :: 117 :: a :: b :: c :: d :: rest =>
    match hex4 a b c d with
    | none => .error malformed
    | some code => (scanString rest).map fun (text, rest) => ((code, true) :: text, rest)
  | [92] => .error malformed
  | 92 :: escape :: rest =>
    match simpleEscape escape with
    | none => .error malformed
    | some code => (scanString rest).map fun (text, rest) => ((code, false) :: text, rest)
  | code :: rest =>
    if code < 32 then .error malformed
    else (scanString rest).map fun (text, rest) => ((code, false) :: text, rest)

/-- The string of scanned code points, its escaped surrogate pairs joined. -/
def joinEscapes : List (Nat × Bool) → PyStr
  | (high, true) :: (low, true) :: rest =>
    if 0xD800 ≤ high ∧ high < 0xDC00 ∧ 0xDC00 ≤ low ∧ low < 0xE000 then
      (0x10000 + (high - 0xD800) * 1024 + (low - 0xDC00)) :: joinEscapes rest
    else high :: joinEscapes ((low, true) :: rest)
  | (code, _) :: rest => code :: joinEscapes rest
  | [] => []

/-- The number of a list of digits. -/
def digitsValue (digits : PyStr) : Nat :=
  digits.foldl (fun value code => value * 10 + (code - 48)) 0

/-- The largest adjusted exponent of a `Decimal`. -/
def maxEmax : Int := 999999999999999999

/-- The smallest exponent of a `Decimal`. -/
def minEtiny : Int := -1999999999999999997

/-- A fraction: a point and at least one digit. -/
def scanFraction : PyStr → Option (PyStr × PyStr)
  | 46 :: rest =>
    let digits := rest.takeWhile isDigit
    if digits = [] then none else some (digits, rest.dropWhile isDigit)
  | _ => none

/-- An exponent: `e` or `E`, an optional sign and at least one digit. -/
def scanExponent : PyStr → Option (Int × PyStr)
  | letter :: rest =>
    if letter = 101 ∨ letter = 69 then
      let (negative, body) := match rest with
        | 43 :: tail => (false, tail)
        | 45 :: tail => (true, tail)
        | tail => (false, tail)
      let digits := body.takeWhile isDigit
      if digits = [] then none
      else
        let magnitude : Int := digitsValue digits
        some (if negative then -magnitude else magnitude, body.dropWhile isDigit)
    else none
  | [] => none

/-- `Decimal(token)` of a JSON number token. -/
def decimalOf (negative : Bool) (digits fraction : PyStr) (exponent : Int) :
    Except PyError Json :=
  let coefficient := digitsValue (digits ++ fraction)
  let exponent := exponent - fraction.length
  let adjusted : Int := exponent + (natText coefficient).length - 1
  if maxEmax < adjusted ∨ exponent < minEtiny then
    .error ⟨.invalidOperation, py "[<class 'decimal.ConversionSyntax'>]"⟩
  else .ok (.decimal ⟨negative, coefficient, exponent⟩)

/-- A number after its optional minus sign. -/
def scanNumber (negative : Bool) (text : PyStr) : Except PyError (Json × PyStr) :=
  let digits := match text with
    | 48 :: _ => [48]
    | _ => text.takeWhile isDigit
  if digits = [] then .error malformed
  else
    let rest := text.drop digits.length
    let (fraction, afterFraction) := (scanFraction rest).getD ([], rest)
    let (exponent, last) := (scanExponent afterFraction).getD (0, afterFraction)
    if fraction = [] ∧ (scanExponent afterFraction).isNone then
      if maxIntDigits < digits.length then
        .error ⟨.valueError,
          py "Exceeds the limit (4300 digits) for integer string conversion"⟩
      else
        let magnitude : Int := digitsValue digits
        .ok (.int (if negative then -magnitude else magnitude), rest)
    else (decimalOf negative digits fraction exponent).map fun value => (value, last)

/-- A literal word and the text after it. -/
def scanWord (word : String) (value : Json) (text : PyStr) : Except PyError (Json × PyStr) :=
  match dropStart (py word) text with
  | some rest => .ok (value, rest)
  | none => .error malformed

/-- The error of too many nested containers. -/
def tooDeep : PyError := ⟨.recursionError, py "maximum recursion depth exceeded"⟩

mutual

/-- One value at the front of the text. The first argument bounds the work and exceeds the
length of the text at every call from `loads`; the second is the recursion left. -/
def scanValue : Nat → Nat → PyStr → Except PyError (Json × PyStr)
  | 0, _, _ => .error malformed
  | fuel + 1, depth, text =>
    match text with
    | 34 :: rest => (scanString rest).map fun (scanned, rest) =>
        (.str (joinEscapes scanned), rest)
    | 123 :: rest =>
      match depth with
      | 0 => .error tooDeep
      | depth + 1 =>
        match rest.dropWhile isSpace with
        | 125 :: rest => .ok (.obj [], rest)
        | inner => (scanMembers fuel depth [] inner).map fun (members, rest) =>
            (.obj members, rest)
    | 91 :: rest =>
      match depth with
      | 0 => .error tooDeep
      | depth + 1 =>
        match rest.dropWhile isSpace with
        | 93 :: rest => .ok (.arr [], rest)
        | inner => (scanItems fuel depth inner).map fun (items, rest) => (.arr items, rest)
    | 110 :: _ => scanWord "null" .null text
    | 116 :: _ => scanWord "true" (.bool true) text
    | 102 :: _ => scanWord "false" (.bool false) text
    | 78 :: _ => scanWord "NaN" .nan text
    | 73 :: _ => scanWord "Infinity" (.infinity false) text
    | 45 :: 73 :: rest => scanWord "Infinity" (.infinity true) (73 :: rest)
    | 45 :: rest => scanNumber true rest
    | _ => scanNumber false text

/-- The members of an object after its opening brace, added to those read before. -/
def scanMembers : Nat → Nat → List (PyStr × Json) → PyStr →
    Except PyError (List (PyStr × Json) × PyStr)
  | 0, _, _, _ => .error malformed
  | fuel + 1, depth, members, text =>
    match text with
    | 34 :: rest => do
      let (scanned, rest) ← scanString rest
      match rest.dropWhile isSpace with
      | 58 :: rest =>
        let (value, rest) ← scanValue fuel depth (rest.dropWhile isSpace)
        let members := setMember (joinEscapes scanned) value members
        match rest.dropWhile isSpace with
        | 125 :: rest => .ok (members, rest)
        | 44 :: rest => scanMembers fuel depth members (rest.dropWhile isSpace)
        | _ => .error malformed
      | _ => .error malformed
    | _ => .error malformed

/-- The items of an array after its opening bracket. -/
def scanItems : Nat → Nat → PyStr → Except PyError (List Json × PyStr)
  | 0, _, _ => .error malformed
  | fuel + 1, depth, text => do
    let (value, rest) ← scanValue fuel depth text
    match rest.dropWhile isSpace with
    | 93 :: rest => .ok ([value], rest)
    | 44 :: rest =>
      let (items, rest) ← scanItems fuel depth (rest.dropWhile isSpace)
      .ok (value :: items, rest)
    | _ => .error malformed

end

/-- `json.loads(text, parse_float=Decimal)` with `depth` nested containers to spare. -/
def loads (depth : Nat) (text : PyStr) : Except PyError Json := do
  let (value, rest) ← scanValue (text.length + 1) depth (text.dropWhile isSpace)
  if rest.dropWhile isSpace = [] then .ok value else .error malformed

/-! ## Writing -/

/-- The escape of one character in a JSON string; characters outside ASCII stay. -/
def escapeChar (code : Nat) : PyStr :=
  if code = 34 then py "\\\""
  else if code = 92 then py "\\\\"
  else if code = 10 then py "\\n"
  else if code = 13 then py "\\r"
  else if code = 9 then py "\\t"
  else if code = 12 then py "\\f"
  else if code = 8 then py "\\b"
  else if code < 32 then
    py "\\u00" ++ [48 + code / 16] ++
      [if code % 16 < 10 then 48 + code % 16 else 87 + code % 16]
  else [code]

/-- A JSON string literal. -/
def quote (text : PyStr) : PyStr := py "\"" ++ text.flatMap escapeChar ++ py "\""

/-- Insert a member before the first one with a larger key. -/
def insertMember (entry : PyStr × Json) : List (PyStr × Json) → List (PyStr × Json)
  | [] => [entry]
  | first :: rest =>
    if entry.1 < first.1 then entry :: first :: rest else first :: insertMember entry rest

/-- The members in the order `sort_keys=True` writes them. -/
def sortMembers (members : List (PyStr × Json)) : List (PyStr × Json) :=
  members.foldr insertMember []

mutual

/-- The value a compact, key-sorted dump denotes when decimals are written as strings
(`default=str`): the value `json.loads` reads back from the dump. -/
def canonical : Json → Json
  | .decimal value => .str value.text
  | .arr items => .arr (canonicalItems items)
  | .obj members => .obj (sortMembers (canonicalMembers members))
  | value => value

/-- `canonical` on the items of an array. -/
def canonicalItems : List Json → List Json
  | [] => []
  | item :: rest => canonical item :: canonicalItems rest

/-- `canonical` on the values of an object. -/
def canonicalMembers : List (PyStr × Json) → List (PyStr × Json)
  | [] => []
  | (key, value) :: rest => (key, canonical value) :: canonicalMembers rest

end

mutual

/-- The compact text of a value whose members are already in order. -/
def render : Json → PyStr
  | .null => "null"
  | .bool true => "true"
  | .bool false => "false"
  | .int value => intText value
  | .decimal value => quote value.text
  | .nan => "NaN"
  | .infinity false => "Infinity"
  | .infinity true => "-Infinity"
  | .str value => quote value
  | .arr items => py "[" ++ renderItems items ++ py "]"
  | .obj members => py "\x7b" ++ renderMembers members ++ py "\x7d"

/-- The items of an array, separated by commas. -/
def renderItems : List Json → PyStr
  | [] => []
  | [item] => render item
  | item :: rest => render item ++ py "," ++ renderItems rest

/-- The members of an object, separated by commas. -/
def renderMembers : List (PyStr × Json) → PyStr
  | [] => []
  | [(key, value)] => quote key ++ py ":" ++ render value
  | (key, value) :: rest => quote key ++ py ":" ++ render value ++ py "," ++ renderMembers rest

end

/-- `json.dumps(value, sort_keys=True, separators=(",", ":"), ensure_ascii=False)` with
decimals written as strings. -/
def dumps (value : Json) : PyStr := render (canonical value)

end Json

end Python
