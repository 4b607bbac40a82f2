import PaymentsPlatform.Python.Json

/-!
# CSV files and UUIDs as the standard library reads them

`csv.reader` in strict mode over a file opened with `newline=""`: the text is cut into lines that
keep their terminators, and the reader is CPython's state machine. Also `uuid.UUID(text)`.
-/

namespace Python

/-- The lines of a text, terminators kept: `\n`, `\r` and `\r\n` end a line. -/
def splitLines : PyStr → List PyStr
  | [] => []
  | 13 :: 10 :: rest => [13, 10] :: splitLines rest
  | code :: rest =>
    if code = 10 ∨ code = 13 then [code] :: splitLines rest
    else match splitLines rest with
      | [] => [[code]]
      | line :: lines => (code :: line) :: lines

/-- The states of the reader. -/
inductive CsvState
  | startRecord
  | startField
  | inField
  | inQuotedField
  | quoteInQuotedField
  | eatNewline
deriving DecidableEq

/-- The reader between two characters. -/
structure CsvReader where
  /-- The state. -/
  state : CsvState := .startRecord
  /-- The fields of the record, the last first. -/
  fields : List PyStr := []
  /-- The characters of the field, the last first. -/
  field : PyStr := []

/-- `csv.field_size_limit()`. -/
def csvFieldLimit : Nat := 131072

namespace CsvReader

/-- The field is complete. -/
def save (reader : CsvReader) (state : CsvState) : CsvReader :=
  ⟨state, reader.field.reverse :: reader.fields, []⟩

/-- One more character of the field. -/
def add (reader : CsvReader) (code : Nat) (state : CsvState) : Except PyStr CsvReader :=
  if csvFieldLimit ≤ reader.field.length then
    .error (py "field larger than field limit (" ++ natText csvFieldLimit ++ py ")")
  else .ok ⟨state, reader.fields, code :: reader.field⟩

/-- Whether the symbol ends the record. -/
def isEnd (symbol : Option Nat) : Bool :=
  symbol = none || symbol = some 10 || symbol = some 13

/-- One symbol at the start of a field. -/
def stepField (delimiter : Nat) (reader : CsvReader) (symbol : Option Nat) :
    Except PyStr CsvReader :=
  match symbol with
  | none => .ok (reader.save .startRecord)
  | some code =>
    if isEnd symbol then .ok (reader.save .eatNewline)
    else if code = 34 then .ok { reader with state := .inQuotedField }
    else if code = delimiter then .ok (reader.save .startField)
    else reader.add code .inField

/-- One symbol: a character, or the end of the line. -/
def step (delimiter : Nat) (reader : CsvReader) (symbol : Option Nat) :
    Except PyStr CsvReader :=
  match reader.state, symbol with
  | .startRecord, none => .ok reader
  | .startRecord, some code =>
    if isEnd symbol then .ok { reader with state := .eatNewline }
    else stepField delimiter reader (some code)
  | .startField, symbol => stepField delimiter reader symbol
  | .inField, none => .ok (reader.save .startRecord)
  | .inField, some code =>
    if isEnd symbol then .ok (reader.save .eatNewline)
    else if code = delimiter then .ok (reader.save .startField)
    else reader.add code .inField
  | .inQuotedField, none => .ok reader
  | .inQuotedField, some code =>
    if code = 34 then .ok { reader with state := .quoteInQuotedField }
    else reader.add code .inQuotedField
  | .quoteInQuotedField, none => .ok (reader.save .startRecord)
  | .quoteInQuotedField, some code =>
    if code = 34 then reader.add code .inQuotedField
    else if code = delimiter then .ok (reader.save .startField)
    else if isEnd symbol then .ok (reader.save .eatNewline)
    else .error (py "'" ++ [delimiter] ++ py "' expected after '\"'")
  | .eatNewline, none => .ok { reader with state := .startRecord }
  | .eatNewline, some _ =>
    if isEnd symbol then .ok reader
    else .error (py "new-line character seen in unquoted field - do you need to open the file " ++
      py "with newline=''?")

/-- One line, its end included. -/
def line (delimiter : Nat) (reader : CsvReader) (text : PyStr) : Except PyStr CsvReader := do
  let reader ← text.foldlM (fun reader code => step delimiter reader (some code)) reader
  step delimiter reader none

end CsvReader

/-- The records of a list of lines; a record may span several. -/
def csvRecords (delimiter : Nat) (reader : CsvReader) : List PyStr →
    Except PyStr (List (List PyStr))
  | [] =>
    if reader.field ≠ [] ∨ reader.state = .inQuotedField then .error "unexpected end of data"
    else .ok []
  | line :: lines =>
    match reader.line delimiter line with
    | .error problem => .error problem
    | .ok reader =>
      if reader.state = .startRecord then
        (csvRecords delimiter {} lines).map fun records => reader.fields.reverse :: records
      else csvRecords delimiter reader lines

/-- The first record of a list of lines and the lines after it. -/
def csvFirst (delimiter : Nat) (reader : CsvReader) : List PyStr →
    Except PyStr (Option (List PyStr) × List PyStr)
  | [] =>
    if reader.field ≠ [] ∨ reader.state = .inQuotedField then .error "unexpected end of data"
    else .ok (none, [])
  | line :: lines =>
    match reader.line delimiter line with
    | .error problem => .error problem
    | .ok reader =>
      if reader.state = .startRecord then .ok (some reader.fields.reverse, lines)
      else csvFirst delimiter reader lines

/-- The value of a hexadecimal digit, decimal digits of every script included. -/
def hexValue (code : Nat) : Option Nat :=
  match decimalDigit code with
  | some digit => some digit
  | none =>
    if 97 ≤ code ∧ code ≤ 102 then some (code - 87)
    else if 65 ≤ code ∧ code ≤ 70 then some (code - 55)
    else none

/-- Hexadecimal digits; single underscores may stand between them. -/
def hexDigits : PyStr → Option (List Nat)
  | [] => none
  | [code] => (hexValue code).map fun digit => [digit]
  | code :: 95 :: rest => do
    let digit ← hexValue code
    let digits ← hexDigits rest
    some (digit :: digits)
  | code :: rest => do
    let digit ← hexValue code
    let digits ← hexDigits rest
    some (digit :: digits)

/-- `int(text, 16)`; `none` is `ValueError`. -/
def parseHex (text : PyStr) : Option Int :=
  let (negative, body) := match strip isWhitespace text with
    | 45 :: rest => (true, rest)
    | 43 :: rest => (false, rest)
    | rest => (false, rest)
  let body := match body with
    | 48 :: 120 :: 95 :: rest => rest
    | 48 :: 88 :: 95 :: rest => rest
    | 48 :: 120 :: rest => rest
    | 48 :: 88 :: rest => rest
    | rest => rest
  (hexDigits body).map fun digits =>
    let magnitude : Int := digits.foldl (fun value digit => value * 16 + digit) (0 : Nat)
    if negative then -magnitude else magnitude

/-- `text.replace(old, "")`. -/
def removeAll (old : PyStr) : Nat → PyStr → PyStr
  | 0, text => text
  | _ + 1, [] => []
  | fuel + 1, code :: text =>
    match dropStart old (code :: text) with
    | some rest => removeAll old fuel rest
    | none => code :: removeAll old fuel text

/-- `UUID(text)` as its number; `none` is `ValueError`. -/
def parseUuid (text : PyStr) : Option Nat :=
  let text := removeAll "uuid:" text.length (removeAll "urn:" text.length text)
  let text := (strip (fun code => code = 123 || code = 125) text).filter fun code => code ≠ 45
  if text.length ≠ 32 then none
  else match parseHex text with
    | some (.ofNat number) => if number < 2 ^ 128 then some number else none
    | _ => none

example : csvRecords 44 {} (splitLines "a,\"b\"\"c\"\r\n\r\nd") =
    .ok [["a", "b\"c"], [], ["d"]] := by decide +kernel

end Python
