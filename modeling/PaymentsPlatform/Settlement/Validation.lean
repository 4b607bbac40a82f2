import PaymentsPlatform.Settlement.Models

/-!
# Validation of settlement files

`validate_settlement_file`: the file is decoded, its header compared and its rows judged one
after another, each against the contract, the file name and the rows before it. Exceptions that
the code does not turn into an issue leave the function.
-/

namespace Settlement

open Python

/-- `_text`. -/
def textOf (raw : RawRecord) (field : PyStr) : PyStr :=
  strip isWhitespace ((raw.get field).getD [])

/-- The checks of presence, emptiness and length of one field. -/
def fieldIssues (raw : RawRecord) (field : FieldContract) : List ValidationIssue :=
  match raw.get field.name with
  | none =>
    if field.required then
      [⟨"REQUIRED_FIELD_MISSING", field.name ++ py " column value is missing"⟩]
    else []
  | some value =>
    let stripped := strip isWhitespace value
    (if stripped = [] ∧ ¬ field.nullable then
      [⟨"REQUIRED_FIELD_EMPTY", field.name ++ py " must not be empty"⟩] else []) ++
    (if stripped ≠ [] ∧ field.maxLength.any fun most => most < stripped.length then
      [⟨"MAX_LENGTH_EXCEEDED", field.name ++ py " exceeds maximum length"⟩] else [])

/-- The full match of a pattern; a field without one matches the empty text only. -/
def matchesPattern (field : FieldContract) (text : PyStr) : Bool :=
  match field.pattern with
  | some pattern => pattern text
  | none => text = []

/-- The issue with a code and a text, when there is one. -/
def issueIf (condition : Prop) [Decidable condition] (code message : PyStr) :
    List ValidationIssue := if condition then [⟨code, message⟩] else []

/-- `_parse_date`. -/
def parseDate (value : PyStr) : Option Date × List ValidationIssue :=
  if value = [] then (none, [])
  else match dateFromIsoformat value with
    | some date => (some date, [])
    | none => (none, [⟨"INVALID_SETTLEMENT_DATE", "settlement_date is not ISO date"⟩])

/-- `_parse_optional_uuid`. -/
def parseOptionalUuid (value : PyStr) : Option Nat × List ValidationIssue :=
  if value = [] then (none, [])
  else match parseUuid value with
    | some uuid => (some uuid, [])
    | none =>
      (none, [⟨"INVALID_INTERNAL_TRANSACTION_ID", "internal_transaction_id is not UUID"⟩])

/-- `_parse_timestamp`. The conversion to UTC can leave the calendar. -/
def parseTimestampText (value : PyStr) :
    Except PyError (Option Instant × List ValidationIssue) :=
  if value = [] then .ok (none, [])
  else match datetimeFromIsoformat (replaceChar 90 "+00:00" value) with
    | none => .ok (none,
        [⟨"INVALID_TRANSACTION_TIMESTAMP", "transaction_timestamp is not ISO-8601"⟩])
    | some ⟨_, none⟩ => .ok (none, [⟨"TIMESTAMP_TIMEZONE_REQUIRED",
        "transaction_timestamp must contain an explicit UTC offset"⟩])
    | some ⟨micros, some offset⟩ =>
      (ScannedDateTime.toUtc micros offset).map fun instant => (some instant, [])

/-- The error of an operation the decimal context cannot hold. -/
def invalidOperation : PyError := ⟨.invalidOperation, py "[<class 'decimal.InvalidOperation'>]"⟩

/-- `_parse_decimal`. -/
def parseAmount (value : PyStr) (field : FieldContract) :
    Except PyError (Option Decimal × List ValidationIssue) :=
  if value = [] then .ok (none, [])
  else match parseDecimal value with
    | none => .ok (none, [⟨"INVALID_DECIMAL", field.name ++ py " is not a decimal"⟩])
    | some (.finite parsed) =>
      let scale := (-parsed.exponent).toNat
      let precision := parsed.digitCount + parsed.exponent.toNat
      if field.scale.any fun most => most < scale then
        .ok (none, [⟨"DECIMAL_SCALE_EXCEEDED",
          field.name ++ py " exceeds scale " ++ natText (field.scale.getD 0)⟩])
      else if field.precision.any fun most => most < precision then
        .ok (none, [⟨"DECIMAL_PRECISION_EXCEEDED",
          field.name ++ py " exceeds precision " ++ natText (field.precision.getD 0)⟩])
      else match parsed.quantize 2 with
        | some amount => .ok (some amount, [])
        | none => .error invalidOperation
    | some _ => .ok (none, [⟨"INVALID_DECIMAL", field.name ++ py " must be finite"⟩])

/-- The comparison of the net amount with amount and fee. -/
def netIssues : Option Decimal → Option Decimal → Option Decimal →
    Except PyError (List ValidationIssue)
  | some amount, some fee, some net =>
    match amount.subtractCents fee with
    | none => .error invalidOperation
    | some expected => .ok (issueIf (net.signed ≠ expected.signed) "NET_AMOUNT_INCONSISTENT"
        "net_amount must equal amount minus fee_amount")
  | _, _, _ => .ok []

/-- `_validate_row`. -/
def validateRow (contract : SettlementContract) (filename : FilenameMetadata)
    (raw : RawRecord) (rowNumber : Nat) :
    Except PyError (Option SettlementRecord × List ValidationIssue) := do
  let partnerId := textOf raw "partner_id"
  let (settlementDate, dateIssues) := parseDate (textOf raw "settlement_date")
  let settlementReference := textOf raw "settlement_reference"
  let partnerReference := textOf raw "partner_transaction_reference"
  let (internalId, uuidIssues) := parseOptionalUuid (textOf raw "internal_transaction_id")
  let (timestamp, timestampIssues) ← parseTimestampText (textOf raw "transaction_timestamp")
  let (amount, amountIssues) ← parseAmount (textOf raw "amount") (contract.field "amount")
  let currency := textOf raw "currency"
  let status := textOf raw "settlement_status"
  let (fee, feeIssues) ← parseAmount (textOf raw "fee_amount") (contract.field "fee_amount")
  let (net, netAmountIssues) ← parseAmount (textOf raw "net_amount") (contract.field "net_amount")
  let consistency ← netIssues amount fee net
  let allowed := (contract.field "settlement_status").allowedValues
  let issues :=
    contract.fields.flatMap (fieldIssues raw) ++
    issueIf (partnerId ≠ [] ∧ ¬ matchesPattern (contract.field "partner_id") partnerId)
      "INVALID_PARTNER_ID" "partner_id format is invalid" ++
    issueIf (partnerId ≠ [] ∧ partnerId ≠ filename.partnerId)
      "PARTNER_MISMATCH" "partner_id does not match the file name" ++
    dateIssues ++
    issueIf (settlementDate.any fun date => date ≠ filename.settlementDate)
      "SETTLEMENT_DATE_MISMATCH" "settlement_date does not match file name" ++
    uuidIssues ++ timestampIssues ++ amountIssues ++
    issueIf (amount.any fun value => value.signed ≤ 0)
      "AMOUNT_NOT_POSITIVE" "amount must be greater than zero" ++
    issueIf (currency ≠ [] ∧ ¬ matchesPattern (contract.field "currency") currency)
      "INVALID_CURRENCY" "currency must be three uppercase letters" ++
    issueIf (status ≠ [] ∧ status ∉ allowed) "INVALID_SETTLEMENT_STATUS"
      (py "settlement_status must be one of " ++ List.intercalate ", " allowed) ++
    feeIssues ++
    issueIf (fee.any fun value => value.signed < 0)
      "NEGATIVE_FEE_AMOUNT" "fee_amount must be zero or greater" ++
    netAmountIssues ++ consistency
  match settlementDate, timestamp, amount, fee, net with
  | some date, some instant, some amount, some fee, some net =>
    if issues ≠ [] ∨ partnerId = [] ∨ settlementReference = [] ∨ partnerReference = [] ∨
        currency = [] ∨ status = [] then return (none, issues)
    else return (some ⟨partnerId, date, settlementReference, partnerReference, internalId, instant,
      amount, currency, status, fee, net, rowNumber⟩, issues)
  | _, _, _, _, _ => return (none, issues)

/-- What the rows before a row left behind: their cells and their references. -/
structure SeenRows where
  /-- The cells of the rows. -/
  rows : List (List (Option PyStr)) := []
  /-- The settlement references. -/
  references : List PyStr := []

/-- The issues of a row that an earlier row causes. -/
def SeenRows.issues (seen : SeenRows) (raw : RawRecord) : List ValidationIssue :=
  let fingerprint := raw.map Prod.snd
  let duplicate := fingerprint ∈ seen.rows
  issueIf duplicate "DUPLICATE_ROW" "Identical row already appeared in file" ++
    issueIf (textOf raw "settlement_reference" ∈ seen.references ∧ ¬ duplicate)
      "DUPLICATE_SETTLEMENT_REFERENCE" "settlement_reference must be unique within one file"

/-- What a row leaves behind. -/
def SeenRows.add (seen : SeenRows) (raw : RawRecord) : SeenRows where
  rows := raw.map Prod.snd :: seen.rows
  references :=
    let reference := textOf raw "settlement_reference"
    if reference = [] then seen.references else reference :: seen.references

/-- The attempt a rejection is recorded for. -/
structure RejectionContext where
  /-- The file. -/
  sourceFile : PyStr
  /-- When. -/
  rejectedAt : Instant
  /-- The attempt. -/
  ingestionRunId : PyStr

/-- The rejection of a row. -/
def rejectRow (context : RejectionContext) (raw : RawRecord) (rowNumber : Nat)
    (issues : List ValidationIssue) : RejectedRecord where
  sourceFile := context.sourceFile
  sourceRowNumber := rowNumber
  rawRecord := raw
  errorCode := List.intercalate "|" (issues.map (·.code)).eraseDups
  errorMessage := List.intercalate "; " (issues.map (·.message))
  rejectedAt := context.rejectedAt
  ingestionRunId := context.ingestionRunId

/-- The loop over the rows, from row number `rowNumber` on. -/
def validateRows (contract : SettlementContract) (filename : FilenameMetadata)
    (context : RejectionContext) (rowNumber : Nat) (seen : SeenRows) :
    List RawRecord → Except PyError (List SettlementRecord × List RejectedRecord)
  | [] => .ok ([], [])
  | raw :: rows => do
    let (record, recordIssues) ← validateRow contract filename raw rowNumber
    let (accepted, rejected) ←
      validateRows contract filename context (rowNumber + 1) (seen.add raw) rows
    let issues := seen.issues raw ++ recordIssues
    if issues ≠ [] then
      return (accepted, rejectRow context raw rowNumber issues :: rejected)
    else match record with
      | some record => return (record :: accepted, rejected)
      -- neither accepted nor rejected: the row has no issue and no record
      | none => return (accepted, rejected)

/-- `_file_rejection`. -/
def fileRejection (code message : PyStr) : FileValidationResult :=
  ⟨[⟨code, message⟩], [], [], 0⟩

/-- The cells of a CSV record under the names of the contract. -/
def rawRecord (contract : SettlementContract) (cells : List PyStr) : RawRecord :=
  contract.fieldNames.zipIdx.map fun (name, index) => (name, cells[index]?)

/-- `validate_settlement_file` on the content of a file. The code decodes while it reads, so it may
name a fault before a later encoding error instead; the file is rejected either way. -/
def validateSettlementFile (contract : SettlementContract) (filename : FilenameMetadata)
    (context : RejectionContext) (data : Bytes) : Except PyError FileValidationResult :=
  match contract.decode data with
  | none => .ok (fileRejection "INVALID_ENCODING"
      (py "File must use " ++ contract.encoding ++ py " encoding"))
  | some text =>
    let unreadable (problem : PyStr) :=
      fileRejection "INVALID_CSV" (py "CSV cannot be parsed: " ++ problem)
    match csvFirst contract.delimiter {} (splitLines text) with
    | .error problem => .ok (unreadable problem)
    | .ok (none, _) => .ok (fileRejection "EMPTY_FILE" "Settlement file has no header")
    | .ok (some header, lines) =>
      if header ≠ contract.fieldNames then
        .ok (fileRejection "INVALID_FILE_SCHEMA"
          "CSV header must exactly match the ordered settlement-v1 field list")
      else match csvRecords contract.delimiter {} lines with
        | .error problem => .ok (unreadable problem)
        | .ok records =>
          let rows := (records.filter fun cells => cells ≠ []).map (rawRecord contract)
          if rows = [] then
            .ok (fileRejection "EMPTY_FILE" "Settlement file has a header but no records")
          else (validateRows contract filename context 2 {} rows).map
            fun (accepted, rejected) => ⟨[], accepted, rejected, rows.length⟩

/-! ## What does not depend on the attempt -/

/-- The same rejection recorded for another attempt. -/
def RejectedRecord.relabel (context : RejectionContext) (record : RejectedRecord) :
    RejectedRecord :=
  { record with
    sourceFile := context.sourceFile
    rejectedAt := context.rejectedAt
    ingestionRunId := context.ingestionRunId }

/-- The rows are judged alike in every attempt. -/
theorem validateRows_context (contract : SettlementContract) (filename : FilenameMetadata)
    (context other : RejectionContext) (rowNumber : Nat) (seen : SeenRows)
    (rows : List RawRecord) :
    validateRows contract filename other rowNumber seen rows =
      (validateRows contract filename context rowNumber seen rows).map fun lists =>
        (lists.1, lists.2.map (RejectedRecord.relabel other)) := by
  induction rows generalizing rowNumber seen with
  | nil => rfl
  | cons raw rows ih =>
    unfold validateRows
    rw [ih]
    cases validateRow contract filename raw rowNumber with
    | error problem => rfl
    | ok row =>
    cases validateRows contract filename context (rowNumber + 1) (seen.add raw) rows with
    | error problem => rfl
    | ok later =>
    obtain ⟨record, recordIssues⟩ := row
    simp only [bind, Except.bind, Except.map, pure, Except.pure]
    split
    · rfl
    · cases record <;> rfl

/-- The same validation recorded for another attempt. -/
def FileValidationResult.relabel (context : RejectionContext) (result : FileValidationResult) :
    FileValidationResult :=
  { result with rejectedRecords := result.rejectedRecords.map (RejectedRecord.relabel context) }

/-- A file is judged alike in every attempt. -/
theorem validateSettlementFile_context (contract : SettlementContract)
    (filename : FilenameMetadata) (context other : RejectionContext) (data : Bytes) :
    validateSettlementFile contract filename other data =
      (validateSettlementFile contract filename context data).map
        (FileValidationResult.relabel other) := by
  unfold validateSettlementFile
  dsimp only
  split
  · rfl
  · split
    · rfl
    · rfl
    · split
      · rfl
      · split
        · rfl
        · split
          · rfl
          · rw [validateRows_context contract filename context other]
            cases validateRows contract filename context 2 {} _ <;> rfl

end Settlement
