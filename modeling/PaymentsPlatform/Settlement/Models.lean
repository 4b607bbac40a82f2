import PaymentsPlatform.Python.Calendar
import PaymentsPlatform.Python.Csv
import PaymentsPlatform.Python.Decimal

/-!
# Settlement files, contracts and file names

The typed records of settlement ingestion, the executable part of a contract, the contract
`settlement-v1`, and the metadata a file name carries. A pattern of a contract is the predicate
its full match decides, a codec the function that decodes.
-/

namespace Settlement

open Python

/-- `ManifestStatus`: the lifecycle of one content. -/
inductive ManifestStatus
  | discovered
  | validating
  | validated
  | processing
  | processed
  | quarantined
  | failed
deriving DecidableEq, Repr

/-- The stored name of a status. -/
def ManifestStatus.value : ManifestStatus → PyStr
  | discovered => "DISCOVERED"
  | validating => "VALIDATING"
  | validated => "VALIDATED"
  | processing => "PROCESSING"
  | processed => "PROCESSED"
  | quarantined => "QUARANTINED"
  | failed => "FAILED"

/-- `DuplicateKind`: a discovery against earlier content. -/
inductive DuplicateKind
  | newFile
  | sameNameChangedContent
  | sameNameSameContent
  | differentNameSameContent
deriving DecidableEq, Repr

/-- `FilenameMetadata`. -/
structure FilenameMetadata where
  /-- The partner. -/
  partnerId : PyStr
  /-- The settlement date. -/
  settlementDate : Date
  /-- The sequence number. -/
  sequence : Int
  /-- The name itself. -/
  fileName : PyStr
deriving DecidableEq

/-- `SettlementRecord`: a valid row. -/
structure SettlementRecord where
  /-- The partner. -/
  partnerId : PyStr
  /-- The settlement date. -/
  settlementDate : Date
  /-- The reference, unique in a file. -/
  settlementReference : PyStr
  /-- The reference of the partner. -/
  partnerTransactionReference : PyStr
  /-- The transaction of the platform, when the partner knows it. -/
  internalTransactionId : Option Nat
  /-- When the transaction took place. -/
  transactionTimestamp : Instant
  /-- The amount. -/
  amount : Decimal
  /-- The currency. -/
  currency : PyStr
  /-- The status. -/
  settlementStatus : PyStr
  /-- The fee. -/
  feeAmount : Decimal
  /-- The amount less the fee. -/
  netAmount : Decimal
  /-- The row in the file. -/
  sourceRowNumber : Nat
deriving DecidableEq

/-- `ValidationIssue`. -/
structure ValidationIssue where
  /-- The machine-readable code. -/
  code : PyStr
  /-- The text. -/
  message : PyStr
deriving DecidableEq, Repr

/-- The cells of a row under the names of the contract; a cell the row does not have is absent. -/
abbrev RawRecord := List (PyStr × Option PyStr)

/-- `raw.get(field)`. -/
def RawRecord.get (raw : RawRecord) (field : PyStr) : Option PyStr :=
  (raw.find? fun entry => entry.1 = field).bind Prod.snd

/-- `RejectedRecord`: an invalid row and why. -/
structure RejectedRecord where
  /-- The file. -/
  sourceFile : PyStr
  /-- The row in the file. -/
  sourceRowNumber : Nat
  /-- The cells. -/
  rawRecord : RawRecord
  /-- The codes of its issues. -/
  errorCode : PyStr
  /-- Their texts. -/
  errorMessage : PyStr
  /-- When it was rejected. -/
  rejectedAt : Instant
  /-- The attempt. -/
  ingestionRunId : PyStr
deriving DecidableEq

/-- `FileValidationResult`. -/
structure FileValidationResult where
  /-- What is wrong with the file as a whole. -/
  fileIssues : List ValidationIssue
  /-- The valid rows. -/
  acceptedRecords : List SettlementRecord
  /-- The others. -/
  rejectedRecords : List RejectedRecord
  /-- The number of rows. -/
  recordCount : Nat

/-- `file_is_valid`. -/
def FileValidationResult.fileIsValid (result : FileValidationResult) : Bool :=
  result.fileIssues.isEmpty

/-- `FieldContract`: what the validation reads of it. -/
structure FieldContract where
  /-- The column. -/
  name : PyStr
  /-- The cell must be there. -/
  required : Bool
  /-- The cell may be empty. -/
  nullable : Bool
  /-- The digits of a decimal. -/
  precision : Option Nat := none
  /-- The decimal places of a decimal. -/
  scale : Option Nat := none
  /-- The pattern of the value. -/
  pattern : Option (PyStr → Bool) := none
  /-- The greatest length. -/
  maxLength : Option Nat := none
  /-- The permitted values. -/
  allowedValues : List PyStr := []

/-- `SettlementContract`: what the ingestion reads of it. -/
structure SettlementContract where
  /-- The version recorded with every file. -/
  schemaVersion : PyStr
  /-- The name of the encoding. -/
  encoding : PyStr
  /-- The codec of that name; `none` is `UnicodeError`. -/
  decode : Bytes → Option PyStr
  /-- The delimiter. -/
  delimiter : Nat
  /-- The groups `partner_id`, `settlement_date` and `sequence` of a full match of a name. -/
  namingPattern : PyStr → Option (PyStr × PyStr × PyStr)
  /-- The columns in order. -/
  fields : List FieldContract

/-- `field_names`. -/
def SettlementContract.fieldNames (contract : SettlementContract) : List PyStr :=
  contract.fields.map (·.name)

/-- `contract.field(name)`; a loaded contract has all fields the validation asks for. -/
def SettlementContract.field (contract : SettlementContract) (name : PyStr) : FieldContract :=
  (contract.fields.find? fun field => field.name = name).getD ⟨name, false, false, none, none,
    none, none, []⟩

/-! ## The contract `settlement-v1` -/

/-- An uppercase letter of ASCII. -/
def isUpper (code : Nat) : Bool := 65 ≤ code && code ≤ 90

/-- The pattern `^[A-Z][A-Z0-9]{1,15}$`. -/
def isPartnerId : PyStr → Bool
  | [] => false
  | first :: rest => isUpper first && 1 ≤ rest.length && rest.length ≤ 15 &&
      rest.all fun code => isUpper code || Json.isDigit code

/-- The pattern `^[A-Z]{3}$`. -/
def isCurrency (text : PyStr) : Bool := text.length = 3 && text.all isUpper

/-- A decimal digit of any script, as `\d` matches it. -/
def isAnyDigit (code : Nat) : Bool := (decimalDigit code).isSome

/-- The pattern `\d{4}-\d{2}-\d{2}`. -/
def isDateText : PyStr → Bool
  | [a, b, c, d, 45, e, f, 45, g, h] => [a, b, c, d, e, f, g, h].all isAnyDigit
  | _ => false

/-- The naming pattern of `settlement-v1`. -/
def settlementName (name : PyStr) : Option (PyStr × PyStr × PyStr) := do
  let rest ← dropStart "settlement_" name
  match splitChar 95 rest with
  | [partner, date, last] =>
    let sequence := last.take 3
    if isPartnerId partner && isDateText date && last.drop 3 = py ".csv" &&
        sequence.length = 3 && sequence.all isAnyDigit then some (partner, date, sequence)
    else none
  | _ => none

/-- The contract `settlement-v1`. -/
def settlementV1 : SettlementContract where
  schemaVersion := "settlement-v1"
  encoding := "utf-8"
  decode := decodeUtf8
  delimiter := 44
  namingPattern := settlementName
  fields := [
    { name := "partner_id", required := true, nullable := false, pattern := some isPartnerId },
    { name := "settlement_date", required := true, nullable := false },
    { name := "settlement_reference", required := true, nullable := false,
      maxLength := some 128 },
    { name := "partner_transaction_reference", required := true, nullable := false,
      maxLength := some 128 },
    { name := "internal_transaction_id", required := true, nullable := true },
    { name := "transaction_timestamp", required := true, nullable := false },
    { name := "amount", required := true, nullable := false, precision := some 18,
      scale := some 2 },
    { name := "currency", required := true, nullable := false, pattern := some isCurrency },
    { name := "settlement_status", required := true, nullable := false,
      allowedValues := ["SETTLED", "REVERSED", "FAILED"] },
    { name := "fee_amount", required := true, nullable := false, precision := some 18,
      scale := some 2 },
    { name := "net_amount", required := true, nullable := false, precision := some 18,
      scale := some 2 }]

/-! ## File names -/

/-- `DiscoveryError`. -/
structure DiscoveryError where
  /-- The code. -/
  code : PyStr
  /-- The text. -/
  message : PyStr
deriving DecidableEq, Repr

/-- Whether `path.suffix` is `.csv`. -/
def hasCsvSuffix (name : PyStr) : Bool := endsWith ".csv" name && 4 < name.length

/-- `parse_settlement_filename` with the partner the caller expects. -/
def parseSettlementFilename (contract : SettlementContract) (expectedPartnerId name : PyStr) :
    Except DiscoveryError FilenameMetadata :=
  if ¬ hasCsvSuffix name then
    .error ⟨"INVALID_EXTENSION", "Settlement file extension must be .csv"⟩
  else match contract.namingPattern name with
    | none => .error ⟨"INVALID_FILE_NAME", py "Invalid settlement file name: " ++ name⟩
    | some (partnerId, dateText, sequenceText) =>
      if expectedPartnerId ≠ [] ∧ partnerId ≠ expectedPartnerId then
        .error ⟨"PARTNER_FILE_NAME_MISMATCH", py "File partner " ++ partnerId ++
          py " does not match expected partner " ++ expectedPartnerId⟩
      else match dateFromIsoformat dateText with
        | none => .error ⟨"INVALID_SETTLEMENT_DATE", "File name date is not valid"⟩
        | some settlementDate =>
          let sequence := (parseInt sequenceText).getD 0
          if sequence < 1 then
            .error ⟨"INVALID_FILE_SEQUENCE", "Settlement file sequence must be 001-999"⟩
          else .ok ⟨partnerId, settlementDate, sequence, name⟩

/-- What `parse_settlement_filename` accepts. -/
theorem parseSettlementFilename_ok_iff {contract : SettlementContract} {expected name : PyStr}
    {filename : FilenameMetadata} :
    parseSettlementFilename contract expected name = .ok filename ↔
      hasCsvSuffix name = true ∧ (expected ≠ [] → filename.partnerId = expected) ∧
        filename.fileName = name ∧ 1 ≤ filename.sequence ∧
        ∃ dateText sequenceText,
          contract.namingPattern name = some (filename.partnerId, dateText, sequenceText) ∧
          dateFromIsoformat dateText = some filename.settlementDate ∧
          filename.sequence = (parseInt sequenceText).getD 0 := by
  unfold parseSettlementFilename
  constructor
  · intro parsed
    split at parsed
    · cases parsed
    rename_i csv
    split at parsed
    · cases parsed
    rename_i partnerId dateText sequenceText matched
    split at parsed
    · cases parsed
    rename_i partner
    split at parsed
    · cases parsed
    rename_i settlementDate dated
    dsimp only at parsed
    split at parsed
    · cases parsed
    rename_i positive
    obtain rfl := Except.ok.inj parsed
    refine ⟨not_not.mp csv, fun named => ?_, rfl, by dsimp only; omega, dateText, sequenceText,
      matched, dated, rfl⟩
    rw [not_and, not_not] at partner
    exact partner named
  · rintro ⟨csv, partner, rfl, positive, dateText, sequenceText, matched, dated, sequence⟩
    rw [if_neg (not_not.mpr csv), matched]
    dsimp only
    rw [if_neg (fun both => both.2 (partner both.1)), dated]
    dsimp only
    rw [← sequence, if_neg (by omega)]

/-- An accepted name is accepted under its own partner. -/
theorem parseSettlementFilename_own {contract : SettlementContract} {expected name : PyStr}
    {filename : FilenameMetadata}
    (parsed : parseSettlementFilename contract expected name = .ok filename) :
    parseSettlementFilename contract filename.partnerId name = .ok filename := by
  obtain ⟨csv, -, rest⟩ := parseSettlementFilename_ok_iff.mp parsed
  exact parseSettlementFilename_ok_iff.mpr ⟨csv, fun _ => rfl, rest⟩

end Settlement
