import PaymentsPlatform.Cdc.Storage
import PaymentsPlatform.Python.Uuid
import PaymentsPlatform.Settlement.Validation
import PaymentsPlatform.Silver.Normalizer

/-!
# Normalization of settlement files

`normalize_settlement_bytes`: a Bronze settlement object is written to a temporary file under the
name of its metadata or of its key, and judged once more by the validation of the ingestion. The
temporary directory can be written.
-/

namespace Silver

open Python
open Cdc (Metadata StoredFile Sidecar)
open Settlement (SettlementContract SettlementRecord RejectedRecord FileValidationResult
  parseSettlementFilename validateSettlementFile)

/-- The `InputObject` of a settlement: its metadata are read too. -/
structure SettlementObject extends InputObject where
  /-- The metadata. -/
  metadata : Metadata

/-- The metadata that `stat` reports: those that were stored, sanitized once more. -/
def readMetadata (file : StoredFile) : Metadata :=
  Cdc.sanitizeMetadata ((file.sidecar.map Sidecar.metadata).getD [])

/-- `Path(text).name`. -/
def pathName (text : PyStr) : PyStr :=
  (((splitChar 47 text).filter fun part => part ≠ [] ∧ part ≠ py ".").getLast?).getD []

/-- `_path_partition`. -/
def pathPartition (objectKey name : PyStr) : PyStr :=
  ((splitChar 47 objectKey).findSome? (dropStart (name ++ py "="))).getD "UNKNOWN"

/-- `metadata.get(name) or default`. -/
def metadataOr (metadata : Metadata) (name default : PyStr) : PyStr :=
  match metadata.get? name with
  | some value => if value = [] then default else value
  | none => default

/-- `_settlement_quality_code`. -/
def settlementQualityCode (errorCode : PyStr) : QualityCode :=
  if contains "DECIMAL" errorCode || contains "AMOUNT" errorCode then .invalidDecimal
  else if contains "TIMESTAMP" errorCode || contains "DATE" errorCode then .invalidTimestamp
  else if contains "INTERNAL_TRANSACTION_ID" errorCode then .invalidReference
  else .invalidBronzeSchema

/-- The row of a record. -/
def settlementRow (object : SettlementObject) (fileName runId : PyStr) (processedAt : Instant)
    (record : SettlementRecord) : SettlementRow where
  partnerId := record.partnerId
  settlementDate := record.settlementDate
  settlementReference := record.settlementReference
  partnerTransactionReference := record.partnerTransactionReference
  internalTransactionId := record.internalTransactionId.map uuidText
  transactionTimestamp := record.transactionTimestamp
  amount := record.amount
  currency := record.currency
  settlementStatus := record.settlementStatus
  feeAmount := record.feeAmount
  netAmount := record.netAmount
  sourceFileName := fileName
  sourceChecksum := object.checksumSha256
  sourceRowNumber := record.sourceRowNumber
  ingestionRunId := object.metadata.get? "ingestion_run_id"
  processingRunId := runId
  processedAt := processedAt

/-- The rejection of a file as a whole. -/
def fileLevelRejection (object : SettlementObject) (fileName message runId : PyStr)
    (processedAt : Instant) : QualityRejection :=
  rejection object.uri none "settlements" none .invalidBronzeSchema message
    (py "file:" ++ fileName) runId processedAt

/-- The rejection of a row. -/
def rowRejection (object : SettlementObject) (runId : PyStr) (processedAt : Instant)
    (rejected : RejectedRecord) : QualityRejection :=
  let reference := rejected.rawRecord.get "settlement_reference"
  rejection object.uri reference "settlements" reference
    (settlementQualityCode rejected.errorCode) rejected.errorMessage
    (py "row:" ++ natText rejected.sourceRowNumber) runId processedAt

/-- What `normalize_settlement_bytes` returns: rows, rejections, the number of input rows and the
partner. -/
abbrev NormalizedSettlement := List SettlementRow × List QualityRejection × Nat × PyStr

/-- `normalize_settlement_bytes`. -/
def normalizeSettlementBytes (contract : SettlementContract) (payload : Bytes)
    (object : SettlementObject) (runId : PyStr) (processedAt : Instant) :
    Except PyError NormalizedSettlement :=
  let fileName := metadataOr object.metadata "source_file_name" (pathName object.objectKey)
  let partnerId := metadataOr object.metadata "partner_id"
    (pathPartition object.objectKey "partner_id")
  let source := pathName fileName
  if source = [] ∨ source = py ".." then .error ⟨.osError, "Is a directory"⟩
  else match parseSettlementFilename contract partnerId source with
    | .error problem =>
      .ok ([], [fileLevelRejection object fileName problem.message runId processedAt], 0, partnerId)
    | .ok filename => do
      let result ← validateSettlementFile contract filename
        ⟨source, processedAt, (object.metadata.get? "ingestion_run_id").getD "unknown"⟩ payload
      let issues := result.fileIssues.map fun issue =>
        fileLevelRejection object fileName (issue.code ++ py ": " ++ issue.message) runId
          processedAt
      .ok (result.acceptedRecords.map (settlementRow object fileName runId processedAt),
        issues ++ result.rejectedRecords.map (rowRejection object runId processedAt),
        result.recordCount, partnerId)

end Silver
