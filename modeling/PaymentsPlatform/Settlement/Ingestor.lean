import PaymentsPlatform.Settlement.System

/-!
# Settlement ingestion

The object layout of settlements and `SettlementIngestor.ingest_file` with its quarantine and
failure branches, as a program over the effects of the system.
-/

namespace Settlement

open Python Effects
open Cdc (Location Metadata)

/-- Perform one effect. -/
def perform (op : Op) : Action op.Answer := Program.request (S := signature) op

/-! ## The object layout -/

/-- The pattern `[A-Za-z0-9][A-Za-z0-9._-]{0,127}`. -/
def isPartitionValue : PyStr → Bool := isName 127

/-- `_validate_partition_value`. -/
def validatePartitionValue (value name : PyStr) : Except PyError Unit :=
  if isPartitionValue value then .ok ()
  else .error ⟨.valueError, name ++ py " contains unsafe object-key characters"⟩

/-- `_safe_file_name`. -/
def safeFileName (fileName : PyStr) : Except PyError PyStr :=
  if fileName = [] ∨ fileName = py "." ∨ 47 ∈ fileName ∨ 92 ∈ fileName then
    .error ⟨.valueError, py "file_name must not contain directory segments"⟩
  else .ok fileName

/-- The part of every key that names the partner. -/
def partnerPrefix (partnerId : PyStr) : PyStr :=
  py "settlements/partner_id=" ++ partnerId ++ py "/"

/-- `build_bronze_object_key`. -/
def buildBronzeObjectKey (partnerId : PyStr) (settlementDate ingestionDate : Date)
    (checksumSha256 fileName : PyStr) : Except PyError PyStr := do
  validatePartitionValue partnerId "partner_id"
  if isChecksum checksumSha256 then
    let name ← safeFileName fileName
    return partnerPrefix partnerId ++ py "settlement_date=" ++ settlementDate.isoformat ++
      py "/ingestion_date=" ++ ingestionDate.isoformat ++ py "/checksum=" ++ checksumSha256 ++
      py "/" ++ name
  else .error ⟨.valueError, py "checksum_sha256 must be 64 lowercase hexadecimal characters"⟩

/-- `build_quarantine_object_key`. -/
def buildQuarantineObjectKey (partnerId : PyStr) (settlementDate : Option Date)
    (ingestionRunId fileName : PyStr) : Except PyError PyStr := do
  validatePartitionValue partnerId "partner_id"
  validatePartitionValue ingestionRunId "ingestion_run_id"
  let name ← safeFileName fileName
  return partnerPrefix partnerId ++ py "settlement_date=" ++
    (settlementDate.map Date.isoformat).getD "unknown" ++
    py "/ingestion_run_id=" ++ ingestionRunId ++ py "/" ++ name

/-- Upload content whose digest is declared, and return its address. -/
def putContent (deployment : Deployment) (bucket key : PyStr) (data : Bytes)
    (checksum contentType : PyStr) (metadata : Metadata) : Action PyStr := do
  let place ← Program.ofExcept (deployment.backend.locate bucket key)
  perform (.put place data (Cdc.sidecarFor checksum contentType metadata))
  return place.2

/-- `put_immutable`: the source must have its declared digest. -/
def putImmutable (deployment : Deployment) (bucket key : PyStr) (data : Bytes)
    (checksum contentType : PyStr) (metadata : Metadata) : Action PyStr :=
  if deployment.sha.hexdigest data ≠ checksum then
    .raised ⟨.storageBackendError, py "Source checksum does not match the declared SHA-256"⟩
  else putContent deployment bucket key data checksum contentType metadata

/-- `copy_to_bronze`. -/
def copyToBronze (deployment : Deployment) (source : SourceFile) (partnerId : PyStr)
    (settlementDate ingestionDate : Date) (checksumSha256 : PyStr) (metadata : Metadata) :
    Action PyStr := do
  let key ← Program.ofExcept
    (buildBronzeObjectKey partnerId settlementDate ingestionDate checksumSha256 source.name)
  putImmutable deployment deployment.bronzeBucket key source.data checksumSha256 "text/csv"
    (metadata ++ [(py "artifact_type", py "settlement_raw")])

/-- `quarantine_file`. -/
def quarantineFile (deployment : Deployment) (source : SourceFile) (partnerId : PyStr)
    (settlementDate : Option Date) (ingestionRunId checksumSha256 : PyStr)
    (metadata : Metadata) : Action PyStr := do
  let key ← Program.ofExcept
    (buildQuarantineObjectKey partnerId settlementDate ingestionRunId source.name)
  putImmutable deployment deployment.quarantineBucket key source.data checksumSha256 "text/csv"
    (metadata ++ [(py "artifact_type", py "quarantined_raw")])

/-- A JSON object with the default separators of `json.dumps`, its values written already. -/
def spacedObject (members : List (PyStr × PyStr)) : PyStr :=
  py "\x7b" ++ List.intercalate ", " (members.map fun (name, value) =>
    Json.quote name ++ py ": " ++ value) ++ py "\x7d"

/-- A cell of a row as JSON. -/
def cellJson : Option PyStr → Json
  | none => .null
  | some text => .str text

/-- `json.dumps(record.to_dict(), sort_keys=True, ensure_ascii=False)`. -/
def RejectedRecord.dumps (record : RejectedRecord) : PyStr :=
  spacedObject [
    ("error_code", Json.quote record.errorCode),
    ("error_message", Json.quote record.errorMessage),
    ("ingestion_run_id", Json.quote record.ingestionRunId),
    ("raw_record", spacedObject ((Json.sortMembers (record.rawRecord.map fun (name, cell) =>
      (name, cellJson cell))).map fun (name, value) => (name, value.render))),
    ("rejected_at", Json.quote record.rejectedAt.isoformat),
    ("source_file", Json.quote record.sourceFile),
    ("source_row_number", natText record.sourceRowNumber)]

/-- The JSON lines of rejected rows. -/
def rejectedListing (records : List RejectedRecord) : Bytes :=
  utf8 (records.flatMap fun record => record.dumps ++ py "\n")

/-- `write_rejected_records`. -/
def writeRejectedRecords (deployment : Deployment) (records : List RejectedRecord)
    (sourceFileName partnerId : PyStr) (settlementDate : Date) (ingestionRunId : PyStr)
    (metadata : Metadata) : Action PyStr := do
  let key ← Program.ofExcept (buildQuarantineObjectKey partnerId (some settlementDate)
    ingestionRunId (sourceFileName ++ py ".rejected.jsonl"))
  putContent deployment deployment.quarantineBucket key (rejectedListing records)
    (deployment.sha.hexdigest (rejectedListing records)) "application/x-ndjson"
    (metadata ++ [(py "artifact_type", py "rejected_records")])

/-! ## The ingestor -/

/-- `ProcessingResult`. -/
structure ProcessingResult where
  /-- The name of the file. -/
  fileName : PyStr
  /-- The outcome. -/
  status : ManifestStatus
  /-- The digest. -/
  checksumSha256 : PyStr
  /-- The discovery. -/
  duplicateKind : DuplicateKind
  /-- The attempt. -/
  ingestionRunId : PyStr
  /-- The row. -/
  fileId : Option PyStr := none
  /-- The rows of the file. -/
  recordCount : Nat := 0
  /-- The valid ones. -/
  acceptedCount : Nat := 0
  /-- The others. -/
  rejectedCount : Nat := 0
  /-- The Bronze object. -/
  bronzePath : Option PyStr := none
  /-- The quarantine object. -/
  quarantinePath : Option PyStr := none
  /-- The code of the problem. -/
  errorCode : Option PyStr := none
  /-- Its text. -/
  errorMessage : Option PyStr := none
  /-- Nothing was done. -/
  skipped : Bool := false
  /-- Nothing was to be done. -/
  dryRun : Bool := false
deriving DecidableEq

/-- The arguments of `ingest_file`. -/
structure IngestRequest where
  /-- The file. -/
  file : SourceFile
  /-- The partner it is expected from. -/
  expectedPartnerId : PyStr
  /-- Validate only. -/
  dryRun : Bool := false
  /-- Strict mode. -/
  failOnRejectedRecords : Bool := false

/-- `_result_from_manifest`. -/
def resultFromManifest (record : ManifestRecord) (kind : DuplicateKind) (fileName : PyStr)
    (skipped : Bool) : ProcessingResult where
  fileName := fileName
  status := record.status
  checksumSha256 := record.checksumSha256
  duplicateKind := kind
  ingestionRunId := record.ingestionRunId
  fileId := some record.fileId
  recordCount := record.recordCount
  acceptedCount := record.acceptedCount
  rejectedCount := record.rejectedCount
  bronzePath := record.bronzePath
  quarantinePath := record.quarantinePath
  errorCode := record.errorCode
  errorMessage := record.errorMessage
  skipped := skipped

/-- `_dry_run_result`. -/
def dryRunResult (fileName checksum ingestionRunId : PyStr) (validation : FileValidationResult)
    (failOnRejectedRecords : Bool) : ProcessingResult where
  fileName := fileName
  status := if ¬ validation.fileIsValid ∨ (failOnRejectedRecords ∧ validation.rejectedRecords ≠ [])
    then .quarantined else .validated
  checksumSha256 := checksum
  duplicateKind := .newFile
  ingestionRunId := ingestionRunId
  recordCount := validation.recordCount
  acceptedCount := validation.acceptedRecords.length
  rejectedCount := validation.rejectedRecords.length
  errorCode := validation.fileIssues.head?.map (·.code)
  errorMessage := validation.fileIssues.head?.map (·.message)
  dryRun := true

/-- `_validate`: a file that cannot be read is not a CSV file. -/
def validate (deployment : Deployment) (file : SourceFile) (filename : FilenameMetadata)
    (now : Instant) (ingestionRunId : PyStr) : Action FileValidationResult := do
  match ← (perform (.openSource file filename)).outcome with
  | .ok data => Program.ofExcept (validateSettlementFile deployment.contract filename
      ⟨file.name, now, ingestionRunId⟩ data)
  | .error problem =>
    if problem.kind.isOSError then
      return fileRejection "INVALID_CSV" (py "CSV cannot be parsed: " ++ problem.message)
    else .raised problem

/-- `_storage_metadata`. -/
def storageMetadata (deployment : Deployment) (file : SourceFile) (partnerId checksum : PyStr)
    (ingestionRunId : PyStr) (validation : Option FileValidationResult) (now : Instant) :
    Action Metadata := do
  let size ← perform (.sizeSource file)
  let count (of : FileValidationResult → Nat) := natText ((validation.map of).getD 0)
  return [("source_name", sourceName), ("partner_id", partnerId),
    ("schema_version", deployment.contract.schemaVersion), ("checksum_sha256", checksum),
    ("ingestion_run_id", ingestionRunId), ("source_file_name", file.name),
    ("source_file_size", natText size), ("record_count", count (·.recordCount)),
    ("accepted_count", count (·.acceptedRecords.length)),
    ("rejected_count", count (·.rejectedRecords.length)), ("ingested_at", now.isoformat)]

/-- `_fail_manifest`. -/
def failManifest (record : ManifestRecord) (kind : DuplicateKind) (fileName : PyStr)
    (now : Instant) (error : PyError) : Action ProcessingResult := do
  let failed ← perform (.transition record.fileId .failed [.processedAt now.isoformat,
    .errorCode (some "STORAGE_OR_PROCESSING_FAILED"),
    .errorMessage (some (error.message.take 1000))])
  return resultFromManifest failed kind fileName false

/-- What an attempt knows once its content is registered. -/
structure Attempt where
  /-- The file. -/
  file : SourceFile
  /-- What its name says. -/
  filename : FilenameMetadata
  /-- The digest. -/
  checksum : PyStr
  /-- The discovery. -/
  kind : DuplicateKind
  /-- Now. -/
  now : Instant
  /-- The attempt. -/
  runId : PyStr

/-- `_quarantine_invalid_file`. -/
def quarantineInvalidFile (deployment : Deployment) (attempt : Attempt)
    (record : ManifestRecord) (validation : FileValidationResult) (metadata : Metadata) :
    Action ProcessingResult :=
  let issue := validation.fileIssues.head?
  let body : Action ProcessingResult := do
    let path ← quarantineFile deployment attempt.file attempt.filename.partnerId
      (some attempt.filename.settlementDate) record.ingestionRunId attempt.checksum metadata
    let record ← perform (.transition record.fileId .quarantined [
      .processedAt attempt.now.isoformat, .recordCount validation.recordCount,
      .errorCode (issue.map (·.code)), .errorMessage (issue.map (·.message)),
      .quarantinePath (some path)])
    return resultFromManifest record attempt.kind attempt.file.name false
  body.handle (failManifest record attempt.kind attempt.file.name attempt.now)

/-- `_quarantine_strict_file`. -/
def quarantineStrictFile (deployment : Deployment) (attempt : Attempt)
    (record : ManifestRecord) (validation : FileValidationResult) (metadata : Metadata) :
    Action ProcessingResult :=
  let body : Action ProcessingResult := do
    let path ← quarantineFile deployment attempt.file attempt.filename.partnerId
      (some attempt.filename.settlementDate) record.ingestionRunId attempt.checksum metadata
    let _ ← writeRejectedRecords deployment validation.rejectedRecords attempt.file.name
      attempt.filename.partnerId attempt.filename.settlementDate record.ingestionRunId metadata
    let record ← perform (.transition record.fileId .quarantined [
      .processedAt attempt.now.isoformat, .errorCode (some "REJECTED_RECORDS_PRESENT"),
      .errorMessage (some "Strict mode quarantined a file containing rejected records"),
      .quarantinePath (some path)])
    return resultFromManifest record attempt.kind attempt.file.name false
  body.handle (failManifest record attempt.kind attempt.file.name attempt.now)

/-- The listing of the rejected rows, when there are any. -/
def listRejected (deployment : Deployment) (attempt : Attempt)
    (validation : FileValidationResult) (metadata : Metadata) : Action (Option PyStr) :=
  if validation.rejectedRecords = [] then .done none
  else (writeRejectedRecords deployment validation.rejectedRecords attempt.file.name
    attempt.filename.partnerId attempt.filename.settlementDate attempt.runId metadata).bind
      fun path => .done (some path)

/-- The end of `ingest_file`: the uploads and the transition to `PROCESSED`. -/
def processFile (deployment : Deployment) (attempt : Attempt) (record : ManifestRecord)
    (validation : FileValidationResult) (metadata : Metadata) : Action ProcessingResult :=
  let body : Action ProcessingResult := do
    let bronzePath ← copyToBronze deployment attempt.file attempt.filename.partnerId
      attempt.filename.settlementDate attempt.now.date attempt.checksum metadata
    let quarantinePath ← listRejected deployment attempt validation metadata
    let record ← perform (.transition record.fileId .processed [
      .processedAt attempt.now.isoformat, .bronzePath (some bronzePath),
      .quarantinePath quarantinePath])
    return resultFromManifest record attempt.kind attempt.file.name false
  body.handle (failManifest record attempt.kind attempt.file.name attempt.now)

/-- `ingest_file` from the transition to `VALIDATING` on. -/
def settleFile (deployment : Deployment) (strict : Bool) (attempt : Attempt)
    (record : ManifestRecord) : Action ProcessingResult := do
  let size ← perform (.sizeSource attempt.file)
  let record ← perform (.transition record.fileId .validating [.filePath attempt.file.path,
    .fileSizeBytes size, .ingestionRunId attempt.runId, .errorCode none, .errorMessage none])
  let validation ← validate deployment attempt.file attempt.filename attempt.now attempt.runId
  let metadata ← storageMetadata deployment attempt.file attempt.filename.partnerId
    attempt.checksum attempt.runId (some validation) attempt.now
  if ¬ validation.fileIsValid then
    quarantineInvalidFile deployment attempt record validation metadata
  else
    let record ← perform (.transition record.fileId .validated [
      .recordCount validation.recordCount,
      .acceptedCount validation.acceptedRecords.length,
      .rejectedCount validation.rejectedRecords.length])
    if validation.rejectedRecords ≠ [] ∧ strict then
      quarantineStrictFile deployment attempt record validation metadata
    else
      let record ← perform (.transition record.fileId .processing [
        .processingStartedAt attempt.now.isoformat])
      processFile deployment attempt record validation metadata

/-- What is registered of a file whose name is rejected or accepted. -/
def discoveryOf (deployment : Deployment) (file : SourceFile) (partnerId checksum : PyStr)
    (settlementDate : Option Date) (size : Nat) (now : Instant) (runId : PyStr) : Discovery where
  partnerId := partnerId
  fileName := file.name
  filePath := file.path
  fileSizeBytes := size
  checksumSha256 := checksum
  schemaVersion := deployment.contract.schemaVersion
  settlementDate := settlementDate.map Date.isoformat
  discoveredAt := now
  ingestionRunId := runId

/-- The end of `_handle_filename_rejection`: the upload and the transition to `QUARANTINED`. -/
def quarantineRejectedName (deployment : Deployment) (file : SourceFile)
    (partnerId checksum : PyStr) (problem : DiscoveryError) (kind : DuplicateKind)
    (now : Instant) (runId : PyStr) (record : ManifestRecord) : Action ProcessingResult :=
  let body : Action ProcessingResult := do
    let metadata ← storageMetadata deployment file partnerId checksum runId none now
    let path ← quarantineFile deployment file partnerId none runId checksum metadata
    let record ← perform (.transition record.fileId .quarantined [.processedAt now.isoformat,
      .errorCode (some problem.code), .errorMessage (some problem.message),
      .quarantinePath (some path)])
    return resultFromManifest record kind file.name false
  body.handle (failManifest record kind file.name now)

/-- `_handle_filename_rejection`. -/
def handleFilenameRejection (deployment : Deployment) (request : IngestRequest)
    (problem : DiscoveryError) (now : Instant) (runId : PyStr) : Action ProcessingResult := do
  let file := request.file
  let partnerId := request.expectedPartnerId
  match ← (perform (.hashSource file)).outcome with
  | .error failure =>
    if failure.kind.isOSError then
      return {
        fileName := file.name
        status := .failed
        checksumSha256 := []
        duplicateKind := .newFile
        ingestionRunId := runId
        errorCode := some "CHECKSUM_FAILED"
        errorMessage := some failure.message
        dryRun := request.dryRun }
    else .raised failure
  | .ok checksum =>
    if request.dryRun then
      return {
        fileName := file.name
        status := .quarantined
        checksumSha256 := checksum
        duplicateKind := .newFile
        ingestionRunId := runId
        errorCode := some problem.code
        errorMessage := some problem.message
        dryRun := true }
    else
      let size ← perform (.sizeSource file)
      let (record, kind) ← perform (.register
        (discoveryOf deployment file partnerId checksum none size now runId))
      if record.status = .quarantined then
        return resultFromManifest record kind file.name true
      else
        let record ← perform (.transition record.fileId .validating [.ingestionRunId runId])
        quarantineRejectedName deployment file partnerId checksum problem kind now runId record

/-- `ingest_file`. -/
def ingestFile (deployment : Deployment) (request : IngestRequest) :
    Action ProcessingResult := do
  let file := request.file
  let now ← perform .now
  let runId ← perform .newRunId
  match parseSettlementFilename deployment.contract request.expectedPartnerId file.name with
  | .error problem => handleFilenameRejection deployment request problem now runId
  | .ok filename =>
    let checksum ← perform (.hashSource file)
    if request.dryRun then
      let validation ← validate deployment file filename now runId
      return dryRunResult file.name checksum runId validation request.failOnRejectedRecords
    else
      let size ← perform (.sizeSource file)
      let (record, kind) ← perform (.register (discoveryOf deployment file filename.partnerId
        checksum (some filename.settlementDate) size now runId))
      if record.status.terminal then
        return resultFromManifest record kind file.name true
      else
        settleFile deployment request.failOnRejectedRecords
          ⟨file, filename, checksum, kind, now, runId⟩ record

/-- The attempts one after another, each of which may be cut off by the next one. -/
def ingestor (deployment : Deployment) :
    Service signature PyError World Choice IngestRequest where
  machine := machine deployment
  code := fun request => (ingestFile deployment request).bind fun _ => .done ()
  boot := fun _ world => world

end Settlement
