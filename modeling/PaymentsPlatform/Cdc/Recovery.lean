import PaymentsPlatform.Cdc.Storage

/-!
# Upload before commit

`CdcBatchProcessor`: register a range, serialize it, upload the object, confirm it in the
manifest and only then commit the Kafka offset behind the range. A range that is already
uploaded is verified and committed again. Repair on assignment promotes uploaded ranges whose
offset Kafka has already acknowledged.
-/

namespace Cdc

open Python Effects

/-! ## Manifest operations -/

/-- `_require`. -/
def requireRow (batchId : PyStr) : Action BatchManifestRecord := do
  match ← perform (.selectRow batchId) with
  | none => raise .manifestError (py "Unknown CDC batch: " ++ batchId)
  | some record => return record

/-- `_transition`: compare and swap on the status that was read. -/
def transition (batchId : PyStr) (target : BatchStatus) (updates : List Assignment) :
    Action BatchManifestRecord := do
  let current ← requireRow batchId
  if current.status.allowed target then
    let count ← perform (.updateRow batchId current.status (.status target :: updates))
    if Nat.beq count 1 then requireRow batchId
    else raise .manifestError "Manifest state changed concurrently"
  else raise .invalidManifestTransition (py "Invalid manifest transition: " ++
    current.status.value ++ py " -> " ++ target.value)

/-- `mark_serializing`. -/
def markSerializing (batchId : PyStr) : Action BatchManifestRecord := do
  let current ← requireRow batchId
  if current.status = .serializing ∨ current.status = .uploading ∨ current.Durable then
    return current
  else transition batchId .serializing []

/-- `mark_uploading`. -/
def markUploading (batchId : PyStr) : Action BatchManifestRecord := do
  let current ← requireRow batchId
  if current.status = .uploading ∨ current.Durable then return current
  else
    let now ← perform .now
    transition batchId .uploading [.uploadStartedAt now]

/-- `mark_uploaded`. -/
def markUploaded (batchId checksum uri : PyStr) : Action BatchManifestRecord :=
  if checksum.length ≠ 64 then
    raise .manifestError "Uploaded checksum must be a SHA-256 hex digest"
  else do
    let current ← requireRow batchId
    if current.Durable then
      if current.checksumSha256 ≠ some checksum ∨ current.objectUri ≠ some uri then
        raise .manifestConflictError "Uploaded artifact differs from manifest evidence"
      else return current
    else
      let now ← perform .now
      transition batchId .uploaded [.checksumSha256 checksum, .objectUri uri, .uploadedAt now,
        .errorCode none, .errorMessage none]

/-- `mark_committed`. -/
def markCommitted (batchId : PyStr) : Action BatchManifestRecord := do
  let current ← requireRow batchId
  if current.status = .committed then return current
  else
    let now ← perform .now
    transition batchId .committed [.committedAt now, .errorCode none, .errorMessage none]

/-- `note_retryable_error`. -/
def noteRetryableError (batchId errorCode errorMessage : PyStr) :
    Action BatchManifestRecord := do
  let current ← requireRow batchId
  let _ ← perform (.updateRow batchId current.status [.errorCode (some errorCode),
    .errorMessage (some (safeError errorMessage)), .retryCount (current.retryCount + 1)])
  requireRow batchId

/-- `mark_failed`. -/
def markFailed (batchId errorCode errorMessage : PyStr) : Action BatchManifestRecord := do
  let current ← requireRow batchId
  if current.Durable then
    raise .invalidManifestTransition "Uploaded evidence cannot be downgraded to FAILED"
  else if current.status = .failed then noteRetryableError batchId errorCode errorMessage
  else transition batchId .failed [.errorCode (some errorCode),
    .errorMessage (some (safeError errorMessage)), .retryCount (current.retryCount + 1)]

/-! ## Kafka commits -/

/-- `KafkaOffsetCommitter.commit`. -/
def commitNext (key : TopicPartitionKey) (nextOffset : Int) : Action Unit :=
  (perform (.commitOffset key nextOffset)).handle fun error =>
    if error.kind = .kafkaException then
      raise .connectionError "Synchronous Kafka offset commit failed"
    else .raised error

/-- `CdcBatchProcessor._commit`. -/
def commitBatch (deployment : Deployment) (batch : CdcBatch) : Action Unit :=
  retryCall deployment (commitNext batch.topicPartition batch.nextOffset)

/-! ## Processing a batch -/

/-- `BatchProcessResult`. -/
structure BatchProcessResult where
  /-- The batch. -/
  batchId : PyStr
  /-- Its object. -/
  objectUri : PyStr
  /-- The digest of the object. -/
  checksumSha256 : PyStr
  /-- The committed offset. -/
  committedOffset : Int
  /-- The object was there before. -/
  replayed : Bool
deriving DecidableEq

/-- The ingestion time stated by the metadata of an object, when it states one. -/
def statedIngestion (stored : Option StoredObject) : Option PyStr :=
  (stored.bind fun object => object.metadata.get? "ingested_at").filter fun text => text ≠ []

/-- `datetime.fromisoformat` of such a statement. -/
def readIngestion (text : PyStr) : Except PyError Instant :=
  match parseTimestamp text with
  | some instant => .ok instant
  | none => .error ⟨.valueError, py "Invalid isoformat string: " ++ text⟩

/-- The ingestion time of a batch: that of the object when it states one, else the creation
time of the row. -/
def ingestionTime (existing : Option StoredObject) (createdAt : Instant) :
    Except PyError Instant :=
  match statedIngestion existing with
  | none => .ok createdAt
  | some text => readIngestion text

/-- The first part of the upload: everything before the temporary file exists. -/
def prepare (deployment : Deployment) (batch : CdcBatch) :
    Action (SerializedParquet × Instant) := do
  let _ ← retryCall deployment (markSerializing batch.batchId)
  match ← perform (.selectRow batch.batchId) with
  | none => raise .runtimeError "Manifest record disappeared during serialization"
  | some stable =>
    let existing ← retryCall deployment (statBatch deployment batch)
    let ingestedAt ← Program.ofExcept
      (ingestionTime existing (BatchManifestRecord.createdAt stable))
    let serialized ← serializeBatch deployment batch ingestedAt
    return (serialized, ingestedAt)

/-- Upload a serialized batch, with retries. -/
def uploadSerialized (deployment : Deployment) (batch : CdcBatch) (serialized : SerializedParquet)
    (ingestedAt : Instant) : Action (SerializedParquet × StoredObject) := do
  let stored ← retryCall deployment
    (putBatch deployment batch serialized deployment.settings.groupId ingestedAt)
  return (serialized, stored)

/-- After a collision: rebuild the object once with the ingestion time of the winner. -/
def rebuild (deployment : Deployment) (batch : CdcBatch) (collision : PyError) :
    Action (SerializedParquet × StoredObject) := do
  let winner ← statBatch deployment batch
  match statedIngestion winner with
  | none => .raised collision
  | some text =>
    let ingestedAt ← Program.ofExcept (readIngestion text)
    cleanupSerialized
    let serialized ← serializeBatch deployment batch ingestedAt
    uploadSerialized deployment batch serialized ingestedAt

/-- The second part of the upload, while the temporary file exists. -/
def upload (deployment : Deployment) (batch : CdcBatch) (serialized : SerializedParquet)
    (ingestedAt : Instant) : Action Unit := do
  let _ ← retryCall deployment (markUploading batch.batchId)
  let (serialized, stored) ←
    (uploadSerialized deployment batch serialized ingestedAt).handle fun error =>
      if error.kind = .immutableCollisionError then rebuild deployment batch error
      else .raised error
  let _ ← retryCall deployment
    (markUploaded batch.batchId serialized.checksumSha256 stored.uri)
  return ()

/-- The failure handler of the upload: the row is marked unless it is durable. -/
def uploadFailed {α : Type} (batch : CdcBatch) (error : PyError) : Action α := do
  match ← perform (.selectRow batch.batchId) with
  | some current =>
    if BatchManifestRecord.Durable current then .raised error
    else
      let _ ← markFailed batch.batchId error.kind.typeName error.message
      .raised error
  | none => .raised error

/-- The end of a first upload: confirm it, commit the offset, mark the row. -/
def finish (deployment : Deployment) (batch : CdcBatch) : Action BatchProcessResult := do
  let unconfirmed := raise .runtimeError "Manifest did not confirm an uploaded CDC batch"
  match ← perform (.selectRow batch.batchId) with
  | none => unconfirmed
  | some uploaded =>
    match BatchManifestRecord.status uploaded, BatchManifestRecord.objectUri uploaded,
        BatchManifestRecord.checksumSha256 uploaded with
    | .uploaded, some uri, some checksum =>
      (commitBatch deployment batch).handle fun error => do
        let _ ← noteRetryableError batch.batchId "KAFKA_COMMIT_FAILED" error.message
        .raised error
      let _ ← retryCall deployment (markCommitted batch.batchId)
      return ⟨batch.batchId, uri, checksum, batch.nextOffset, false⟩
    | _, _, _ => unconfirmed

/-- A batch that is already durable: verify the object and commit the offset again. -/
def replay (deployment : Deployment) (batch : CdcBatch) (record : BatchManifestRecord) :
    Action BatchProcessResult :=
  match record.checksumSha256, record.objectUri with
  | some checksum, some uri => do
    let _ ← retryCall deployment (verifyBatch deployment batch checksum uri)
    commitBatch deployment batch
    if record.status = .uploaded then
      let _ ← markCommitted batch.batchId
      return ⟨batch.batchId, uri, checksum, batch.nextOffset, true⟩
    else return ⟨batch.batchId, uri, checksum, batch.nextOffset, true⟩
  | _, _ => raise .runtimeError "Uploaded manifest record lacks durable object evidence"

/-- `SqliteBatchManifest.register`. -/
def registerBatch (deployment : Deployment) (batch : CdcBatch) : Action BatchManifestRecord := do
  let now ← perform .now
  perform (.registerRow batch deployment.settings.groupId now)

/-- The upload of a batch that is not durable yet. -/
def publishBatch (deployment : Deployment) (batch : CdcBatch) : Action Unit := do
  let (serialized, ingestedAt) ← (prepare deployment batch).handle (uploadFailed batch)
  ((upload deployment batch serialized ingestedAt).handle (uploadFailed batch)).ensure
    cleanupSerialized

/-- `CdcBatchProcessor.process`. -/
def process (deployment : Deployment) (batch : CdcBatch) : Action BatchProcessResult := do
  let record ← retryCall deployment (registerBatch deployment batch)
  if record.Durable then replay deployment batch record
  else
    publishBatch deployment batch
    finish deployment batch

/-! ## Repair -/

/-- `committed_offsets.get(key, -1)`. -/
def offsetOf (offsets : List (TopicPartitionKey × Int)) (key : TopicPartitionKey) : Int :=
  ((offsets.find? fun entry => entry.1 = key).map Prod.snd).getD (-1)

/-- The loop of `reconcile_committed_offsets`. -/
def reconcileRows (offsets : List (TopicPartitionKey × Int)) :
    List BatchManifestRecord → Nat → Action Nat
  | [], repaired => return repaired
  | record :: records, repaired => do
    if record.status = .uploaded ∧ record.offsetEnd + 1 ≤ offsetOf offsets record.topicPartition
    then
      let _ ← markCommitted record.batchId
      reconcileRows offsets records (repaired + 1)
    else reconcileRows offsets records repaired

/-- `reconcile_committed_offsets`. -/
def reconcileCommittedOffsets (deployment : Deployment)
    (offsets : List (TopicPartitionKey × Int)) : Action Nat := do
  let records ← perform (.selectRecoverable deployment.settings.groupId)
  reconcileRows offsets records 0

/-- Read the broker's committed offsets and repair the manifest with them: what `_on_assign`
does with the partitions it is given. -/
def reconcileAssigned (deployment : Deployment) (keys : List TopicPartitionKey) :
    Action Unit := do
  let committed ← (perform (.committedOffsets keys)).handle fun error =>
    if error.kind = .kafkaException then
      raise .connectionError "Could not inspect committed Kafka offsets"
    else .raised error
  let offsets := List.filter (fun entry : TopicPartitionKey × Int => 0 ≤ entry.2) committed
  let _ ← reconcileCommittedOffsets deployment offsets
  return ()

end Cdc
