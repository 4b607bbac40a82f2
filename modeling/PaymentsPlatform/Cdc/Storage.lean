import PaymentsPlatform.Cdc.System
import PaymentsPlatform.Python.Iso

/-!
# Immutable object storage

The two storage backends and the CDC layout over them. An upload is checked against its
declared digest, published under a key that must be free, and read back; a key that is taken
is accepted when its content has the same digest and is a collision otherwise. The local
backend links the object first and its metadata sidecar afterwards.
-/

namespace Cdc

open Python Effects

/-- Perform one effect. -/
def perform (op : Op) : Action op.Answer := Program.request (S := signature) op

/-- Raise an exception. -/
def raise {α : Type} (kind : ErrorKind) (message : PyStr) : Action α := .raised ⟨kind, message⟩

/-- `StoredObject`. -/
structure StoredObject where
  /-- The place. -/
  location : Location
  /-- The address. -/
  uri : PyStr
  /-- The digest. -/
  checksumSha256 : PyStr
  /-- The size. -/
  sizeBytes : Nat
  /-- The media type. -/
  contentType : PyStr
  /-- The metadata. -/
  metadata : Metadata
  /-- The object was there before. -/
  alreadyExists : Bool := false
deriving DecidableEq

/-- `metadata.get(name)`. -/
def Metadata.get? (metadata : Metadata) (name : PyStr) : Option PyStr :=
  (metadata.find? fun entry => entry.1 = name).map Prod.snd

/-- `SAFE_METADATA_FIELDS`. -/
def safeMetadataFields : List PyStr :=
  ["accepted_count", "artifact_type", "checksum_sha256", "code_version", "consumer_group",
    "contains_delete", "contains_snapshot", "contains_tombstone", "dlq_topic", "entity_name",
    "error_code", "ingested_at", "ingestion_run_id", "input_checksum", "kafka_offset",
    "offset_end", "offset_start", "output_type", "partner_id", "pipeline_name", "partition",
    "processing_date", "processing_run_id", "record_count", "rejected_count", "schema_version",
    "silver_schema_version", "source_schema_version", "source_type", "source_file_name",
    "source_file_size", "source_name", "topic"]

/-- The value `sanitize_metadata` keeps. -/
def sanitizeValue (value : PyStr) : PyStr :=
  (strip isWhitespace (replaceChar 10 " " (replaceChar 13 " " value))).take 1024

/-- `sanitize_metadata` of fields whose names are already normalized. -/
def sanitizeMetadata (metadata : Metadata) : Metadata :=
  (metadata.filter fun entry => entry.1 ∈ safeMetadataFields ∧ sanitizeValue entry.2 ≠ []).map
    fun entry => (entry.1, sanitizeValue entry.2)

/-- Replacing a character a text does not have. -/
theorem replaceChar_absent {old : Nat} {new text : PyStr} (absent : old ∉ text) :
    replaceChar old new text = text := by
  unfold replaceChar
  induction text with
  | nil => rfl
  | cons code text ih =>
    rw [List.mem_cons, not_or] at absent
    rw [List.flatMap_cons, ih absent.2, if_neg fun same => absent.1 same.symm]
    rfl

/-- A short text without blanks is kept as it is. -/
theorem sanitizeValue_visible {text : PyStr} (visible : ∀ code ∈ text, isWhitespace code = false)
    (short : text.length ≤ 1024) : sanitizeValue text = text := by
  have without : ∀ code, isWhitespace code = true → code ∉ text := fun code blank member => by
    rw [visible code member] at blank
    cases blank
  unfold sanitizeValue
  rw [replaceChar_absent (without 13 (by decide)), replaceChar_absent (without 10 (by decide)),
    strip_plain visible, List.take_of_length_le short]

/-- A short text of capital letters, digits and dashes is kept as it is. -/
theorem sanitizeValue_plain {text : PyStr} (plain : ∀ code ∈ text, 45 ≤ code ∧ code ≤ 90)
    (short : text.length ≤ 1024) : sanitizeValue text = text := by
  refine sanitizeValue_visible (fun code member => ?_) short
  have range := plain code member
  simp only [isWhitespace, Bool.or_eq_false_iff, Bool.and_eq_false_iff, decide_eq_false_iff_not]
  omega

/-- What is looked up is an entry. -/
theorem Metadata.find?_of_get? {metadata : Metadata} {name value : PyStr}
    (found : metadata.get? name = some value) :
    metadata.find? (fun entry => entry.1 = name) = some (name, value) := by
  unfold Metadata.get? at found
  obtain ⟨entry, present, rfl⟩ := Option.map_eq_some_iff.mp found
  have named := List.find?_some present
  rw [decide_eq_true_eq] at named
  rw [present, ← named]

/-- A permitted field whose value is not empty is found after `sanitize_metadata`. -/
theorem get?_sanitizeMetadata {metadata : Metadata} {name value : PyStr}
    (found : metadata.find? (fun entry => entry.1 = name) = some (name, value))
    (permitted : name ∈ safeMetadataFields) (nonempty : sanitizeValue value ≠ []) :
    Metadata.get? (sanitizeMetadata metadata) name = some (sanitizeValue value) := by
  unfold Metadata.get? sanitizeMetadata
  induction metadata with
  | nil => cases found
  | cons entry metadata ih =>
    by_cases here : entry.1 = name
    · rw [List.find?_cons_of_pos (by simpa using here)] at found
      obtain rfl := Option.some.inj found
      rw [List.filter_cons_of_pos (by simpa using ⟨permitted, nonempty⟩), List.map_cons,
        List.find?_cons_of_pos (by simp)]
      rfl
    · rw [List.find?_cons_of_neg (by simpa using here)] at found
      rw [List.filter_cons]
      split
      · rw [List.map_cons, List.find?_cons_of_neg (by simpa using here)]
        exact ih found
      · exact ih found

/-- `validate_object_key`: the segments of a relative POSIX path, `.` and empty ones dropped. -/
def validateObjectKey (key : PyStr) : Except PyError PyStr :=
  let parts := (splitChar 47 key).filter fun part => part ≠ [] ∧ part ≠ py "."
  if key = [] ∨ 92 ∈ key then
    .error ⟨.storageBackendError, py "Object key must be a non-empty POSIX path"⟩
  else if key.head? = some 47 ∨ py ".." ∈ parts then
    .error ⟨.storageBackendError,
      py "Object key must not be absolute or contain traversal segments"⟩
  else .ok (if parts = [] then "." else List.intercalate [47] parts)

/-- Where a backend keeps an object, and its address. -/
def Backend.locate (backend : Backend) (bucket key : PyStr) : Except PyError (Location × PyStr) :=
  match backend with
  | .filesystem roots =>
    match roots bucket with
    | none => .error ⟨.storageBackendError, py "Unknown local bucket: " ++ bucket⟩
    | some root =>
      (validateObjectKey key).map fun valid => (⟨bucket, valid⟩, root ++ py "/" ++ valid)
  | .minio _ =>
    (validateObjectKey key).map fun valid =>
      (⟨bucket, valid⟩, py "s3://" ++ bucket ++ py "/" ++ valid)

/-- What `stat` reports of a file: a local digest is computed, a MinIO one is declared. -/
def describe (deployment : Deployment) (place : Location × PyStr) (file : StoredFile) :
    StoredObject where
  location := place.1
  uri := place.2
  checksumSha256 := match deployment.backend with
    | .filesystem _ => deployment.sha.hexdigest file.data
    | .minio _ => (file.sidecar.map Sidecar.checksumSha256).getD []
  sizeBytes := file.data.length
  contentType := (file.sidecar.map Sidecar.contentType).getD "application/octet-stream"
  metadata := (file.sidecar.map Sidecar.metadata).getD []

/-- `RETRYABLE_S3_CODES`. -/
def retryableS3Codes : List PyStr :=
  ["InternalError", "RequestTimeout", "ServiceUnavailable", "SlowDown"]

/-- `NOT_FOUND_S3_CODES`. -/
def notFoundS3Codes : List PyStr := ["NoSuchBucket", "NoSuchKey", "NoSuchObject", "NotFound"]

/-- `PRECONDITION_S3_CODES`. -/
def preconditionS3Codes : List PyStr := ["ConditionalRequestConflict", "PreconditionFailed"]

/-- What `MinioStorageBackend._retry` makes of an error: raise another one, or try again. -/
def classifyS3 (operationName : PyStr) (allowNotFound lastAttempt : Bool) (attempt : Nat)
    (error : PyError) : Option PyError :=
  match error.kind with
  | .s3Error code =>
    if allowNotFound ∧ code ∈ notFoundS3Codes then some ⟨.objectNotFound, []⟩
    else if code ∈ preconditionS3Codes then some ⟨.conditionalWriteConflict, []⟩
    else if code ∉ retryableS3Codes ∨ lastAttempt then
      some ⟨.storageBackendError,
        py "MinIO " ++ operationName ++ py " failed with code " ++ code⟩
    else none
  | kind =>
    if kind = .httpError ∨ kind.isOSError then
      if lastAttempt then
        some ⟨.storageBackendError, py "MinIO " ++ operationName ++ py " failed after " ++
          natText attempt ++ py " attempts"⟩
      else none
    else some error

/-- The attempts of `_retry` from number `attempt` on, with `left` more after it. -/
def minioAttempt {α : Type} (operationName : PyStr) (allowNotFound : Bool)
    (operation : Action α) (attempt : Nat) : Nat → Action α
  | 0 => operation.handle fun error =>
      match classifyS3 operationName allowNotFound true attempt error with
      | some final => .raised final
      | none => raise .storageBackendError (py "MinIO " ++ operationName ++ py " exhausted retries")
  | left + 1 => operation.handle fun error =>
      match classifyS3 operationName allowNotFound false attempt error with
      | some final => .raised final
      | none => minioAttempt operationName allowNotFound operation (attempt + 1) left

/-- `MinioStorageBackend._retry`. -/
def minioRetry {α : Type} (maxAttempts : Nat) (operationName : PyStr) (allowNotFound : Bool)
    (operation : Action α) : Action α :=
  minioAttempt operationName allowNotFound operation 1 (maxAttempts - 1)

/-- `stat`. -/
def stat (deployment : Deployment) (place : Location × PyStr) : Action (Option StoredObject) :=
  match deployment.backend with
  | .filesystem _ => do
    let file ← perform (.readFile place.1)
    return Option.map (describe deployment place) file
  | .minio maxAttempts =>
    (minioRetry maxAttempts "stat object" true (perform (.statObject place.1))
      |>.bind fun file => .done (some (describe deployment place file))).handle fun error =>
        if error.kind = .objectNotFound then .done none else .raised error

/-- `_resolve_existing`: the same content is accepted. -/
def resolveExisting (existing : StoredObject) (checksum : PyStr) : Except PyError StoredObject :=
  if existing.checksumSha256 = [] ∨ existing.checksumSha256 ≠ checksum then
    .error ⟨.immutableCollisionError,
      py "Immutable key already exists with different content: " ++ existing.uri⟩
  else .ok { existing with alreadyExists := true }

/-- The sidecar written with an object. -/
def sidecarFor (checksum contentType : PyStr) (metadata : Metadata) : Sidecar where
  checksumSha256 := checksum
  contentType := contentType
  metadata := sanitizeMetadata (metadata ++ [(py "checksum_sha256", checksum)])

/-- A sidecar with another digest is a collision. -/
def checkSidecar (place : Location × PyStr) (checksum : PyStr) (sidecar : Sidecar) :
    Except PyError Unit :=
  if sidecar.checksumSha256 = checksum then .ok ()
  else .error ⟨.immutableCollisionError,
    py "Metadata collision for immutable object: " ++ place.2⟩

/-- `LocalStorageBackend._write_metadata`. -/
def writeMetadata (place : Location × PyStr) (sidecar : Sidecar) : Action Unit := do
  let existing ← perform (.readFile place.1)
  match Option.bind existing StoredFile.sidecar with
  | some other => Program.ofExcept (checkSidecar place sidecar.checksumSha256 other)
  | none =>
    (perform (.linkSidecar place.1 sidecar)).handle fun error =>
      if error.kind = .fileExistsError then do
        let existing ← perform (.readFile place.1)
        match Option.bind existing StoredFile.sidecar with
        | some other => Program.ofExcept (checkSidecar place sidecar.checksumSha256 other)
        | none => raise .osError "No such file or directory"
      else .raised error

/-- The object that must be there now. -/
def statPresent (deployment : Deployment) (place : Location × PyStr) (missing : PyStr) :
    Action StoredObject := do
  match ← stat deployment place with
  | none => raise .storageBackendError missing
  | some stored => return stored

/-- Whether publishing found the key taken: `kind` is how the backend reports that. -/
def taken (kind : ErrorKind) (publish : Action Unit) : Action Bool :=
  (publish.bind fun _ => .done false).handle fun error =>
    if error.kind = kind then .done true else .raised error

/-- The common part of `LocalStorageBackend.put_immutable` and `put_bytes_immutable`. -/
def putLocal (deployment : Deployment) (place : Location × PyStr) (data : Bytes)
    (sidecar : Sidecar) : Action StoredObject := do
  match ← stat deployment place with
  | some existing =>
    let _ ← Program.ofExcept (resolveExisting existing sidecar.checksumSha256)
    writeMetadata place sidecar
    let stored ← statPresent deployment place
      "Immutable local object disappeared during metadata repair"
    return { stored with alreadyExists := true }
  | none =>
    if ← taken .fileExistsError (perform (.linkObject place.1 data)) then
      let existing ← statPresent deployment place "Immutable destination disappeared during write"
      Program.ofExcept (resolveExisting existing sidecar.checksumSha256)
    else
      writeMetadata place sidecar
      statPresent deployment place "Immutable local object was not visible after write"

/-- `MinioStorageBackend._verify_upload`. -/
def verifyUpload (deployment : Deployment) (place : Location × PyStr) (checksum : PyStr)
    (expectedSize : Nat) : Action StoredObject := do
  let stored ← statPresent deployment place "Uploaded object is not visible"
  if stored.checksumSha256 ≠ checksum ∨ stored.sizeBytes ≠ expectedSize then
    raise .storageBackendError "Uploaded object failed checksum or size verification"
  else return stored

/-- The common part of `MinioStorageBackend.put_immutable` and `put_bytes_immutable`. -/
def putMinio (deployment : Deployment) (maxAttempts : Nat) (place : Location × PyStr)
    (data : Bytes) (sidecar : Sidecar) : Action StoredObject := do
  match ← stat deployment place with
  | some existing => Program.ofExcept (resolveExisting existing sidecar.checksumSha256)
  | none =>
    if ← taken .conditionalWriteConflict (minioRetry maxAttempts "upload object" false
        (perform (.putObjectIfAbsent place.1 data sidecar))) then
      let existing ← statPresent deployment place
        "Conditional object collision could not be inspected"
      Program.ofExcept (resolveExisting existing sidecar.checksumSha256)
    else verifyUpload deployment place sidecar.checksumSha256 data.length

/-- Publish content whose digest has been computed. -/
def putContent (deployment : Deployment) (bucket key : PyStr) (data : Bytes)
    (checksum contentType : PyStr) (metadata : Metadata) : Action StoredObject := do
  let place ← Program.ofExcept (deployment.backend.locate bucket key)
  match deployment.backend with
  | .filesystem _ => putLocal deployment place data (sidecarFor checksum contentType metadata)
  | .minio maxAttempts =>
    putMinio deployment maxAttempts place data (sidecarFor checksum contentType metadata)

/-- `put_immutable`: the source must have its declared digest. -/
def putImmutable (deployment : Deployment) (bucket key : PyStr) (source : Bytes)
    (checksum contentType : PyStr) (metadata : Metadata) : Action StoredObject :=
  if deployment.sha.hexdigest source ≠ checksum then
    raise .storageBackendError "Source checksum does not match the declared SHA-256"
  else putContent deployment bucket key source checksum contentType metadata

/-- `put_bytes_immutable`. -/
def putBytesImmutable (deployment : Deployment) (bucket key : PyStr) (data : Bytes)
    (contentType : PyStr) (metadata : Metadata) : Action StoredObject :=
  putContent deployment bucket key data (deployment.sha.hexdigest data) contentType metadata

/-! ## The CDC layout -/

/-- The pattern `[A-Za-z0-9][A-Za-z0-9._-]{0,249}`. -/
def isPartitionValue : PyStr → Bool := isName 249

/-- `_safe`. -/
def safe (value name : PyStr) : Except PyError PyStr :=
  if isPartitionValue value then .ok value
  else .error ⟨.valueError, name ++ py " contains unsafe object-key characters"⟩

/-- `build_cdc_object_key`. -/
def buildCdcObjectKey (batch : CdcBatch) : Except PyError PyStr := do
  let entity ← safe batch.entityName "entity_name"
  let topic ← safe batch.topic "topic"
  .ok (py "cdc/entity=" ++ entity ++ py "/event_date=" ++ batch.eventDate ++ py "/topic=" ++
    topic ++ py "/partition=" ++ intText batch.partition ++ py "/offset_start=" ++
    intText batch.offsetStart ++ py "/offset_end=" ++ intText batch.offsetEnd ++
    py "/batch_id=" ++ batch.batchId ++ py ".parquet")

/-- `build_dlq_object_key`. -/
def buildDlqObjectKey (dlqName consumerGroup : PyStr) (event : PoisonEvent) :
    Except PyError PyStr := do
  let name ← safe dlqName "dlq_name"
  let group ← safe consumerGroup "consumer_group"
  let topic ← safe event.originalTopic "topic"
  .ok (py "cdc-dlq/dlq=" ++ name ++ py "/consumer_group=" ++ group ++ py "/topic=" ++ topic ++
    py "/partition=" ++ intText event.originalPartition ++ py "/offset=" ++
    intText event.originalOffset ++ py "/event_id=" ++ event.eventId ++ py ".json")

/-- `str(flag)`. -/
def boolText (flag : Bool) : PyStr := if flag then "True" else "False"

/-- The metadata of a Bronze object. -/
def batchMetadata (batch : CdcBatch) (consumerGroup : PyStr) (ingestedAt : Instant) : Metadata :=
  [("source_name", "postgresql-debezium-kafka"), ("artifact_type", "cdc_bronze_parquet"),
    ("entity_name", batch.entityName), ("topic", batch.topic),
    ("partition", intText batch.partition), ("offset_start", intText batch.offsetStart),
    ("offset_end", intText batch.offsetEnd), ("record_count", natText batch.recordCount),
    ("schema_version", batch.schemaVersion), ("consumer_group", consumerGroup),
    ("ingested_at", ingestedAt.utcIso),
    ("contains_snapshot", boolText (batch.events.any (·.isSnapshot))),
    ("contains_delete", boolText (batch.events.any fun event =>
      event.isDeleted && !event.isTombstone)),
    ("contains_tombstone", boolText (batch.events.any (·.isTombstone)))]

/-- `SerializedParquet`: the temporary file, its digest and its size. -/
structure SerializedParquet where
  /-- The content of the file. -/
  data : Bytes
  /-- Its digest. -/
  checksumSha256 : PyStr
  /-- Its size. -/
  sizeBytes : Nat
deriving DecidableEq

/-- `serialize_batch`. -/
def serializeBatch (deployment : Deployment) (batch : CdcBatch) (ingestedAt : Instant) :
    Action SerializedParquet := do
  let data ← perform (.serialize batch ingestedAt)
  return ⟨data, deployment.sha.hexdigest data, List.length data⟩

/-- `cleanup_serialized`. -/
def cleanupSerialized : Action Unit := perform .unlinkTemporary

/-- The place of the object of a batch. -/
def batchPlace (deployment : Deployment) (batch : CdcBatch) :
    Except PyError (Location × PyStr) := do
  let key ← buildCdcObjectKey batch
  deployment.backend.locate deployment.settings.bronzeBucket key

/-- `CdcObjectStorage._verify`. -/
def verifyStored (stored : StoredObject) (checksum : PyStr) (expectedSize : Option Nat) :
    Except PyError Unit :=
  if stored.checksumSha256 ≠ checksum then
    .error ⟨.runtimeError, py "CDC Bronze object failed checksum verification"⟩
  else if expectedSize.any fun size => stored.sizeBytes ≠ size then
    .error ⟨.runtimeError, py "CDC Bronze object failed size verification"⟩
  else .ok ()

/-- `CdcObjectStorage.put_batch`. -/
def putBatch (deployment : Deployment) (batch : CdcBatch) (serialized : SerializedParquet)
    (consumerGroup : PyStr) (ingestedAt : Instant) : Action StoredObject := do
  let key ← Program.ofExcept (buildCdcObjectKey batch)
  let stored ← putImmutable deployment deployment.settings.bronzeBucket key serialized.data
    serialized.checksumSha256 "application/vnd.apache.parquet"
    (batchMetadata batch consumerGroup ingestedAt)
  Program.ofExcept (verifyStored stored serialized.checksumSha256 (some serialized.sizeBytes))
  return stored

/-- `CdcObjectStorage.stat_batch`. -/
def statBatch (deployment : Deployment) (batch : CdcBatch) : Action (Option StoredObject) := do
  let place ← Program.ofExcept (batchPlace deployment batch)
  stat deployment place

/-- `CdcObjectStorage.verify_batch`. -/
def verifyBatch (deployment : Deployment) (batch : CdcBatch) (checksum : PyStr)
    (expectedUri : PyStr) : Action StoredObject := do
  match ← statBatch deployment batch with
  | none => raise .runtimeError "Manifest references a missing CDC Bronze object"
  | some stored =>
    if stored.uri ≠ expectedUri then
      raise .runtimeError "CDC Bronze object URI differs from manifest evidence"
    else
      Program.ofExcept (verifyStored stored checksum none)
      return stored

/-! ## Retry policy and quarantine -/

/-- `is_retryable`. -/
def isRetryable (error : PyError) : Bool :=
  if error.kind.isStorageBackendError then false
  else error.kind = .operationalError || error.kind.isOSError

/-- The error of `retry_call` after the last attempt. -/
def retryExhausted (attempts : Nat) : PyError :=
  ⟨.retryExhaustedError,
    py "Operation failed after " ++ natText attempts ++ py " bounded attempts"⟩

/-- `retry_call` under the policy of the settings. -/
def retryCall {α : Type} (deployment : Deployment) (operation : Action α) : Action α :=
  Program.retryCall isRetryable retryExhausted deployment.settings.maxRetries operation

/-- The bytes of the poison evidence. -/
def poisonData (deployment : Deployment) (event : PoisonEvent) : Bytes :=
  utf8 (Json.dumps (event.toDict deployment.settings.groupId) ++ py "\n")

/-- The place of the evidence of a poison record. -/
def poisonPlace (deployment : Deployment) (event : PoisonEvent) :
    Except PyError (Location × PyStr) := do
  let key ← buildDlqObjectKey deployment.settings.dlqTopic deployment.settings.groupId event
  deployment.backend.locate deployment.settings.quarantineBucket key

/-- `MinioQuarantineDlq.write`. -/
def writePoison (deployment : Deployment) (event : PoisonEvent) : Action StoredObject := do
  let key ← Program.ofExcept
    (buildDlqObjectKey deployment.settings.dlqTopic deployment.settings.groupId event)
  retryCall deployment (putBytesImmutable deployment deployment.settings.quarantineBucket key
    (poisonData deployment event) "application/json"
    [("source_name", "kafka-cdc-consumer"), ("artifact_type", "cdc_poison_record"),
      ("consumer_group", deployment.settings.groupId),
      ("dlq_topic", deployment.settings.dlqTopic), ("topic", event.originalTopic),
      ("partition", intText event.originalPartition),
      ("kafka_offset", intText event.originalOffset), ("error_code", event.errorCode)])

end Cdc
