import PaymentsPlatform.Silver.System

/-!
# Processing of CDC objects

`SilverProcessor.process_cdc`: one run processes one Bronze object. It registers itself, reads and
normalizes the object, merges the events into the newest published state of the entity, writes the
outputs one after another and publishes all of them by its completion. A Bronze object that cannot
be read is quarantined, any other exception fails the run.
-/

namespace Silver

open Python Effects

/-! ## Reading Bronze -/

/-- `CDC_ARROW_SCHEMA`: names and types. -/
def cdcArrowSchema : List (PyStr × ColumnType) :=
  [("event_id", .text), ("entity_name", .text), ("operation", .text), ("is_snapshot", .bool),
    ("is_deleted", .bool), ("is_tombstone", .bool), ("event_key_json", .largeText),
    ("before_json", .largeText), ("after_json", .largeText),
    ("source_metadata_json", .largeText), ("source_lsn", .int64), ("source_tx_id", .int64),
    ("source_ts_ms", .int64), ("connector_ts_ms", .int64), ("kafka_topic", .text),
    ("kafka_partition", .int32), ("kafka_offset", .int64), ("kafka_message_ts_ms", .int64),
    ("ingested_at", .timestamp), ("schema_version", .text), ("raw_event_json", .largeText)]

/-- Names in alphabetical order. -/
def sortNames (names : List PyStr) : List PyStr := names.insertionSort (· ≤ ·)

/-- The columns the contract has and a table lacks. -/
def missingColumns (table : ArrowTable) : List PyStr :=
  sortNames ((cdcArrowSchema.map Prod.fst).filter fun name => name ∉ table.fields.map Prod.fst)

/-- The columns a table has with another type. -/
def incompatibleColumns (table : ArrowTable) : List PyStr :=
  sortNames ((cdcArrowSchema.filter fun (name, type) =>
    ((table.fields.reverse.find? fun field => field.1 = name).map Prod.snd).any
      (· ≠ some type)).map Prod.fst)

/-- A `BronzeReadError`. -/
def bronzeReadError (code : QualityCode) (message : PyStr) : PyError :=
  ⟨.bronzeReadError code.value, message⟩

/-- The checks of `read_cdc` on a table. -/
def checkTable (supportedSchemaVersion : PyStr) (table : ArrowTable) :
    Except PyError (List BronzeRow) :=
  let missing := missingColumns table
  let incompatible := incompatibleColumns table
  if missing ≠ [] ∨ incompatible ≠ [] then
    .error (bronzeReadError .invalidBronzeSchema (py "CDC Bronze schema is incompatible (" ++
      List.intercalate (py ", ") ((missing.map fun name => py "missing:" ++ name) ++
        incompatible.map fun name => py "type:" ++ name) ++ py ")"))
  else if table.rows = [] ∨ ∃ row ∈ table.rows, row.schemaVersion ≠ some supportedSchemaVersion then
    .error (bronzeReadError .schemaVersionUnsupported "CDC Bronze schema version is unsupported")
  else .ok table.rows

/-- The check of `read_bytes`: the content has the listed digest, if one is listed. -/
def checkContent (deployment : Deployment) (object : InputObject) (payload : Bytes) :
    Except PyError Bytes :=
  if object.checksumSha256 ≠ [] ∧ deployment.sha.hexdigest payload ≠ object.checksumSha256 then
    .error (bronzeReadError .invalidBronzeSchema
      "Input object checksum differs from storage metadata")
  else .ok payload

/-- `read_cdc` of the bytes of an object. -/
def decodeBronze (deployment : Deployment) (object : InputObject) (payload : Bytes) :
    Except PyError (List BronzeRow) := do
  let payload ← checkContent deployment object payload
  match deployment.readParquet payload with
  | .error error =>
    if error.kind = .arrowError ∨ error.kind.isOSError then
      .error (bronzeReadError .invalidBronzeSchema "CDC Bronze object is not readable Parquet")
    else .error error
  | .ok table => checkTable deployment.settings.supportedBronzeSchema table

/-- `read_cdc`. -/
def readCdc (deployment : Deployment) (object : InputObject) : Action (List BronzeRow) := do
  let payload ← perform (.readBronze object)
  Program.ofExcept (decodeBronze deployment object payload)

/-! ## References -/

/-- `REFERENCE_RULES`. -/
def Entity.referenceRules : Entity → List (PyStr × Entity)
  | .accounts => [("customer_id", .customers)]
  | .paymentTransactions => [("customer_id", .customers), ("account_id", .accounts),
      ("merchant_id", .merchants)]
  | .refunds => [("transaction_id", .paymentTransactions)]
  | _ => []

/-- The known keys, each with the name of its entity. -/
abbrev KnownKeys := List (PyStr × PyStr)

/-- `str(value)` of a column. -/
def Cell.pyText : Cell → PyStr
  | .json value => Json.pyText value
  | .money value => value.text
  | .time value => value.isoformat

/-- Whether `value in {None, ""}`. -/
def Cell.isMissing : Cell → Except PyError Bool
  | .json value => Json.isMissing value
  | _ => .ok false

/-- Python's `bool(value)` of a column. -/
def Cell.truthy : Cell → Bool
  | .json value => Json.truthy value
  | .money value => value.coefficient ≠ 0
  | .time _ => true

/-- `classify_unresolved_references` for the given rules. -/
def classifyReferences (event : NormalizedCdcEvent) (row : StateRow) (known : KnownKeys)
    (observedAt : Instant) : List (PyStr × Entity) → Except PyError (List UnresolvedReference)
  | [] => .ok []
  | (field, target) :: rules => do
    let value := row.columns.get field
    if ← value.isMissing then classifyReferences event row known observedAt rules
    else
      let later ← classifyReferences event row known observedAt rules
      if (target.name, value.pyText) ∈ known then return later
      else return {
        entity := event.entity
        businessKey := event.businessKey
        referenceEntity := target
        referenceKey := value.pyText
        referenceField := field
        sourceEventId := event.eventId
        processingRunId := event.processingRunId
        observedAt } :: later

/-- `classify_unresolved_references`. -/
def classifyUnresolvedReferences (event : NormalizedCdcEvent) (row : StateRow)
    (known : KnownKeys) (observedAt : Instant) : Except PyError (List UnresolvedReference) :=
  classifyReferences event row known observedAt event.entity.referenceRules

/-! ## Merging events into the state -/

/-- The dictionary `state`: a row for each business key. -/
abbrev StateTable := Relational.Table (PyStr × StateRow) PyStr Prod.fst

/-- `{str(row[BUSINESS_KEYS[entity]]): row for row in prior_state}`. -/
def indexRows (entity : Entity) (rows : List StateRow) : StateTable :=
  rows.foldl (fun table row => table.put ((row.columns.get entity.businessKey).pyText, row)) .empty

/-- How an event stands to the row its key has. -/
inductive Standing
  | newer
  | repeated
  | outOfOrder
  | moved
deriving DecidableEq

/-- The comparison of an event with the row of its key. -/
def standing (prior : Option StateRow) (event : NormalizedCdcEvent) : Standing :=
  match prior with
  | none => .newer
  | some row =>
    if row.lineage.kafkaTopic = event.kafkaTopic then
      if row.lineage.kafkaPartition = event.kafkaPartition then
        if event.kafkaOffset < row.lineage.kafkaOffset then .outOfOrder
        else if event.kafkaOffset = row.lineage.kafkaOffset then .repeated
        else .newer
      else .moved
    else .newer

/-- The row an event leads to: nothing for a tombstone on an unknown key. -/
def applyEvent (prior : Option StateRow) (event : NormalizedCdcEvent) :
    Except Problem (Option StateRow) :=
  if event.isTombstone then
    .ok (prior.map fun row => { row with lineage := event.lineage true })
  else (projectEntityState event).map some

/-- The text of a coordinate. -/
def coordinateText (event : NormalizedCdcEvent) : PyStr :=
  py "coordinate:" ++ event.kafkaTopic ++ py ":" ++ intText event.kafkaPartition ++ py ":" ++
    intText event.kafkaOffset

/-- `_event_rejection`. -/
def eventRejection (inputUri : PyStr) (event : NormalizedCdcEvent) (code : QualityCode)
    (message : PyStr) (now : Instant) : QualityRejection :=
  rejection inputUri (some event.eventId) event.entity.name (some event.businessKey) code message
    (coordinateText event) event.processingRunId now

/-- What the loop over the events builds. -/
structure Build where
  /-- `state`. -/
  state : StateTable
  /-- `event_rows`. -/
  eventRows : List StateRow := []
  /-- `known_keys`. -/
  known : KnownKeys
  /-- `rejections`. -/
  rejections : List QualityRejection
  /-- `unresolved`. -/
  unresolved : List UnresolvedReference := []

/-- A rejection more. -/
def Build.reject (build : Build) (inputUri : PyStr) (event : NormalizedCdcEvent)
    (code : QualityCode) (message : PyStr) (now : Instant) : Build :=
  { build with
    rejections := build.rejections ++ [eventRejection inputUri event code message now] }

/-- A row is taken over: appended for `transaction_events`, the row of its key otherwise. -/
def Build.accept (build : Build) (entityName : PyStr) (event : NormalizedCdcEvent)
    (row : StateRow) (now : Instant) : Except PyError Build :=
  if entityName = Entity.transactionEvents.name then
    .ok { build with eventRows := build.eventRows ++ [row] }
  else do
    let known := (entityName, event.businessKey) :: build.known
    let unresolved ← classifyUnresolvedReferences event row known now
    return { build with
      state := build.state.put (event.businessKey, row)
      known
      unresolved := build.unresolved ++ unresolved }

/-- The body of the loop. -/
def mergeEvent (entityName inputUri : PyStr) (now : Instant) (build : Build)
    (event : NormalizedCdcEvent) : Except PyError Build :=
  let prior := (build.state.get event.businessKey).map Prod.snd
  match standing prior event with
  | .repeated => .ok build
  | .outOfOrder => .ok (build.reject inputUri event .outOfOrderEvent
      "CDC event precedes the published entity state" now)
  | .moved => .ok (build.reject inputUri event .outOfOrderEvent
      "Business key moved across Kafka partitions" now)
  | .newer =>
    match applyEvent prior event with
    | .error (.quality code message) => .ok (build.reject inputUri event code message now)
    | .error (.raised error) => .error error
    | .ok none => .ok build
    | .ok (some row) => build.accept entityName event row now

/-- The loop over the events in order. -/
def mergeEvents (entityName inputUri : PyStr) (now : Instant) :
    Build → List NormalizedCdcEvent → Except PyError Build
  | build, [] => .ok build
  | build, event :: events => do
    let build ← mergeEvent entityName inputUri now build event
    mergeEvents entityName inputUri now build events

/-- Earlier in the order of keys. -/
def KeyOrder (left right : PyStr × StateRow) : Prop := left.1 ≤ right.1

instance : DecidableRel KeyOrder := fun left right =>
  inferInstanceAs (Decidable (left.1 ≤ right.1))

instance : Std.Total KeyOrder := ⟨fun left right => le_total left.1 right.1⟩

instance : IsTrans (PyStr × StateRow) KeyOrder := ⟨fun _ _ _ one two => le_trans one two⟩

/-- `latest_rows`: the rows in the order of their keys. -/
def latestRows (state : StateTable) : List StateRow :=
  (state.rows.insertionSort KeyOrder).map Prod.snd

/-- `current_rows`. -/
def currentRows (rows : List StateRow) : List StateRow :=
  rows.filter fun row => !row.lineage.isDeleted

/-! ## Writing -/

/-- `deterministic_part_id`. -/
def deterministicPartId (sha : Sha256) (runId : PyStr) (outputType : OutputType)
    (entityName : PyStr) : PyStr :=
  (sha.hexdigest (utf8 (runId ++ py ":" ++ outputType.value ++ py ":" ++ entityName ++
    py ":0"))).take 16

/-- The optional arguments of `build_silver_object_key`. -/
structure Placement where
  /-- `event_date`. -/
  eventDate : Option Date := none
  /-- `partner_id`. -/
  partnerId : Option PyStr := none
  /-- `settlement_date`. -/
  settlementDate : Option Date := none

/-- `partner_id or "UNKNOWN"`. -/
def Placement.partner (placement : Placement) : PyStr :=
  match placement.partnerId with
  | none | some [] => "UNKNOWN"
  | some partnerId => partnerId

/-- `build_silver_object_key`. -/
def buildSilverObjectKey (sha : Sha256) (outputType : OutputType) (entityName runId : PyStr)
    (processingDate : Date) (placement : Placement) : PyStr :=
  let run := py "/run_id=" ++ runId
  let part := py "/part-" ++ deterministicPartId sha runId outputType entityName ++ py ".parquet"
  let processed := py "/processing_date=" ++ processingDate.isoformat
  let eventDate := placement.eventDate.getD processingDate
  match outputType with
  | .history => py "silver/cdc/history/entity=" ++ entityName ++ py "/event_date=" ++
      eventDate.isoformat ++ processed ++ run ++ part
  | .latestAll | .current => py "silver/cdc/" ++ outputType.value ++ py "/entity=" ++
      entityName ++ py "/snapshot_date=" ++ processingDate.isoformat ++ run ++ part
  | .events => py "silver/cdc/events/entity=" ++ entityName ++ py "/event_date=" ++
      eventDate.isoformat ++ processed ++ run ++ part
  | .settlements => py "silver/settlements/partner_id=" ++ placement.partner ++
      py "/settlement_date=" ++ (placement.settlementDate.getD processingDate).isoformat ++ run ++
      part
  | .rejections => py "silver/rejections/source=bronze/entity=" ++ entityName ++ processed ++
      run ++ py "/rejections.parquet"
  | .unresolvedReferences => py "silver/unresolved_references/entity=" ++ entityName ++
      processed ++ run ++ part

/-- What a run knows. -/
structure Run where
  /-- The object. -/
  object : InputObject
  /-- The entity its key names. -/
  entityName : PyStr
  /-- The run. -/
  runId : PyStr
  /-- When it started. -/
  now : Instant
  /-- The prior run of the identity is ignored. -/
  forceReprocess : Bool

/-- The context of normalization. -/
def Run.context (deployment : Deployment) (run : Run) : RunContext where
  sha := deployment.sha
  recursionLimit := deployment.recursionLimit
  inputUri := run.object.uri
  runId := run.runId
  processedAt := run.now
  silverSchemaVersion := deployment.settings.silverSchemaVersion

/-- `_write_rows`. -/
def writeRows (deployment : Deployment) (run : Run) (outputType : OutputType)
    (placement : Placement) (table : Table) : Action SilverOutput := do
  let data ← perform (.serialize table)
  let place ← Program.ofExcept (deployment.backend.locate deployment.settings.silverBucket
    (buildSilverObjectKey deployment.sha outputType run.entityName run.runId run.now.date
      placement))
  perform (.put place.2 data)
  return ⟨outputType, place.2, deployment.sha.hexdigest data, table.rowCount⟩

/-- An output that is written when there is something to write. -/
def writeSome (deployment : Deployment) (run : Run) (outputType : OutputType)
    (placement : Placement) (table : Table) : Action (List SilverOutput) :=
  if table.rowCount = 0 then .done []
  else (writeRows deployment run outputType placement table).bind fun output => .done [output]

/-- `entity_schema`. -/
def entitySchema (entityName : PyStr) : Except PyError Entity :=
  match Entity.ofName entityName with
  | some entity => .ok entity
  | none => .error ⟨.valueError, py "Unsupported Silver entity: " ++ entityName⟩

/-- `read_table`: a file of another schema is refused. -/
def readTable (deployment : Deployment) (uri : PyStr) (entity : Entity) :
    Action (List StateRow) := do
  let data ← perform (.readSilver uri)
  match ← Program.ofExcept (deployment.format.read data) with
  | .state other rows =>
    if other = entity then return rows
    else .raised ⟨.valueError, py "Silver Parquet schema does not match its explicit contract"⟩
  | _ => .raised ⟨.valueError, py "Silver Parquet schema does not match its explicit contract"⟩

/-- `_load_latest_state` and the dictionary made of it. -/
def loadLatestState (deployment : Deployment) (run : Run) : Action StateTable := do
  let excluded := if run.forceReprocess then some run.object.checksumSha256 else none
  match ← perform (.latestOutput run.entityName .latestAll excluded) with
  | none => return .empty
  | some output =>
    let entity ← Program.ofExcept (entitySchema run.entityName)
    let rows ← readTable deployment output.objectUri entity
    return indexRows entity rows

/-- `_known_reference_keys` for the given entities. -/
def knownReferenceKeys (deployment : Deployment) : List Entity → Action KnownKeys
  | [] => .done []
  | entity :: entities => do
    match ← perform (.latestOutput entity.name .current none) with
    | none => knownReferenceKeys deployment entities
    | some output =>
      let rows ← readTable deployment output.objectUri entity
      let keys := (rows.map (·.columns.get entity.businessKey)).filter Cell.truthy
      let later ← knownReferenceKeys deployment entities
      return keys.map (fun key => (entity.name, key.pyText)) ++ later

/-- The entities whose keys can be referred to. -/
def referenceEntities : List Entity := Entity.all.filter fun entity => entity ≠ .transactionEvents

/-- The outputs of the entity's own rows. -/
def writeEntityRows (deployment : Deployment) (run : Run) (eventDate : Date) (build : Build) :
    Action (List SilverOutput) :=
  if run.entityName = Entity.transactionEvents.name then
    writeSome deployment run .events { eventDate := some eventDate }
      (.state .transactionEvents build.eventRows)
  else do
    let entity ← Program.ofExcept (entitySchema run.entityName)
    let rows := latestRows build.state
    let latest ← writeRows deployment run .latestAll {} (.state entity rows)
    let current ← writeRows deployment run .current {} (.state entity (currentRows rows))
    return [latest, current]

/-- `_transform_and_write_cdc`: the outputs and the number of rejections. -/
def transformAndWriteCdc (deployment : Deployment) (run : Run)
    (events : List NormalizedCdcEvent) (rejections : List QualityRejection) :
    Action (List SilverOutput × Nat) := do
  let state ← loadLatestState deployment run
  let known ← knownReferenceKeys deployment referenceEntities
  let build ← Program.ofExcept (mergeEvents run.entityName run.object.uri run.now
    { state, known, rejections } (sortEvents events))
  let _ ← perform (.transition run.runId .writing [])
  let eventDate := (events.head?.map (·.eventTime.date)).getD run.now.date
  let history ← writeSome deployment run .history { eventDate := some eventDate } (.history events)
  let rows ← writeEntityRows deployment run eventDate build
  let rejected ← writeSome deployment run .rejections {} (.rejections build.rejections)
  let unresolved ← writeSome deployment run .unresolvedReferences {}
    (.unresolved build.unresolved)
  return (history ++ rows ++ rejected ++ unresolved, build.rejections.length)

/-! ## The run -/

/-- `_entity_from_key`. -/
def entityFromKey (objectKey : PyStr) : PyStr :=
  match (splitChar 47 objectKey).find? fun part => py "entity=" <+: part with
  | some part => part.drop 7
  | none => "unknown"

/-- `ProcessingResult`. -/
structure ProcessingResult where
  /-- The run. -/
  runId : Option PyStr
  /-- The object. -/
  inputObjectUri : PyStr
  /-- The status of the run. -/
  status : ProcessingStatus
  /-- The entity. -/
  entityName : PyStr
  /-- The rows of the object. -/
  inputRecordCount : Nat
  /-- The rows of the outputs. -/
  outputRecordCount : Nat
  /-- The rejected rows. -/
  rejectedRecordCount : Nat
  /-- The outputs. -/
  outputObjectUris : List PyStr := []
  /-- The code of the problem. -/
  errorCode : Option PyStr := none
  /-- Its text. -/
  errorMessage : Option PyStr := none
  /-- A prior run of the identity is reported. -/
  skipped : Bool := false
  /-- Nothing was to be written. -/
  dryRun : Bool := false
deriving DecidableEq

/-- `_result`. -/
def resultOf (run : ProcessingRun) : ProcessingResult where
  runId := some run.runId
  inputObjectUri := run.inputObjectUri
  status := run.status
  entityName := run.entityName
  inputRecordCount := run.inputRecordCount
  outputRecordCount := run.outputRecordCount
  rejectedRecordCount := run.rejectedRecordCount
  outputObjectUris := run.outputs.map (·.objectUri)
  errorCode := run.errorCode
  errorMessage := run.errorMessage

/-- `_skipped_result`. -/
def skippedResult (run : ProcessingRun) : ProcessingResult :=
  { resultOf run with errorCode := none, errorMessage := none, skipped := true }

/-- `CDC_PIPELINE`. -/
def cdcPipeline : PyStr := "cdc-bronze-to-silver"

/-- `SETTLEMENT_PIPELINE`. -/
def settlementPipeline : PyStr := "settlement-bronze-to-silver"

/-- The arguments of `process_cdc`. -/
structure ProcessRequest where
  /-- The object. -/
  object : InputObject
  /-- Process again what was processed before. -/
  forceReprocess : Bool := false
  /-- Write nothing. -/
  dryRun : Bool := false

/-- The identity of the processing of an object. -/
def identityOf (deployment : Deployment) (object : InputObject) : RunIdentity where
  pipelineName := cdcPipeline
  inputChecksum := object.checksumSha256
  codeVersion := deployment.settings.codeVersion
  schemaVersion := deployment.settings.silverSchemaVersion

/-- The row `register` inserts. -/
def registeredRun (deployment : Deployment) (run : Run) : ProcessingRun where
  runId := run.runId
  pipelineName := cdcPipeline
  entityName := run.entityName
  inputObjectUri := run.object.uri
  inputChecksum := run.object.checksumSha256
  inputRecordCount := 0
  status := .discovered
  startedAt := run.now.utcIso
  completedAt := none
  outputs := []
  outputRecordCount := 0
  rejectedRecordCount := 0
  errorCode := none
  errorMessage := none
  codeVersion := deployment.settings.codeVersion
  schemaVersion := deployment.settings.silverSchemaVersion

/-- The rejection of a duplicate. -/
def duplicateRejection (run : Run) (duplicate : NormalizedCdcEvent × QualityCode) :
    QualityRejection :=
  rejection run.object.uri (some duplicate.1.eventId) duplicate.1.entity.name
    (some duplicate.1.businessKey) duplicate.2
    "Duplicate CDC identity was excluded from Silver outputs" (coordinateText duplicate.1)
    run.runId run.now

/-- The rows of the outputs that are not rejections. -/
def outputCount (outputs : List SilverOutput) : Nat :=
  ((outputs.filter fun output => output.outputType ≠ .rejections).map (·.recordCount)).sum

/-- The body of the `try` of `process_cdc`. -/
def processBody (deployment : Deployment) (run : Run) : Action ProcessingResult := do
  let _ ← perform (.transition run.runId .reading [])
  let rows ← readCdc deployment run.object
  let _ ← perform (.transition run.runId .validating [.inputRecordCount (List.length rows)])
  let (events, rejections) ← Program.ofExcept (normalizeCdcTable (run.context deployment) rows)
  let accepted := (deduplicateEvents events).1
  let duplicates := (deduplicateEvents events).2
  let _ ← perform (.transition run.runId .transforming [])
  let (outputs, rejectedCount) ← transformAndWriteCdc deployment run accepted
    (rejections ++ duplicates.map (duplicateRejection run))
  let completed ← perform (.transition run.runId .completed [.completedAt run.now.utcIso,
    .outputs outputs, .outputRecordCount (outputCount outputs),
    .rejectedRecordCount rejectedCount, .errorCode none, .errorMessage none])
  return resultOf completed

/-- `mark_failed`. -/
def markFailed (runId : PyStr) (error : PyError) : Action ProcessingRun := do
  match ← perform (.getRun runId) with
  | none => .raised ⟨.processingManifestError, py "Unknown processing run: " ++ runId⟩
  | some current =>
    if current.status = .completed ∨ current.status = .quarantined then return current
    else
      let now ← perform .wallClock
      perform (.transition runId .failed [.completedAt (Instant.utcIso now),
        .errorCode (some error.kind.typeName), .errorMessage (some (error.message.take 1000))])

/-- The handlers of `process_cdc`. -/
def processHandler (run : Run) (error : PyError) : Action ProcessingResult :=
  match error.kind with
  | .bronzeReadError code => do
    match ← perform (.getRun run.runId) with
    | none => .raised error
    | some current =>
      if current.status = .reading ∨ current.status = .validating then
        let quarantined ← perform (.transition run.runId .quarantined
          [.completedAt run.now.utcIso, .rejectedRecordCount 1, .errorCode (some code),
            .errorMessage (some (error.message.take 1000))])
        return resultOf quarantined
      else .raised error
  | _ => (markFailed run.runId error).bind fun failed => .done (resultOf failed)

/-- The dry run of `process_cdc`. -/
def dryRun (deployment : Deployment) (run : Run) : Action ProcessingResult := do
  let rows ← readCdc deployment run.object
  let (events, rejected) ← Program.ofExcept (normalizeCdcTable (run.context deployment) rows)
  let accepted := (deduplicateEvents events).1
  let duplicates := (deduplicateEvents events).2
  return {
    runId := none
    inputObjectUri := run.object.uri
    status := .completed
    entityName := run.entityName
    inputRecordCount := rows.length
    outputRecordCount := accepted.length
    rejectedRecordCount := rejected.length + duplicates.length
    dryRun := true }

/-- The run of a call. -/
def runOf (request : ProcessRequest) (runId : PyStr) (now : Instant) : Run where
  object := request.object
  entityName := entityFromKey request.object.objectKey
  runId := runId
  now := now
  forceReprocess := request.forceReprocess

/-- `process_cdc` of an object that is to be processed. -/
def startRun (deployment : Deployment) (request : ProcessRequest) : Action ProcessingResult := do
  let now ← perform .now
  let runId ← perform .newRunId
  if request.dryRun then dryRun deployment (runOf request runId now)
  else
    perform (.register (registeredRun deployment (runOf request runId now)))
    (processBody deployment (runOf request runId now)).handle
      (processHandler (runOf request runId now))

/-- `process_cdc`. -/
def processCdc (deployment : Deployment) (request : ProcessRequest) : Action ProcessingResult := do
  let prior ← perform (.findLatestIdentity (identityOf deployment request.object))
  match prior, request.forceReprocess with
  | some prior, false => return skippedResult prior
  | _, _ => startRun deployment request

/-- The processing service: a history of calls. -/
def service (deployment : Deployment) :
    Service signature PyError World Choice ProcessRequest where
  machine := machine deployment
  code request := (processCdc deployment request).bind fun _ => .done ()
  boot _ world := world

end Silver
