import PaymentsPlatform.Python.Binary
import PaymentsPlatform.Python.Calendar
import PaymentsPlatform.Python.Decimal
import PaymentsPlatform.Python.Repr
import PaymentsPlatform.Silver.Models

/-!
# Normalization and projection

`cdc_normalizer`: the rows of a Bronze table become events or quality rejections, and an event
becomes the row of its entity. A normalization error has a quality code; any other exception of a
row is evidence as well when it is a `KeyError`, a `TypeError` or a `ValueError`, and ends the run
otherwise.
-/

namespace Silver

open Python

/-- `SilverNormalizationError`, or another exception. -/
inductive Problem
  | quality (code : QualityCode) (message : PyStr)
  | raised (error : PyError)

/-- `rejection`. -/
def rejection (sourceObjectUri : PyStr) (sourceEventId : Option PyStr) (entityName : PyStr)
    (businessKey : Option PyStr) (code : QualityCode) (message rawReference runId : PyStr)
    (rejectedAt : Instant) : QualityRejection where
  sourceObjectUri := sourceObjectUri
  sourceEventId := sourceEventId
  entityName := entityName
  businessKey := businessKey
  errorCode := code
  errorMessage := message.take 1000
  rawReference := rawReference.take 512
  processingRunId := runId
  rejectedAt := rejectedAt

/-- `_json_object`. -/
def jsonObject (depth : Nat) (value : Option PyStr) (field : PyStr) :
    Except Problem (Option JsonObject) :=
  match value with
  | none => .ok none
  | some text =>
    match Json.loads depth text with
    | .error error =>
      if error.kind = .jsonDecodeError then
        .error (.quality .invalidJson (field ++ py " is invalid JSON"))
      else .error (.raised error)
    | .ok .null => .ok none
    | .ok (.obj members) => .ok (some members)
    | .ok _ => .error (.quality .invalidJson (field ++ py " must be a JSON object"))

/-- `_payload_from_key`. -/
def payloadFromKey : Option JsonObject → JsonObject
  | none => []
  | some key =>
    match Json.member? key "payload" with
    | none => key
    | some (.obj members) => members
    | some _ => []

/-- `_epoch_ms` of an integer column. -/
def epochMs : Option Int → Except Problem (Option Instant)
  | none => .ok none
  | some value =>
    match fromTimestamp value 1000 with
    | .ok instant => .ok (some instant)
    | .error _ => .error (.quality .invalidTimestamp "Epoch milliseconds are invalid")

/-- Whether `value in {None, ""}`, which a container cannot be asked. -/
def Json.isMissing : Json → Except PyError Bool
  | .null => .ok true
  | .str [] => .ok true
  | .arr _ => .error ⟨.typeError, py "unhashable type: 'list'"⟩
  | .obj _ => .error ⟨.typeError, py "unhashable type: 'dict'"⟩
  | _ => .ok false

/-- Python's `bool(value)`. -/
def Json.truthy : Json → Bool
  | .null => false
  | .bool value => value
  | .int value => value ≠ 0
  | .decimal value => value.coefficient ≠ 0
  | .nan => true
  | .infinity _ => true
  | .str value => value ≠ []
  | .arr items => !items.isEmpty
  | .obj members => !members.isEmpty

/-- `str(value or default)` of a text column. -/
def textOr (default : PyStr) : Option PyStr → PyStr
  | none => default
  | some [] => default
  | some text => text

/-- `SUPPORTED_OPERATIONS`. -/
def supportedOperations : List PyStr := ["r", "c", "u", "d", "t"]

/-- `int(value)` of an integer column that may be null. -/
def columnInt : Option Int → Except Problem Int
  | some value => .ok value
  | none => .error (.raised ⟨.typeError, py "int() argument must be a string, " ++
      py "a bytes-like object or a real number, not 'NoneType'"⟩)

/-- What a run writes into every event. -/
structure RunContext where
  /-- The digest of event identities. -/
  sha : Sha256
  /-- Nested JSON containers before `RecursionError`. -/
  recursionLimit : Nat
  /-- The object. -/
  inputUri : PyStr
  /-- The run. -/
  runId : PyStr
  /-- When the run started. -/
  processedAt : Instant
  /-- Version of the Silver contract. -/
  silverSchemaVersion : PyStr

/-- `raw_business_key`: the payload first, the event key if the payload does not have it. -/
def rawBusinessKey (entity : Entity) (payload : Option JsonObject) (key : JsonObject) : Json :=
  (Json.member? (payload.getD []) entity.businessKey).getD (Json.get key entity.businessKey)

/-- The business key of an event. -/
def businessKeyOf (entity : Entity) (payload : Option JsonObject) (key : JsonObject) :
    Except Problem PyStr :=
  match Json.isMissing (rawBusinessKey entity payload key) with
  | .error error => .error (.raised error)
  | .ok true => .error (.quality .missingBusinessKey (entity.businessKey ++ py " is missing"))
  | .ok false => .ok (Json.pyText (rawBusinessKey entity payload key))

/-- The part of an event that is known before its clocks are read. -/
structure EventIdentity where
  /-- The entity. -/
  entity : Entity
  /-- The topic. -/
  topic : PyStr
  /-- The partition number. -/
  partition : Int
  /-- The offset. -/
  offset : Int
  /-- The row before the change. -/
  before : Option JsonObject
  /-- The row after the change. -/
  after : Option JsonObject
  /-- The key of the row. -/
  businessKey : PyStr

/-- The body of `normalize_cdc_table` up to the business key. -/
def identify (context : RunContext) (row : BronzeRow) : Except Problem EventIdentity := do
  let eventId := row.eventId.getD []
  let operation := row.operation.getD []
  match Entity.ofName (textOr "unknown" row.entityName) with
  | none => .error (.quality .invalidBronzeSchema "CDC entity is unsupported")
  | some entity =>
    if operation ∉ supportedOperations then
      .error (.quality .unsupportedOperation "CDC operation is unsupported")
    else
      let topic := row.kafkaTopic.getD "None"
      let partition ← columnInt row.kafkaPartition
      let offset ← columnInt row.kafkaOffset
      if eventId ≠ Cdc.deterministicEventId context.sha topic partition offset then
        .error (.quality .duplicateEvent "event_id does not match Kafka coordinates")
      else
        let before ← jsonObject context.recursionLimit row.beforeJson "before_json"
        let after ← jsonObject context.recursionLimit row.afterJson "after_json"
        let key ← jsonObject context.recursionLimit row.eventKeyJson "event_key_json"
        let _ ← jsonObject context.recursionLimit row.sourceMetadataJson "source_metadata_json"
        let payload := if operation = py "t" then none
          else if operation = py "d" then before else after
        let businessKey ← businessKeyOf entity payload (payloadFromKey key)
        return { entity, topic, partition, offset, before, after, businessKey }

/-- The body of `normalize_cdc_table` after the business key. -/
def complete (context : RunContext) (row : BronzeRow) (identity : EventIdentity) :
    Except Problem NormalizedCdcEvent := do
  let sourceTs ← epochMs row.sourceTsMs
  let connectorTs ← epochMs row.connectorTsMs
  let kafkaMessageTs ← epochMs row.kafkaMessageTsMs
  match row.ingestedAt with
  | none => .error (.raised ⟨.attributeError, py "'NoneType' object has no attribute 'tzinfo'"⟩)
  | some ingestedAt => return {
      eventId := row.eventId.getD []
      entity := identity.entity
      businessKey := identity.businessKey
      operation := row.operation.getD []
      before := identity.before
      after := identity.after
      sourceLsn := row.sourceLsn
      sourceTxId := row.sourceTxId
      sourceTs
      connectorTs
      kafkaMessageTs
      kafkaTopic := identity.topic
      kafkaPartition := identity.partition
      kafkaOffset := identity.offset
      eventTime := ((sourceTs.or connectorTs).or kafkaMessageTs).getD ingestedAt
      ingestedAt
      processedAt := context.processedAt
      processingRunId := context.runId
      sourceSchemaVersion := row.schemaVersion.getD "None"
      silverSchemaVersion := context.silverSchemaVersion }

/-- The event of a row, or what is wrong with it and the business key if that is known. -/
def normalizeRow (context : RunContext) (row : BronzeRow) :
    Except (Problem × Option PyStr) NormalizedCdcEvent :=
  match identify context row with
  | .error problem => .error (problem, none)
  | .ok identity =>
    match complete context row identity with
    | .error problem => .error (problem, some identity.businessKey)
    | .ok event => .ok event

/-- The rejection of a row. -/
def rejectRow (context : RunContext) (row : BronzeRow) (businessKey : Option PyStr)
    (code : QualityCode) (message : PyStr) : QualityRejection :=
  let eventId := row.eventId.getD []
  rejection context.inputUri (if eventId = [] then none else some eventId)
    (textOr "unknown" row.entityName) businessKey code message
    (py "row:event_id=" ++ if eventId = [] then py "unknown" else eventId) context.runId
    context.processedAt

/-- `normalize_cdc_table`. -/
def normalizeCdcTable (context : RunContext) :
    List BronzeRow → Except PyError (List NormalizedCdcEvent × List QualityRejection)
  | [] => .ok ([], [])
  | row :: rows =>
    match normalizeRow context row with
    | .ok event => (normalizeCdcTable context rows).map fun (events, rejections) =>
        (event :: events, rejections)
    | .error (.quality code message, key) =>
      (normalizeCdcTable context rows).map fun (events, rejections) =>
        (events, rejectRow context row key code message :: rejections)
    | .error (.raised error, key) =>
      if error.kind.isBadValue then
        (normalizeCdcTable context rows).map fun (events, rejections) =>
          (events, rejectRow context row key .invalidBronzeSchema error.message :: rejections)
      else .error error

/-! ## Projection -/

/-- `decode_decimal` with precision 18 and scale 2, of a value that `json.loads` has read from a
canonical dump, where decimals are strings. -/
def decodeDecimal (value : Json) : Except Problem Decimal := do
  let parsed ← match value with
    | .nan | .infinity _ => .error (.quality .invalidDecimal "Float money is forbidden")
    | .bool flag => .ok (.finite (Decimal.ofInt (if flag then 1 else 0)))
    | .int number => .ok (.finite (Decimal.ofInt number))
    | .decimal number => .ok (.finite number)
    | .str text =>
      match parseDecimal text with
      | some parsed => .ok parsed
      | none =>
        match base64Decode text with
        | some (byte :: bytes) =>
          .ok (.finite (Decimal.scaled (signedOfBytes (byte :: bytes)) 2))
        | _ => .error (.quality .invalidDecimal "Precise Decimal encoding is invalid")
    | .null | .arr _ | .obj _ =>
      .error (.quality .invalidDecimal "Money value is not Decimal-compatible")
  match parsed with
  | .infinity _ | .nan => .error (.quality .invalidDecimal "Money value must be finite")
  | .finite number =>
    match number.quantize 2 with
    | none => .error (.quality .invalidDecimal "Money scale is invalid")
    | some quantized =>
      if 18 < quantized.digitCount then
        .error (.quality .invalidDecimal "Money precision exceeds NUMERIC(18,2)")
      else .ok quantized

/-- `decode_debezium_timestamp` of a value that `json.loads` has read from a canonical dump. -/
def decodeDebeziumTimestamp (value : Json) : Except Problem Cell :=
  match value with
  | .null | .str [] => .ok .null
  | .bool _ => .error (.quality .invalidTimestamp "Boolean is not a timestamp")
  | .int number =>
    match fromTimestamp number (if 100000000000000 ≤ number.natAbs then 1000000 else 1000) with
    | .ok instant => .ok (.time instant)
    | .error _ => .error (.quality .invalidTimestamp "Debezium timestamp is out of range")
  | .str text =>
    match datetimeFromIsoformat (replaceChar 90 "+00:00" text) with
    | none => .error (.quality .invalidTimestamp "Timestamp is not ISO-8601")
    | some ⟨_, none⟩ => .error (.quality .invalidTimestamp "Timestamp must include timezone")
    | some ⟨micros, some offset⟩ =>
      match ScannedDateTime.toUtc micros offset with
      | .ok instant => .ok (.time instant)
      | .error error => .error (.raised error)
  | _ => .error (.quality .invalidTimestamp "Timestamp representation is unsupported")

/-- `DECIMAL_FIELDS`. -/
def Entity.decimalFields : Entity → List PyStr
  | .accounts => ["balance"]
  | .paymentTransactions => ["amount"]
  | .refunds => ["amount"]
  | _ => []

/-- `TIMESTAMP_FIELDS`; the source iterates over sets, here in the order they are written. -/
def Entity.timestampFields : Entity → List PyStr
  | .customers | .accounts | .merchants => ["created_at", "updated_at"]
  | .paymentTransactions => ["requested_at", "completed_at", "failed_at", "created_at",
      "updated_at"]
  | .transactionEvents => ["event_time", "producer_time", "created_at"]
  | .refunds => ["requested_at", "completed_at", "created_at", "updated_at"]

/-- The columns that must refer to something. -/
def Entity.requiredReferences : Entity → List PyStr
  | .accounts => ["customer_id"]
  | .paymentTransactions => ["customer_id", "account_id"]
  | .refunds => ["transaction_id"]
  | _ => []

/-- Decode the amounts of a row. -/
def decodeDecimals (payload : JsonObject) : List PyStr → Columns → Except Problem Columns
  | [], row => .ok row
  | field :: fields, row =>
    if (Json.get payload field).isNull then decodeDecimals payload fields row
    else do
      let amount ← decodeDecimal (Json.get payload field)
      decodeDecimals payload fields (Columns.set field (.money amount) row)

/-- Decode the times of a row. -/
def decodeTimestamps (payload : JsonObject) : List PyStr → Columns → Except Problem Columns
  | [], row => .ok row
  | field :: fields, row => do
    let time ← decodeDebeziumTimestamp (Json.get payload field)
    decodeTimestamps payload fields (Columns.set field time row)

/-- The name columns of a customer: `full_name` up to its first space and behind it. -/
def splitFullName (payload : JsonObject) (row : Columns) : Columns :=
  let text := match Json.member? payload "full_name" with
    | none => []
    | some value => Json.pyText value
  let fullName := strip isWhitespace text
  let first := fullName.takeWhile fun code => code ≠ 32
  let named (text : PyStr) : Cell := .json (.str text)
  let row := Columns.pop "full_name" row
  let row := Columns.set "first_name" (if first = [] then .null else named first) row
  Columns.set "last_name"
    (if 32 ∈ fullName then named (fullName.drop (first.length + 1)) else .null) row

/-- `int(value)` of a decoded value. -/
def Json.pyInt : Json → Except PyError Int
  | .int value => .ok value
  | .bool flag => .ok (if flag then 1 else 0)
  | .decimal value => .ok value.truncate
  | .str text =>
    match parseInt text with
    | some value => .ok value
    | none => .error ⟨.valueError, py "invalid literal for int() with base 10"⟩
  | .nan => .error ⟨.valueError, py "cannot convert float NaN to integer"⟩
  | .infinity _ => .error ⟨.overflowError, py "cannot convert float infinity to integer"⟩
  | _ => .error ⟨.typeError, py "int() argument must be a string, " ++
      py "a bytes-like object or a real number"⟩

/-- The version and payload columns of a transaction event. -/
def splitEventPayload (payload : JsonObject) (row : Columns) : Except Problem Columns := do
  let row ← if (Json.get payload "event_version").isNull then .ok row
    else match Json.pyInt (Json.get payload "event_version") with
      | .ok version => .ok (Columns.set "event_version" (.json (.int version)) row)
      | .error error => .error (.raised error)
  let value := Json.get payload "event_payload"
  return Columns.set "event_payload_json"
    (if value.isNull then .null else .json (.str (Json.dumps value)))
    (Columns.pop "event_payload" row)

/-- The business columns of a payload. -/
def projectColumns (entity : Entity) (payload : JsonObject) : Except Problem Columns := do
  let row : Columns := payload.map fun (name, value) => (name, .json value)
  let row := if entity = .customers then splitFullName payload row else row
  let row ← decodeDecimals payload entity.decimalFields row
  let row ← decodeTimestamps payload entity.timestampFields row
  let row ← if entity = .transactionEvents then splitEventPayload payload row else .ok row
  let missing := entity.requiredReferences.filter fun field =>
    !Json.truthy (Json.get payload field)
  if missing ≠ [] then
    .error (.quality .invalidReference
      (py "Required reference is missing: " ++ List.intercalate (py ", ") missing))
  else return row

/-- `project_entity_state`. -/
def projectEntityState (event : NormalizedCdcEvent) : Except Problem StateRow :=
  match event.payload with
  | none => .error (.quality .invalidBronzeSchema "State event has no business payload")
  | some object => (projectColumns event.entity (canonicalObject object)).map fun columns =>
      ⟨columns, event.lineage event.isDeleted⟩

end Silver
