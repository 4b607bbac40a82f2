import PaymentsPlatform.Cdc.Models

/-!
# Silver records

The enumerations, records and schemas of `processing.silver`. A row of an entity is a Python
dictionary of business columns together with its lineage columns, which every row has.
-/

namespace Silver

open Python

/-- `ProcessingStatus`. -/
inductive ProcessingStatus
  | discovered
  | reading
  | validating
  | transforming
  | writing
  | completed
  | failed
  | quarantined
deriving DecidableEq, Repr

/-- The text of a status. -/
def ProcessingStatus.value : ProcessingStatus → PyStr
  | discovered => "DISCOVERED"
  | reading => "READING"
  | validating => "VALIDATING"
  | transforming => "TRANSFORMING"
  | writing => "WRITING"
  | completed => "COMPLETED"
  | failed => "FAILED"
  | quarantined => "QUARANTINED"

/-- `OutputType`. -/
inductive OutputType
  | history
  | latestAll
  | current
  | events
  | settlements
  | rejections
  | unresolvedReferences
deriving DecidableEq, Repr

/-- The text of an output type. -/
def OutputType.value : OutputType → PyStr
  | history => "history"
  | latestAll => "latest_all"
  | current => "current"
  | events => "events"
  | settlements => "settlements"
  | rejections => "rejections"
  | unresolvedReferences => "unresolved_references"

/-- `QualityCode`. -/
inductive QualityCode
  | invalidBronzeSchema
  | invalidJson
  | missingBusinessKey
  | invalidDecimal
  | invalidTimestamp
  | unsupportedOperation
  | duplicateEvent
  | duplicateCoordinate
  | outOfOrderEvent
  | invalidReference
  | schemaVersionUnsupported
deriving DecidableEq, Repr

/-- The text of a quality code. -/
def QualityCode.value : QualityCode → PyStr
  | invalidBronzeSchema => "INVALID_BRONZE_SCHEMA"
  | invalidJson => "INVALID_JSON"
  | missingBusinessKey => "MISSING_BUSINESS_KEY"
  | invalidDecimal => "INVALID_DECIMAL"
  | invalidTimestamp => "INVALID_TIMESTAMP"
  | unsupportedOperation => "UNSUPPORTED_OPERATION"
  | duplicateEvent => "DUPLICATE_EVENT"
  | duplicateCoordinate => "DUPLICATE_COORDINATE"
  | outOfOrderEvent => "OUT_OF_ORDER_EVENT"
  | invalidReference => "INVALID_REFERENCE"
  | schemaVersionUnsupported => "SCHEMA_VERSION_UNSUPPORTED"

/-- The keys of `BUSINESS_KEYS`. -/
inductive Entity
  | customers
  | accounts
  | merchants
  | paymentTransactions
  | transactionEvents
  | refunds
deriving DecidableEq, Repr

namespace Entity

/-- The name of an entity. -/
def name : Entity → PyStr
  | customers => "customers"
  | accounts => "accounts"
  | merchants => "merchants"
  | paymentTransactions => "payment_transactions"
  | transactionEvents => "transaction_events"
  | refunds => "refunds"

/-- The entities in the order of `BUSINESS_KEYS`. -/
def all : List Entity :=
  [customers, accounts, merchants, paymentTransactions, transactionEvents, refunds]

/-- The entity of a name. -/
def ofName (text : PyStr) : Option Entity := all.find? fun entity => entity.name = text

/-- `BUSINESS_KEYS[entity]`. -/
def businessKey : Entity → PyStr
  | customers => "customer_id"
  | accounts => "account_id"
  | merchants => "merchant_id"
  | paymentTransactions => "transaction_id"
  | transactionEvents => "event_id"
  | refunds => "refund_id"

/-- Every entity has a name of its own. -/
theorem ofName_name (entity : Entity) : ofName entity.name = some entity := by
  cases entity <;> decide

/-- The entity of a name has the name. -/
theorem name_of_ofName {text : PyStr} {entity : Entity} (found : ofName text = some entity) :
    entity.name = text := by
  simpa using List.find?_some found

end Entity

/-- The Arrow types of the schemas. -/
inductive ColumnType
  | text
  | largeText
  | bool
  | int32
  | int64
  | timestamp
  | money
deriving DecidableEq, Repr

/-- A column of a schema. -/
structure Field where
  /-- The name. -/
  name : PyStr
  /-- The type. -/
  type : ColumnType
  /-- Nulls are permitted. -/
  nullable : Bool := true
deriving DecidableEq

/-- The business columns of `entity_schema(entity)`; the lineage columns follow them. -/
def Entity.fields : Entity → List Field
  | customers => [⟨"customer_id", .text, false⟩, ⟨"external_customer_ref", .text, true⟩,
      ⟨"first_name", .text, true⟩, ⟨"last_name", .text, true⟩, ⟨"email", .text, true⟩,
      ⟨"country_code", .text, true⟩, ⟨"status", .text, true⟩, ⟨"created_at", .timestamp, true⟩,
      ⟨"updated_at", .timestamp, true⟩]
  | accounts => [⟨"account_id", .text, false⟩, ⟨"customer_id", .text, false⟩,
      ⟨"account_number", .text, true⟩, ⟨"currency", .text, true⟩, ⟨"balance", .money, true⟩,
      ⟨"status", .text, true⟩, ⟨"created_at", .timestamp, true⟩, ⟨"updated_at", .timestamp, true⟩]
  | merchants => [⟨"merchant_id", .text, false⟩, ⟨"merchant_code", .text, true⟩,
      ⟨"external_reference", .text, true⟩, ⟨"merchant_name", .text, true⟩,
      ⟨"category_code", .text, true⟩, ⟨"country_code", .text, true⟩,
      ⟨"settlement_currency", .text, true⟩, ⟨"status", .text, true⟩,
      ⟨"created_at", .timestamp, true⟩, ⟨"updated_at", .timestamp, true⟩]
  | paymentTransactions => [⟨"transaction_id", .text, false⟩, ⟨"customer_id", .text, false⟩,
      ⟨"account_id", .text, false⟩, ⟨"destination_account_id", .text, true⟩,
      ⟨"merchant_id", .text, true⟩, ⟨"transaction_type", .text, true⟩,
      ⟨"payment_channel", .text, true⟩, ⟨"amount", .money, true⟩, ⟨"currency", .text, true⟩,
      ⟨"status", .text, true⟩, ⟨"partner_reference", .text, true⟩,
      ⟨"idempotency_key", .text, true⟩, ⟨"failure_code", .text, true⟩,
      ⟨"requested_at", .timestamp, true⟩, ⟨"completed_at", .timestamp, true⟩,
      ⟨"failed_at", .timestamp, true⟩, ⟨"created_at", .timestamp, true⟩,
      ⟨"updated_at", .timestamp, true⟩]
  | transactionEvents => [⟨"event_id", .text, false⟩, ⟨"transaction_id", .text, false⟩,
      ⟨"event_type", .text, true⟩, ⟨"event_version", .int32, true⟩,
      ⟨"previous_status", .text, true⟩, ⟨"new_status", .text, true⟩,
      ⟨"event_time", .timestamp, true⟩, ⟨"producer_time", .timestamp, true⟩,
      ⟨"trace_id", .text, true⟩, ⟨"source_system", .text, true⟩,
      ⟨"event_payload_json", .largeText, true⟩, ⟨"created_at", .timestamp, true⟩]
  | refunds => [⟨"refund_id", .text, false⟩, ⟨"transaction_id", .text, false⟩,
      ⟨"amount", .money, true⟩, ⟨"currency", .text, true⟩, ⟨"status", .text, true⟩,
      ⟨"reason_code", .text, true⟩, ⟨"partner_reference", .text, true⟩,
      ⟨"requested_at", .timestamp, true⟩, ⟨"completed_at", .timestamp, true⟩,
      ⟨"created_at", .timestamp, true⟩, ⟨"updated_at", .timestamp, true⟩]

/-- The members of a JSON object. -/
abbrev JsonObject := List (PyStr × Json)

/-- A value of a business column: what a payload holds, an amount or a time. -/
inductive Cell
  | json (value : Json)
  | money (value : Decimal)
  | time (value : Instant)
deriving DecidableEq

/-- `None`. -/
def Cell.null : Cell := .json .null

/-- What a decimal column gives back: a zero has no sign. -/
def narrowMoney (value : Decimal) : Decimal :=
  if value.coefficient = 0 then { value with negative := false } else value

/-- What a column gives back. -/
def Cell.narrow : Cell → Cell
  | .money value => .money (narrowMoney value)
  | other => other

/-- A dictionary of business columns. -/
abbrev Columns := List (PyStr × Cell)

namespace Columns

/-- `row.get(name)`. -/
def get (columns : Columns) (name : PyStr) : Cell :=
  ((columns.find? fun entry => entry.1 = name).map Prod.snd).getD .null

/-- `row[name] = value`: a known column keeps its position. -/
def set (name : PyStr) (value : Cell) : Columns → Columns
  | [] => [(name, value)]
  | (other, old) :: rest =>
    if other = name then (other, value) :: rest else (other, old) :: set name value rest

/-- `row.pop(name, None)` without its result. -/
def pop (name : PyStr) (columns : Columns) : Columns :=
  columns.filter fun entry => entry.1 ≠ name

/-- A column that was set. -/
theorem get_set (columns : Columns) (name other : PyStr) (value : Cell) :
    (set name value columns).get other = if other = name then value else columns.get other := by
  induction columns with
  | nil =>
    unfold set get
    by_cases same : other = name
    · simp [same]
    · simp [same, Ne.symm same]
  | cons entry rest ih =>
    unfold set
    by_cases here : entry.1 = name
    · rw [if_pos here]
      unfold get
      by_cases same : other = name
      · simp [same, here]
      · have different : entry.1 ≠ other := fun clash => same (clash.symm.trans here)
        simp [same, different]
    · rw [if_neg here]
      unfold get at ih ⊢
      by_cases found : entry.1 = other
      · have different : other ≠ name := fun clash => here (found.trans clash)
        simp [found, different]
      · rw [List.find?_cons_of_neg (by simpa using found), ih,
          List.find?_cons_of_neg (by simpa using found)]

end Columns

/-- A row of the Bronze table as `to_pylist` gives it; a column can hold nulls whatever the
contract says. -/
structure BronzeRow where
  /-- `event_id`. -/
  eventId : Option PyStr
  /-- `entity_name`. -/
  entityName : Option PyStr
  /-- `operation`. -/
  operation : Option PyStr
  /-- `event_key_json`. -/
  eventKeyJson : Option PyStr
  /-- `before_json`. -/
  beforeJson : Option PyStr
  /-- `after_json`. -/
  afterJson : Option PyStr
  /-- `source_metadata_json`. -/
  sourceMetadataJson : Option PyStr
  /-- `source_lsn`. -/
  sourceLsn : Option Int
  /-- `source_tx_id`. -/
  sourceTxId : Option Int
  /-- `source_ts_ms`. -/
  sourceTsMs : Option Int
  /-- `connector_ts_ms`. -/
  connectorTsMs : Option Int
  /-- `kafka_topic`. -/
  kafkaTopic : Option PyStr
  /-- `kafka_partition`. -/
  kafkaPartition : Option Int
  /-- `kafka_offset`. -/
  kafkaOffset : Option Int
  /-- `kafka_message_ts_ms`. -/
  kafkaMessageTsMs : Option Int
  /-- `ingested_at`. -/
  ingestedAt : Option Instant
  /-- `schema_version`. -/
  schemaVersion : Option PyStr
deriving DecidableEq

/-- `InputObject`: what the processing reads of it. -/
structure InputObject where
  /-- The address. -/
  uri : PyStr
  /-- The bucket. -/
  bucket : PyStr
  /-- The key. -/
  objectKey : PyStr
  /-- The digest the listing reports. -/
  checksumSha256 : PyStr
deriving DecidableEq

/-- What `json.loads` reads from the canonical dump of an object. -/
def canonicalObject (payload : JsonObject) : JsonObject :=
  Json.sortMembers (Json.canonicalMembers payload)

/-- A Kafka coordinate: topic, partition and offset. -/
abbrev Coordinate := PyStr × Int × Int

/-- `NormalizedCdcEvent`. The texts `before_json`, `after_json` and `business_payload_json` are
the canonical dumps of the values held here. -/
structure NormalizedCdcEvent where
  /-- Identity derived from the coordinate. -/
  eventId : PyStr
  /-- The entity. -/
  entity : Entity
  /-- The key of the row. -/
  businessKey : PyStr
  /-- The operation: `r`, `c`, `u`, `d` or `t`. -/
  operation : PyStr
  /-- The row before the change. -/
  before : Option JsonObject
  /-- The row after the change. -/
  after : Option JsonObject
  /-- Log sequence number. -/
  sourceLsn : Option Int
  /-- Source transaction. -/
  sourceTxId : Option Int
  /-- Source clock. -/
  sourceTs : Option Instant
  /-- Connector clock. -/
  connectorTs : Option Instant
  /-- Record timestamp. -/
  kafkaMessageTs : Option Instant
  /-- The topic. -/
  kafkaTopic : PyStr
  /-- The partition number. -/
  kafkaPartition : Int
  /-- The offset. -/
  kafkaOffset : Int
  /-- The first clock that is known. -/
  eventTime : Instant
  /-- When the consumer parsed the record. -/
  ingestedAt : Instant
  /-- When the run started. -/
  processedAt : Instant
  /-- The run. -/
  processingRunId : PyStr
  /-- Version of the Bronze contract. -/
  sourceSchemaVersion : PyStr
  /-- Version of the Silver contract. -/
  silverSchemaVersion : PyStr
deriving DecidableEq

namespace NormalizedCdcEvent

variable (event : NormalizedCdcEvent)

/-- `is_tombstone`. -/
def isTombstone : Bool := event.operation = py "t"

/-- `is_snapshot`. -/
def isSnapshot : Bool := event.operation = py "r"

/-- `is_deleted`. -/
def isDeleted : Bool := event.operation = py "d" || event.operation = py "t"

/-- The payload: the old row of a delete, the new row of another event, nothing of a
tombstone. -/
def payload : Option JsonObject :=
  if event.operation = py "t" then none
  else if event.operation = py "d" then event.before else event.after

/-- `coordinate`. -/
def coordinate : Coordinate := (event.kafkaTopic, event.kafkaPartition, event.kafkaOffset)

/-- What a reader of a history table knows of an event: its payloads up to their canonical dumps. -/
def narrow : NormalizedCdcEvent :=
  { event with
    before := event.before.map canonicalObject
    after := event.after.map canonicalObject }

/-- The coordinate is read back. -/
@[simp] theorem narrow_coordinate : event.narrow.coordinate = event.coordinate := rfl

end NormalizedCdcEvent

/-- The lineage columns of a row. -/
structure Lineage where
  /-- The key is deleted. -/
  isDeleted : Bool
  /-- Log sequence number. -/
  sourceLsn : Option Int
  /-- The topic. -/
  kafkaTopic : PyStr
  /-- The partition number. -/
  kafkaPartition : Int
  /-- The offset. -/
  kafkaOffset : Int
  /-- The time of the event. -/
  effectiveEventTime : Instant
  /-- When the run started. -/
  processedAt : Instant
  /-- The run. -/
  processingRunId : PyStr
  /-- Version of the Bronze contract. -/
  sourceSchemaVersion : PyStr
  /-- Version of the Silver contract. -/
  silverSchemaVersion : PyStr
deriving DecidableEq

/-- What an event writes into the lineage columns. -/
def NormalizedCdcEvent.lineage (event : NormalizedCdcEvent) (isDeleted : Bool) : Lineage where
  isDeleted := isDeleted
  sourceLsn := event.sourceLsn
  kafkaTopic := event.kafkaTopic
  kafkaPartition := event.kafkaPartition
  kafkaOffset := event.kafkaOffset
  effectiveEventTime := event.eventTime
  processedAt := event.processedAt
  processingRunId := event.processingRunId
  sourceSchemaVersion := event.sourceSchemaVersion
  silverSchemaVersion := event.silverSchemaVersion

/-- A row of an entity. -/
structure StateRow where
  /-- The business columns. -/
  columns : Columns
  /-- The lineage columns. -/
  lineage : Lineage
deriving DecidableEq

/-- The coordinate of the event a row is from. -/
def StateRow.coordinate (row : StateRow) : Coordinate :=
  (row.lineage.kafkaTopic, row.lineage.kafkaPartition, row.lineage.kafkaOffset)

/-- The columns a table of the entity keeps of a row. -/
def StateRow.narrow (entity : Entity) (row : StateRow) : StateRow :=
  { row with
    columns := entity.fields.map fun field => (field.name, (row.columns.get field.name).narrow) }

/-- `QualityRejection`. -/
structure QualityRejection where
  /-- The object. -/
  sourceObjectUri : PyStr
  /-- The event. -/
  sourceEventId : Option PyStr
  /-- The entity. -/
  entityName : PyStr
  /-- The key. -/
  businessKey : Option PyStr
  /-- The code. -/
  errorCode : QualityCode
  /-- Its text. -/
  errorMessage : PyStr
  /-- Where the event is. -/
  rawReference : PyStr
  /-- The run. -/
  processingRunId : PyStr
  /-- When the run started. -/
  rejectedAt : Instant
deriving DecidableEq

/-- `UnresolvedReference`. -/
structure UnresolvedReference where
  /-- The entity. -/
  entity : Entity
  /-- The key. -/
  businessKey : PyStr
  /-- The entity referred to. -/
  referenceEntity : Entity
  /-- The key referred to. -/
  referenceKey : PyStr
  /-- The column. -/
  referenceField : PyStr
  /-- How the reference is classified. -/
  classification : PyStr := "TEMPORARILY_UNRESOLVED"
  /-- The event. -/
  sourceEventId : PyStr
  /-- The run. -/
  processingRunId : PyStr
  /-- When the run started. -/
  observedAt : Instant
deriving DecidableEq

/-- A row of `settlements`. -/
structure SettlementRow where
  /-- The partner. -/
  partnerId : PyStr
  /-- The settlement date. -/
  settlementDate : Date
  /-- The reference. -/
  settlementReference : PyStr
  /-- The reference of the partner. -/
  partnerTransactionReference : PyStr
  /-- The transaction of the platform. -/
  internalTransactionId : Option PyStr
  /-- When the transaction took place. -/
  transactionTimestamp : Instant
  /-- The amount. -/
  amount : Decimal
  /-- The currency. -/
  currency : PyStr
  /-- The status. -/
  settlementStatus : PyStr
  /-- The fee. -/
  feeAmount : Decimal
  /-- The amount less the fee. -/
  netAmount : Decimal
  /-- The file. -/
  sourceFileName : PyStr
  /-- Its digest. -/
  sourceChecksum : PyStr
  /-- The row in the file. -/
  sourceRowNumber : Nat
  /-- The attempt that ingested it. -/
  ingestionRunId : Option PyStr
  /-- The run. -/
  processingRunId : PyStr
  /-- When the run started. -/
  processedAt : Instant
deriving DecidableEq

/-- What a reader of a settlement table knows of a row. -/
def SettlementRow.narrow (row : SettlementRow) : SettlementRow :=
  { row with
    amount := narrowMoney row.amount
    feeAmount := narrowMoney row.feeAmount
    netAmount := narrowMoney row.netAmount }

/-- A table that is written: the events of a run, rows of an entity or of settlements, or quality
evidence. -/
inductive Table
  | history (rows : List NormalizedCdcEvent)
  | state (entity : Entity) (rows : List StateRow)
  | settlements (rows : List SettlementRow)
  | rejections (rows : List QualityRejection)
  | unresolved (rows : List UnresolvedReference)
deriving DecidableEq

/-- The number of rows. -/
def Table.rowCount : Table → Nat
  | history rows => rows.length
  | state _ rows => rows.length
  | settlements rows => rows.length
  | rejections rows => rows.length
  | unresolved rows => rows.length

/-- What a reader finds: the columns of the schema, the dumps of payloads, zeros without signs. -/
def Table.narrow : Table → Table
  | history rows => .history (rows.map NormalizedCdcEvent.narrow)
  | state entity rows => .state entity (rows.map (StateRow.narrow entity))
  | settlements rows => .settlements (rows.map SettlementRow.narrow)
  | rejections rows => .rejections rows
  | unresolved rows => .unresolved rows

/-- `SilverOutput`. -/
structure SilverOutput where
  /-- The kind of output. -/
  outputType : OutputType
  /-- The address. -/
  objectUri : PyStr
  /-- The digest. -/
  checksumSha256 : PyStr
  /-- The rows. -/
  recordCount : Nat
deriving DecidableEq

end Silver
