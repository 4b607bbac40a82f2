import PaymentsPlatform.Python.DateTime
import PaymentsPlatform.Python.Json
import PaymentsPlatform.Python.Sha256

/-!
# CDC records, identities and batches

The typed records of the consumer: a Kafka message before interpretation, the Bronze event
and the poison evidence it can become, and the batch of one contiguous offset range. The
SHA-256 function is a parameter of everything that identifies or checks content; only the
length of its digests is used.
-/

namespace Cdc

open Python

/-- Persisted lifecycle of one topic-partition offset range. -/
inductive BatchStatus
  | collecting
  | serializing
  | uploading
  | uploaded
  | committed
  | failed
deriving DecidableEq, Repr

/-- The three classes of a Kafka record. -/
inductive ParseKind
  | event
  | heartbeat
  | poison
deriving DecidableEq, Repr

/-- One partition of one topic. -/
structure TopicPartitionKey where
  /-- The topic. -/
  topic : PyStr
  /-- The partition number. -/
  partition : Int
deriving DecidableEq, Repr

/-- Kafka bytes and coordinates before Debezium interpretation. -/
structure RawKafkaMessage where
  /-- The topic. -/
  topic : PyStr
  /-- The partition number. -/
  partition : Int
  /-- The offset in the partition. -/
  offset : Int
  /-- The record key. -/
  key : Option Bytes
  /-- The record value; a tombstone has none. -/
  value : Option Bytes
  /-- The record timestamp, when the broker reports one. -/
  timestampMs : Option Int
deriving DecidableEq, Repr

/-- The partition a message belongs to. -/
def RawKafkaMessage.topicPartition (message : RawKafkaMessage) : TopicPartitionKey :=
  ⟨message.topic, message.partition⟩

/-- A record of the Bronze contract. -/
structure BronzeEvent where
  /-- Identity derived from the Kafka coordinates. -/
  eventId : PyStr
  /-- Source table. -/
  entityName : PyStr
  /-- Debezium operation, or `t` for a tombstone. -/
  operation : PyStr
  /-- Read by the initial snapshot. -/
  isSnapshot : Bool
  /-- A delete or a tombstone. -/
  isDeleted : Bool
  /-- A record without value. -/
  isTombstone : Bool
  /-- The key as canonical JSON. -/
  eventKeyJson : Option PyStr
  /-- The row before the change. -/
  beforeJson : Option PyStr
  /-- The row after the change. -/
  afterJson : Option PyStr
  /-- The source block. -/
  sourceMetadataJson : Option PyStr
  /-- Log sequence number. -/
  sourceLsn : Option Int
  /-- Source transaction. -/
  sourceTxId : Option Int
  /-- Source clock. -/
  sourceTsMs : Option Int
  /-- Connector clock. -/
  connectorTsMs : Option Int
  /-- The topic. -/
  kafkaTopic : PyStr
  /-- The partition number. -/
  kafkaPartition : Int
  /-- The offset. -/
  kafkaOffset : Int
  /-- The record timestamp. -/
  kafkaMessageTsMs : Option Int
  /-- When the consumer parsed the record. -/
  ingestedAt : Instant
  /-- The date the record is filed under. -/
  eventDate : PyStr
  /-- Version of the Bronze contract. -/
  schemaVersion : PyStr
  /-- The value as received. -/
  rawEventJson : Option PyStr
deriving DecidableEq

/-- The partition an event belongs to. -/
def BronzeEvent.topicPartition (event : BronzeEvent) : TopicPartitionKey :=
  ⟨event.kafkaTopic, event.kafkaPartition⟩

/-- The identities of an event and of a batch with it can be written out. -/
structure BronzeEvent.Identified (event : BronzeEvent) : Prop where
  /-- The topic can be encoded. -/
  topic : encodable event.kafkaTopic = true
  /-- The schema version can be encoded. -/
  version : encodable event.schemaVersion = true
  /-- The partition number can be printed. -/
  partition : printable event.kafkaPartition = true
  /-- The offset can be printed. -/
  offset : printable event.kafkaOffset = true

instance (event : BronzeEvent) : Decidable event.Identified :=
  decidable_of_iff (encodable event.kafkaTopic = true ∧ encodable event.schemaVersion = true ∧
      printable event.kafkaPartition = true ∧ printable event.kafkaOffset = true)
    ⟨fun ⟨topic, version, partition, offset⟩ => ⟨topic, version, partition, offset⟩,
      fun ⟨topic, version, partition, offset⟩ => ⟨topic, version, partition, offset⟩⟩

/-- Confidential evidence of a record that could not be interpreted. -/
structure PoisonEvent where
  /-- Identity derived from the Kafka coordinates. -/
  eventId : PyStr
  /-- Why the record was refused. -/
  errorCode : PyStr
  /-- The same for a reader. -/
  errorMessage : PyStr
  /-- The topic. -/
  originalTopic : PyStr
  /-- The partition number. -/
  originalPartition : Int
  /-- The offset. -/
  originalOffset : Int
  /-- The key in base64. -/
  originalKey : Option PyStr
  /-- The value in base64. -/
  rawValue : Option PyStr
  /-- The record timestamp, or the epoch. -/
  failedAt : Instant
  /-- Attempts before this one. -/
  retryCount : Nat
  /-- Encoding of the evidence. -/
  encoding : PyStr
deriving DecidableEq

/-- The evidence as a JSON object. -/
def PoisonEvent.toDict (event : PoisonEvent) (consumerGroup : PyStr) : Json :=
  let text : Option PyStr → Json := fun value => value.elim .null .str
  .obj [("event_id", .str event.eventId), ("error_code", .str event.errorCode),
    ("error_message", .str event.errorMessage), ("original_topic", .str event.originalTopic),
    ("original_partition", .int event.originalPartition),
    ("original_offset", .int event.originalOffset), ("original_key", text event.originalKey),
    ("raw_value", text event.rawValue), ("value_encoding", .str event.encoding),
    ("failed_at", .str event.failedAt.utcIso), ("consumer_group", .str consumerGroup),
    ("retry_count", .int event.retryCount)]

/-- What a message was interpreted as. -/
inductive ParsedMessage
  | event (event : BronzeEvent)
  | heartbeat
  | poison (poison : PoisonEvent)
deriving DecidableEq

/-- The class of an interpretation. -/
def ParsedMessage.kind : ParsedMessage → ParseKind
  | .event _ => .event
  | .heartbeat => .heartbeat
  | .poison _ => .poison

/-- One immutable range of one topic-partition. -/
structure CdcBatch where
  /-- Identity derived from the range and the schema version. -/
  batchId : PyStr
  /-- The topic. -/
  topic : PyStr
  /-- The partition number. -/
  partition : Int
  /-- First offset. -/
  offsetStart : Int
  /-- Last offset. -/
  offsetEnd : Int
  /-- Source table. -/
  entityName : PyStr
  /-- The date the range is filed under. -/
  eventDate : PyStr
  /-- Version of the Bronze contract. -/
  schemaVersion : PyStr
  /-- The events in offset order. -/
  events : List BronzeEvent
deriving DecidableEq

namespace CdcBatch

/-- The offset a consumer resumes at after the batch. -/
def nextOffset (batch : CdcBatch) : Int := batch.offsetEnd + 1

/-- The number of events. -/
def recordCount (batch : CdcBatch) : Nat := batch.events.length

/-- The partition a batch belongs to. -/
def topicPartition (batch : CdcBatch) : TopicPartitionKey := ⟨batch.topic, batch.partition⟩

end CdcBatch

/-- Writing an identity out and encoding it: an integer that is too long to print and a text
with a surrogate raise. -/
def writeIdentity (numbers : List Int) (texts : List PyStr) : Except PyError Unit :=
  if numbers.all printable = false then
    .error ⟨.valueError, py "Exceeds the limit (4300 digits) for integer string conversion"⟩
  else if texts.all encodable = false then
    .error ⟨.unicodeEncodeError, py "surrogates not allowed"⟩
  else .ok ()

/-- When an identity can be written out. -/
theorem writeIdentity_ok {numbers : List Int} {texts : List PyStr} :
    writeIdentity numbers texts = .ok () ↔
      numbers.all printable = true ∧ texts.all encodable = true := by
  unfold writeIdentity
  split
  · rename_i long
    simp [long]
  · rename_i short
    rw [Bool.not_eq_false] at short
    split
    · rename_i broken
      simp [broken]
    · rename_i whole
      rw [Bool.not_eq_false] at whole
      exact iff_of_true rfl ⟨short, whole⟩

/-- `deterministic_event_id` of coordinates that can be written out. -/
def deterministicEventId (sha : Sha256) (topic : PyStr) (partition offset : Int) : PyStr :=
  sha.hexdigest (utf8 (topic ++ py ":" ++ intText partition ++ py ":" ++ intText offset))

/-- `deterministic_batch_id` of a range that can be written out. -/
def deterministicBatchId (sha : Sha256) (topic : PyStr) (partition offsetStart offsetEnd : Int)
    (schemaVersion : PyStr) : PyStr :=
  sha.hexdigest (utf8 (topic ++ py ":" ++ intText partition ++ py ":" ++ intText offsetStart ++
    py ":" ++ intText offsetEnd ++ py ":" ++ schemaVersion))

/-- The offsets `first, first + 1, …` of a range of `count`. -/
def offsetRange (first : Int) (count : Nat) : List Int :=
  (List.range count).map fun (index : Nat) => first + (index : Int)

/-- `build_batch`: order the events, then require one contiguous range of one partition,
entity, date and schema version. -/
def buildBatch (sha : Sha256) (events : List BronzeEvent) : Except PyError CdcBatch :=
  let ordered := events.insertionSort fun left right => left.kafkaOffset ≤ right.kafkaOffset
  match ordered, ordered.getLast? with
  | first :: _, some last =>
    if ordered.map (·.kafkaOffset) ≠ offsetRange first.kafkaOffset ordered.length then
      .error ⟨.valueError, py "CDC batch offsets must form one contiguous range"⟩
    else if ordered.any fun event => event.topicPartition ≠ first.topicPartition then
      .error ⟨.valueError, py "CDC batch must contain exactly one topic-partition"⟩
    else if ordered.any fun event => event.entityName ≠ first.entityName then
      .error ⟨.valueError, py "CDC batch must contain exactly one entity"⟩
    else if ordered.any fun event => event.eventDate ≠ first.eventDate then
      .error ⟨.valueError, py "CDC batch must contain exactly one event date"⟩
    else if ordered.any fun event => event.schemaVersion ≠ first.schemaVersion then
      .error ⟨.valueError, py "CDC batch must contain exactly one schema version"⟩
    else
      (writeIdentity [first.kafkaPartition, first.kafkaOffset, last.kafkaOffset]
        [first.kafkaTopic, first.schemaVersion]).map fun _ => {
        batchId := deterministicBatchId sha first.kafkaTopic first.kafkaPartition
          first.kafkaOffset last.kafkaOffset first.schemaVersion
        topic := first.kafkaTopic
        partition := first.kafkaPartition
        offsetStart := first.kafkaOffset
        offsetEnd := last.kafkaOffset
        entityName := first.entityName
        eventDate := first.eventDate
        schemaVersion := first.schemaVersion
        events := ordered }
  | _, _ => .error ⟨.valueError, py "A CDC batch requires at least one event"⟩

end Cdc
