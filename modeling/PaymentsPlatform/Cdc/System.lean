import PaymentsPlatform.Cdc.Batching
import PaymentsPlatform.Cdc.Envelope
import PaymentsPlatform.Cdc.Manifest
import PaymentsPlatform.Effects.Contract

/-!
# The system around the consumer

What the consumer process acts on: the object store, the SQLite manifest, the Kafka broker
and client, its own memory, clocks and signals. Each request of the program is one effect.
The environment chooses, for each effect, whether it fails and then whether it took place
nevertheless, what the clocks show, what the Kafka client does next, and what other writers
published in the object store since the last effect. Storage is immutable: an object is
created when its key is free and never replaced; a local object gets its metadata sidecar by a
second link.
-/

namespace Cdc

open Python Effects

/-- Object metadata after `sanitize_metadata`. -/
abbrev Metadata := List (PyStr × PyStr)

/-- What is recorded with an object: the payload of a local sidecar, or the headers of a MinIO
object. -/
structure Sidecar where
  /-- The declared digest. -/
  checksumSha256 : PyStr
  /-- The media type. -/
  contentType : PyStr
  /-- The other metadata. -/
  metadata : Metadata
deriving DecidableEq

/-- An object of the store. -/
structure StoredFile where
  /-- The bytes. -/
  data : Bytes
  /-- The record beside it; a local object exists before its sidecar does. -/
  sidecar : Option Sidecar
deriving DecidableEq

/-- The place of an object. -/
structure Location where
  /-- The bucket. -/
  bucket : PyStr
  /-- The validated object key. -/
  key : PyStr
deriving DecidableEq

/-- The two storage backends: a directory for each bucket, or MinIO with a bound on attempts. -/
inductive Backend
  | filesystem (roots : PyStr → Option PyStr)
  | minio (maxAttempts : Nat)

/-- The records of every partition, in increasing offset order. -/
structure KafkaLog where
  /-- The records of a partition. -/
  records : TopicPartitionKey → List RawKafkaMessage
  /-- A record is in the log of its own partition. -/
  placed : ∀ key, ∀ message ∈ records key, message.topicPartition = key
  /-- Offsets increase. -/
  ordered : ∀ key, (records key).Pairwise fun earlier later => earlier.offset < later.offset

/-- The settings the modelled code reads. -/
structure CdcConsumerSettings where
  /-- The consumer group. -/
  groupId : PyStr
  /-- Events of a full batch. -/
  batchSize : Nat
  /-- Age at which a queue is flushed, in microseconds. -/
  flushInterval : Int
  /-- Kafka session timeout. -/
  sessionTimeoutMs : Int
  /-- Attempts of the retry policy. -/
  maxRetries : Nat
  /-- Name of the quarantine. -/
  dlqTopic : PyStr
  /-- Bucket of Bronze objects. -/
  bronzeBucket : PyStr
  /-- Bucket of poison evidence. -/
  quarantineBucket : PyStr
  /-- Version of the Bronze contract. -/
  schemaVersion : PyStr
  /-- Batch sizes are positive. -/
  batchSize_pos : 0 < batchSize
  /-- Schema versions are safe names. -/
  schemaVersion_safe : isName 127 schemaVersion = true

/-- Everything fixed during a run: settings, backend, log, digest function and the Parquet
serialization, which is a function of the batch and the ingestion time. -/
structure Deployment where
  /-- SHA-256. -/
  sha : Sha256
  /-- The bytes `serialize_batch` writes. -/
  serializeBatch : CdcBatch → Instant → Except PyError Bytes
  /-- The storage backend. -/
  backend : Backend
  /-- The settings. -/
  settings : CdcConsumerSettings
  /-- Nested JSON containers before `RecursionError`. -/
  recursionLimit : Nat
  /-- The Kafka log. -/
  log : KafkaLog

/-- The parser of a deployment. -/
def Deployment.parser (deployment : Deployment) : ParserContext :=
  ⟨deployment.sha, deployment.recursionLimit, deployment.settings.schemaVersion,
    deployment.settings.schemaVersion_safe⟩

/-- `_Counters`. -/
structure Counters where
  /-- Records received. -/
  polled : Nat := 0
  /-- Events among them. -/
  events : Nat := 0
  /-- Poison records among them. -/
  poison : Nat := 0
  /-- Heartbeats among them. -/
  heartbeats : Nat := 0
  /-- Batches cut. -/
  batches : Nat := 0
  /-- Commits made. -/
  committed : Nat := 0
deriving DecidableEq

/-- The fields of `ReliableCdcConsumer` that change during a run. -/
structure ConsumerMemory where
  /-- `_batcher`. -/
  batcher : PartitionBatcher
  /-- `_counters`. -/
  counters : Counters
  /-- `_fatal`. -/
  fatal : Bool
  /-- `_assignment_seen`. -/
  assignmentSeen : Bool

/-- The memory of a new consumer. -/
def Deployment.newMemory (deployment : Deployment) : ConsumerMemory where
  batcher := {
    batchSize := deployment.settings.batchSize
    flushInterval := deployment.settings.flushInterval
    pending := .empty
    batchSize_pos := deployment.settings.batchSize_pos }
  counters := {}
  fatal := false
  assignmentSeen := false

/-- The state of the system. -/
structure World where
  /-- The object store. -/
  objects : Location → Option StoredFile
  /-- The manifest database. -/
  manifest : ManifestTable
  /-- The offset commits the broker accepted, the latest first. -/
  commits : List (TopicPartitionKey × Int)
  /-- The memory of the consumer process. -/
  memory : ConsumerMemory
  /-- The next offset the client fetches, for the partitions assigned to it. -/
  positions : TopicPartitionKey → Option Int
  /-- The records the client has handed to this run, the latest first. -/
  delivered : List RawKafkaMessage
  /-- `_stop`. -/
  stopSet : Bool

/-- The committed next offset of a partition. -/
def World.committed (world : World) (key : TopicPartitionKey) : Option Int :=
  (world.commits.find? fun entry => entry.1 = key).map Prod.snd

/-- An object another writer publishes; its record states its own digest, if it has one. -/
structure Publication where
  /-- Where. -/
  location : Location
  /-- The bytes. -/
  data : Bytes
  /-- Media type and metadata. -/
  sidecar : Option (PyStr × Metadata)

/-- The published object. -/
def Publication.file (sha : Sha256) (publication : Publication) : StoredFile where
  data := publication.data
  sidecar := publication.sidecar.map fun (contentType, metadata) =>
    ⟨sha.hexdigest publication.data, contentType, metadata⟩

/-- Put an object or its sidecar in its place. -/
def World.setObject (world : World) (location : Location) (file : StoredFile) : World :=
  { world with objects := Function.update world.objects location (some file) }

/-- Create an object where there is none. -/
def World.create (world : World) (location : Location) (file : StoredFile) : World :=
  if (world.objects location).isSome then world else world.setObject location file

/-- The world after other writers published objects. -/
def World.publish (sha : Sha256) (world : World) (published : List Publication) : World :=
  published.foldl (fun world publication => world.create publication.location
    (publication.file sha)) world

/-- What the Kafka client does in a poll. -/
inductive ClientEvent
  | quiet
  | deliver (key : TopicPartitionKey)
  | endOfPartition
  | failed (error : PyError)
  | assigned (keys : List TopicPartitionKey)
  | revoked (keys : List TopicPartitionKey)

/-- A failure of an effect: the exception, and whether the effect took place. -/
structure Fault where
  /-- The effect took place before the failure was noticed. -/
  applied : Bool
  /-- The exception. -/
  error : PyError

/-- A choice of the environment. -/
structure Choice where
  /-- The effect fails. -/
  fault : Option Fault := none
  /-- `datetime.now(UTC)`. -/
  clock : Instant := Instant.epoch
  /-- `time.monotonic()` in milliseconds. -/
  monotonic : Int := 0
  /-- A stop signal arrived. -/
  stop : Bool := false
  /-- The Kafka client. -/
  client : ClientEvent := .quiet
  /-- Where a partition without committed offset starts. -/
  start : TopicPartitionKey → Int := fun _ => 0
  /-- Objects of other writers. -/
  published : List Publication := []

/-- What a poll answers: nothing, a record, an error, or a rebalance to run a callback for. -/
inductive PollAnswer
  | nothing
  | message (message : RawKafkaMessage)
  | endOfPartition
  | failed (error : PyError)
  | assigned (keys : List TopicPartitionKey)
  | revoked (keys : List TopicPartitionKey)

/-- The effects of the consumer process. -/
inductive Op
  /-- Local backend: existence, sidecar, digest and size of a file. -/
  | readFile (location : Location)
  /-- Local backend: copy to a temporary file and `os.link` it to the key. -/
  | linkObject (location : Location) (data : Bytes)
  /-- Local backend: write the metadata and link it beside the object. -/
  | linkSidecar (location : Location) (sidecar : Sidecar)
  /-- MinIO `stat_object`. -/
  | statObject (location : Location)
  /-- MinIO `put_object_if_absent`. -/
  | putObjectIfAbsent (location : Location) (data : Bytes) (sidecar : Sidecar)
  /-- `serialize_batch` to a temporary file. -/
  | serialize (batch : CdcBatch) (ingestedAt : Instant)
  /-- Remove the temporary file. -/
  | unlinkTemporary
  /-- The session of `SqliteBatchManifest.register`. -/
  | registerRow (batch : CdcBatch) (consumerGroup : PyStr) (now : Instant)
  /-- The session of `SqliteBatchManifest.get`. -/
  | selectRow (batchId : PyStr)
  /-- An `UPDATE` guarded by identity and status. -/
  | updateRow (batchId : PyStr) (status : BatchStatus) (assignments : List Assignment)
  /-- The session of `SqliteBatchManifest.recoverable`. -/
  | selectRecoverable (consumerGroup : PyStr)
  /-- A synchronous Kafka offset commit. -/
  | commitOffset (key : TopicPartitionKey) (nextOffset : Int)
  /-- The broker's committed offsets. -/
  | committedOffsets (keys : List TopicPartitionKey)
  /-- Subscribe with the rebalance callbacks. -/
  | subscribe
  /-- `Consumer.poll`, up to the next record, timeout, error or rebalance. -/
  | poll
  /-- The client starts fetching partitions. -/
  | assignPartitions (keys : List TopicPartitionKey)
  /-- The client stops fetching partitions. -/
  | unassignPartitions (keys : List TopicPartitionKey)
  /-- `Consumer.close`: the partitions the revoke callback is run for. -/
  | closeConsumer
  /-- `datetime.now(UTC)`. -/
  | now
  /-- `time.monotonic()`. -/
  | monotonic
  /-- `_stop.is_set()`. -/
  | stopIsSet
  /-- Read the fields of the consumer. -/
  | load
  /-- Write the fields of the consumer. -/
  | save (memory : ConsumerMemory)

/-- What an effect answers. -/
def Op.Answer : Op → Type
  | .readFile _ => Option StoredFile
  | .statObject _ => StoredFile
  | .serialize _ _ => Bytes
  | .registerRow _ _ _ => BatchManifestRecord
  | .selectRow _ => Option BatchManifestRecord
  | .updateRow _ _ _ => Nat
  | .selectRecoverable _ => List BatchManifestRecord
  | .committedOffsets _ => List (TopicPartitionKey × Int)
  | .poll => PollAnswer
  | .closeConsumer => List TopicPartitionKey
  | .now => Instant
  | .monotonic => Int
  | .stopIsSet => Bool
  | .load => ConsumerMemory
  | _ => Unit

/-- The effects and their answers. -/
def signature : Signature := ⟨Op, Op.Answer⟩

/-- A part of the consumer program. -/
abbrev Action := Program signature PyError

/-- How an effect can fail: not at all, only without taking place, or either way. -/
inductive Faults
  | never
  | refused
  | any
deriving DecidableEq

/-- The failures of each effect. Clocks, signals, the memory of the process and the
bookkeeping of the client inside a callback do not fail; a poll or a close that raises has not
handed anything over. -/
def Op.faults : Op → Faults
  | .now | .monotonic | .stopIsSet | .load | .save _ | .assignPartitions _
  | .unassignPartitions _ => .never
  | .poll | .closeConsumer | .subscribe => .refused
  | _ => .any

/-- Kafka's `OFFSET_INVALID`, answered for a partition without committed offset. -/
def offsetInvalid : Int := -1001

/-- The next record of an assigned partition at or after its position. -/
def nextRecord (log : KafkaLog) (world : World) (key : TopicPartitionKey) :
    Option RawKafkaMessage :=
  (world.positions key).bind fun position =>
    (log.records key).find? fun message => position ≤ message.offset

/-- A poll: a record moves the position of its partition behind it; partitions are assigned
only while they are not, and revoked only while they are. -/
def pollEffect (log : KafkaLog) (client : ClientEvent) (world : World) : PollAnswer × World :=
  match client with
  | .quiet => (.nothing, world)
  | .endOfPartition => (.endOfPartition, world)
  | .failed error => (.failed error, world)
  | .assigned keys => (.assigned (keys.filter fun key => (world.positions key).isNone), world)
  | .revoked keys => (.revoked (keys.filter fun key => (world.positions key).isSome), world)
  | .deliver key =>
    match nextRecord log world key with
    | none => (.nothing, world)
    | some message =>
      (.message message,
        { world with
          positions := Function.update world.positions key (some (message.offset + 1))
          delivered := message :: world.delivered })

/-- The partitions the revoke callback is run for when the consumer closes. -/
def closeEffect (client : ClientEvent) (world : World) : List TopicPartitionKey :=
  match client with
  | .revoked keys => keys.filter fun key => (world.positions key).isSome
  | _ => []

/-- An effect that takes place. -/
def effect (deployment : Deployment) :
    (op : Op) → Choice → World → Except PyError op.Answer × World
  | .readFile location, _, world => (.ok (world.objects location), world)
  | .linkObject location data, _, world =>
    if (world.objects location).isSome then (.error ⟨.fileExistsError, py "File exists"⟩, world)
    else (.ok (), world.setObject location ⟨data, none⟩)
  | .linkSidecar location sidecar, _, world =>
    match world.objects location with
    | none => (.error ⟨.osError, py "No such file or directory"⟩, world)
    | some file =>
      if file.sidecar.isSome then (.error ⟨.fileExistsError, py "File exists"⟩, world)
      else (.ok (), world.setObject location { file with sidecar := some sidecar })
  | .statObject location, _, world =>
    match world.objects location with
    | none => (.error ⟨.s3Error "NoSuchKey", py "Object does not exist"⟩, world)
    | some file => (.ok file, world)
  | .putObjectIfAbsent location data sidecar, _, world =>
    if (world.objects location).isSome then
      (.error ⟨.s3Error "PreconditionFailed", py "Precondition failed"⟩, world)
    else (.ok (), world.setObject location ⟨data, some sidecar⟩)
  | .serialize batch ingestedAt, _, world => (deployment.serializeBatch batch ingestedAt, world)
  | .unlinkTemporary, _, world => (.ok (), world)
  | .registerRow batch consumerGroup now, _, world =>
    let (outcome, manifest) := register world.manifest batch consumerGroup now
    (outcome, { world with manifest })
  | .selectRow batchId, _, world => (.ok (world.manifest.get batchId), world)
  | .updateRow batchId status assignments, _, world =>
    let (count, manifest) := updateWhere world.manifest batchId status assignments
    (.ok count, { world with manifest })
  | .selectRecoverable consumerGroup, _, world =>
    (.ok (recoverable world.manifest consumerGroup), world)
  | .commitOffset key nextOffset, _, world =>
    (.ok (), { world with commits := (key, nextOffset) :: world.commits })
  | .committedOffsets keys, _, world =>
    (.ok (keys.map fun key => (key, (world.committed key).getD offsetInvalid)), world)
  | .subscribe, _, world => (.ok (), world)
  | .poll, choice, world =>
    let (answer, world) := pollEffect deployment.log choice.client world
    (.ok answer, world)
  | .assignPartitions keys, choice, world =>
    (.ok (), { world with positions := fun key =>
      if key ∈ keys then some ((world.committed key).getD (choice.start key))
      else world.positions key })
  | .unassignPartitions keys, _, world =>
    (.ok (), { world with positions := fun key =>
      if key ∈ keys then none else world.positions key })
  | .closeConsumer, choice, world => (.ok (closeEffect choice.client world), world)
  | .now, choice, world => (.ok choice.clock, world)
  | .monotonic, choice, world => (.ok choice.monotonic, world)
  | .stopIsSet, choice, world =>
    (.ok (world.stopSet || choice.stop), { world with stopSet := world.stopSet || choice.stop })
  | .load, _, world => (.ok world.memory, world)
  | .save memory, _, world => (.ok (), { world with memory })

/-- The machine: other writers first, then the effect or its failure. -/
def machine (deployment : Deployment) : Machine signature PyError World Choice where
  act op choice world :=
    let world := world.publish deployment.sha choice.published
    match choice.fault with
    | none => effect deployment op choice world
    | some fault =>
      match Op.faults op with
      | .never => effect deployment op choice world
      | .refused => (.error fault.error, world)
      | .any => (.error fault.error,
          if fault.applied then (effect deployment op choice world).2 else world)

end Cdc
