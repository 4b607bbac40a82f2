import PaymentsPlatform.Cdc.Agreement
import PaymentsPlatform.Effects.Service

/-!
# The processor as a service

Any sequence of batches and repairs, each with failures and cut off anywhere, against one
manifest, one store and one broker.
-/

namespace Cdc

open Python Effects

/-- What the processor is asked to do. -/
inductive ProcessorActivity
  | process (batch : CdcBatch)
  | reconcile (keys : List TopicPartitionKey)

/-- The processor over a deployment; a restart loses nothing but the running call. -/
def processor (deployment : Deployment) :
    Service signature PyError World Choice ProcessorActivity where
  machine := machine deployment
  code
    | .process batch => (process deployment batch).bind fun _ => .done ()
    | .reconcile keys => reconcileAssigned deployment keys
  boot _ world := world

/-- A new manifest and an empty store; the broker may already hold commits. -/
def newWorld (deployment : Deployment) (commits : List (TopicPartitionKey × Int)) : World where
  objects := fun _ => none
  manifest := .empty
  commits := commits
  memory := deployment.newMemory
  positions := fun _ => none
  delivered := []
  stopSet := false

/-- A new world is sound. -/
theorem newWorld_sound (deployment : Deployment) (fits : CdcBatch → Prop)
    (commits : List (TopicPartitionKey × Int)) :
    Sound deployment fits (newWorld deployment commits) where
  honest := fun _ _ _ found => by cases found
  ranged := fun _ _ found => by cases found
  durable := fun _ _ found => by cases found
  acknowledged := fun _ _ found => by cases found

/-- Every activity of the processor keeps the agreement. -/
theorem processor_keeps (deployment : Deployment) (events : List (Event ProcessorActivity Choice))
    (state : Program signature PyError Unit × World)
    (sound : Sound deployment (fun _ => True) state.2)
    (running : Keeps deployment (fun _ => True) (fun _ _ _ => True) (fun _ _ => True) state.1
      state.2) :
    Sound deployment (fun _ => True) ((processor deployment).run events state).2 ∧
      Later deployment (fun _ => True) state.2 ((processor deployment).run events state).2 ∧
      Keeps deployment (fun _ => True) (fun _ _ _ => True) (fun _ _ => True)
        ((processor deployment).run events state).1
        ((processor deployment).run events state).2 := by
  refine Service.keeps (processor deployment) later_tracks
    (I := Sound deployment fun _ => True) ?_ ?_ events state sound running
  · intro before after moved
    exact moved.later.sound
  · intro activity world sound
    refine ⟨sound, Later.refl world, ?_⟩
    cases activity with
    | process batch =>
      exact Keeps.seq (process_keeps sound trivial fun _ _ _ _ => trivial)
        fun _ _ _ _ => Keeps.done trivial
    | reconcile keys => exact reconcileAssigned_keeps sound keys

/-- The store holds an object with the checksum at the address. -/
def StoredAt (deployment : Deployment) (world : World) (uri checksum : PyStr) : Prop :=
  ∃ key place file, deployment.backend.locate deployment.settings.bronzeBucket key = .ok place ∧
    place.2 = uri ∧ world.objects place.1 = some file ∧
    deployment.sha.hexdigest file.data = checksum

/-- A durable row has a checksum and an address, and the object is there. -/
theorem Sound.stored {deployment : Deployment} {fits : CdcBatch → Prop} {world : World}
    (sound : Sound deployment fits world) {batchId : PyStr} {record : BatchManifestRecord}
    (found : world.manifest.get batchId = some record) (durable : record.Durable) :
    ∃ checksum uri, record.checksumSha256 = some checksum ∧ record.objectUri = some uri ∧
      StoredAt deployment world uri checksum := by
  obtain ⟨batch, checksum, uri, -, -, -, known, known', -, -, place, file, -, placed, -, address,
    present, digest⟩ := sound.durable batchId record found durable
  refine ⟨checksum, uri, known, known', ?_⟩
  unfold batchPlace at placed
  cases built : buildCdcObjectKey batch with
  | error problem =>
    rw [built] at placed
    cases placed
  | ok key =>
    rw [built] at placed
    exact ⟨key, place, file, placed, address, present, digest⟩

/-- Manifest, object store and broker agree about every row. -/
structure Agreement (deployment : Deployment) (world : World) : Prop where
  /-- An uploaded or committed row has a checksum and an address, and the store holds there an
  object with exactly that checksum. -/
  stored : ∀ batchId record, world.manifest.get batchId = some record →
    record.status = .uploaded ∨ record.status = .committed →
    ∃ checksum uri, record.checksumSha256 = some checksum ∧ record.objectUri = some uri ∧
      StoredAt deployment world uri checksum
  /-- The broker has accepted a commit at or behind the end of a committed row. -/
  acknowledged : ∀ batchId record, world.manifest.get batchId = some record →
    record.status = .committed →
    ∃ next, (record.topicPartition, next) ∈ world.commits ∧ record.offsetEnd + 1 ≤ next

/-- No row leaves `UPLOADED` except for `COMMITTED`, and none leaves `COMMITTED`. -/
structure NoFallback (before after : World) : Prop where
  /-- From `UPLOADED`. -/
  uploaded : ∀ batchId record, before.manifest.get batchId = some record →
    record.status = .uploaded → ∃ row, after.manifest.get batchId = some row ∧
      (row.status = .uploaded ∨ row.status = .committed)
  /-- From `COMMITTED`. -/
  committed : ∀ batchId record, before.manifest.get batchId = some record →
    record.status = .committed → ∃ row, after.manifest.get batchId = some row ∧
      row.status = .committed

/-- At every moment of any sequence of processed batches and repairs, with failures and crashes
around every effect, manifest, store and broker agree, and no later moment takes a durable
status back. -/
theorem manifest_store_and_broker_agree (deployment : Deployment)
    (commits : List (TopicPartitionKey × Int))
    (events later : List (Event ProcessorActivity Choice)) :
    Agreement deployment ((processor deployment).moment events (newWorld deployment commits)) ∧
      NoFallback ((processor deployment).moment events (newWorld deployment commits))
        ((processor deployment).moment (events ++ later) (newWorld deployment commits)) := by
  obtain ⟨sound, -, running⟩ := processor_keeps deployment events
    (.done (), newWorld deployment commits) (newWorld_sound deployment _ commits) trivial
  obtain ⟨-, since, -⟩ := processor_keeps deployment later _ sound running
  unfold Service.moment
  rw [Service.run_append]
  refine ⟨⟨?_, sound.acknowledged⟩, ?_, ?_⟩
  · intro batchId record found durable
    exact sound.stored found durable
  · intro batchId record found uploaded
    obtain ⟨row, present, kept⟩ := since.advances.rows batchId record found
    exact ⟨row, present, kept.uploaded uploaded⟩
  · intro batchId record found committed
    obtain ⟨row, present, kept⟩ := since.advances.rows batchId record found
    exact ⟨row, present, kept.committed committed⟩

/-! ## A concrete deployment -/

/-- No records. -/
def KafkaLog.empty : KafkaLog where
  records := fun _ => []
  placed := fun _ _ member => (by cases member)
  ordered := fun _ => List.Pairwise.nil

/-- A consumer with local storage under `/data` and a serialization that writes the offsets and
the ingestion time. -/
def localDeployment (log : KafkaLog) : Deployment where
  sha := sha256
  serializeBatch := fun batch ingestedAt => .ok (utf8 (intText batch.offsetStart ++ py "-" ++
    intText batch.offsetEnd ++ py "@" ++ ingestedAt.utcIso))
  backend := .filesystem fun bucket => some (py "/data/" ++ bucket)
  settings := {
    groupId := "payments-cdc"
    batchSize := 2
    flushInterval := 5000000
    sessionTimeoutMs := 45000
    maxRetries := 3
    dlqTopic := "payments.dlq"
    bronzeBucket := "bronze"
    quarantineBucket := "quarantine"
    schemaVersion := "1"
    batchSize_pos := by decide
    schemaVersion_safe := by decide }
  recursionLimit := 1000
  log := log

end Cdc
