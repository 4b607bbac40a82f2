import PaymentsPlatform.Cdc.Consumer

/-!
# What processing leaves alone

Processing a batch, writing poison evidence and committing offsets perform no effect that writes
the fields of the consumer. The argument follows the programs: each uses the effects of its parts.
Counting is the one change of the memory outside the operations of the batcher, and it keeps the
queues (`flushBatches_rests`).
-/

namespace Cdc

open Python Effects
open Program (Uses)

/-- The effect does not write the fields of the consumer. -/
def Op.Outside (op : Op) : Prop := ∀ memory, op ≠ .save memory

/-- The program does not write the fields of the consumer. -/
def Outside {α : Type} (program : Action α) : Prop := program.Uses Op.Outside

section

variable {α : Type} {deployment : Deployment} {batchId : PyStr}

/-- One effect. -/
theorem outside_perform {op : Op} (other : op.Outside) : Outside (perform op) :=
  Uses.request other

/-- `retry_call`. -/
theorem outside_retryCall {operation : Action α} (each : Outside operation) :
    Outside (retryCall deployment operation) := Uses.retryCall each

/-- `_require`. -/
theorem outside_requireRow : Outside (requireRow batchId) := by
  refine Uses.bind (outside_perform nofun) fun found => ?_
  cases found with
  | none => trivial
  | some record => trivial

/-- `_transition`. -/
theorem outside_transition {target : BatchStatus} {updates : List Assignment} :
    Outside (transition batchId target updates) := by
  refine Uses.bind outside_requireRow fun current => ?_
  split
  · refine Uses.bind (outside_perform nofun) fun count => ?_
    split
    · exact outside_requireRow
    · trivial
  · trivial

/-- `mark_serializing`. -/
theorem outside_markSerializing : Outside (markSerializing batchId) := by
  refine Uses.bind outside_requireRow fun current => ?_
  split
  · trivial
  · exact outside_transition

/-- `mark_uploading`. -/
theorem outside_markUploading : Outside (markUploading batchId) := by
  refine Uses.bind outside_requireRow fun current => ?_
  split
  · trivial
  · exact Uses.bind (outside_perform nofun) fun now => outside_transition

/-- `mark_uploaded`. -/
theorem outside_markUploaded {checksum uri : PyStr} :
    Outside (markUploaded batchId checksum uri) := by
  unfold markUploaded
  split
  · trivial
  refine Uses.bind outside_requireRow fun current => ?_
  split
  · split
    · trivial
    · trivial
  · exact Uses.bind (outside_perform nofun) fun now => outside_transition

/-- `mark_committed`. -/
theorem outside_markCommitted : Outside (markCommitted batchId) := by
  refine Uses.bind outside_requireRow fun current => ?_
  split
  · trivial
  · exact Uses.bind (outside_perform nofun) fun now => outside_transition

/-- `note_retryable_error`. -/
theorem outside_noteRetryableError {errorCode errorMessage : PyStr} :
    Outside (noteRetryableError batchId errorCode errorMessage) :=
  Uses.bind outside_requireRow fun _ =>
    Uses.bind (outside_perform nofun) fun _ => outside_requireRow

/-- `mark_failed`. -/
theorem outside_markFailed {errorCode errorMessage : PyStr} :
    Outside (markFailed batchId errorCode errorMessage) := by
  refine Uses.bind outside_requireRow fun current => ?_
  split
  · trivial
  split
  · exact outside_noteRetryableError
  · exact outside_transition

/-- `MinioStorageBackend._retry`. -/
theorem outside_minioRetry {attempts : Nat} {name : PyStr} {allowNotFound : Bool}
    {operation : Action α} (each : Outside operation) :
    Outside (minioRetry attempts name allowNotFound operation) := by
  unfold minioRetry
  generalize attempts - 1 = left
  generalize 1 = attempt
  induction left generalizing attempt with
  | zero =>
    refine Uses.handle each fun error => ?_
    split
    · trivial
    · trivial
  | succ left ih =>
    refine Uses.handle each fun error => ?_
    split
    · trivial
    · exact ih (attempt + 1)

variable {place : Location × PyStr} {sidecar : Sidecar} {data : Bytes}

/-- `stat`. -/
theorem outside_stat : Outside (stat deployment place) := by
  unfold stat
  split
  · exact Uses.bind (outside_perform nofun) fun _ => trivial
  · refine Uses.handle (Uses.bind (outside_minioRetry (outside_perform nofun)) fun _ => trivial) ?_
    intro error
    split
    · trivial
    · trivial

/-- An object that must be there. -/
theorem outside_statPresent {missing : PyStr} :
    Outside (statPresent deployment place missing) := by
  refine Uses.bind outside_stat fun found => ?_
  cases found with
  | none => trivial
  | some stored => trivial

/-- Whether a publication found its place taken. -/
theorem outside_taken {kind : ErrorKind} {publish : Action Unit} (each : Outside publish) :
    Outside (taken kind publish) := by
  refine Uses.handle (Uses.bind each fun _ => trivial) fun error => ?_
  split
  · trivial
  · trivial

/-- `LocalStorageBackend._write_metadata`. -/
theorem outside_writeMetadata : Outside (writeMetadata place sidecar) := by
  refine Uses.bind (outside_perform nofun) fun existing => ?_
  split
  · exact Uses.ofExcept _
  · refine Uses.handle (outside_perform nofun) fun error => ?_
    split
    · refine Uses.bind (outside_perform nofun) fun existing => ?_
      split
      · exact Uses.ofExcept _
      · trivial
    · trivial

/-- `LocalStorageBackend._put`. -/
theorem outside_putLocal : Outside (putLocal deployment place data sidecar) := by
  refine Uses.bind outside_stat fun found => ?_
  cases found with
  | some existing =>
    refine Uses.bind (Uses.ofExcept _) fun _ => Uses.bind outside_writeMetadata fun _ => ?_
    exact Uses.bind outside_statPresent fun _ => trivial
  | none =>
    refine Uses.bind (outside_taken (outside_perform nofun)) fun taken => ?_
    split
    · exact Uses.bind outside_statPresent fun _ => Uses.ofExcept _
    · exact Uses.bind outside_writeMetadata fun _ => outside_statPresent

/-- `MinioStorageBackend._put`. -/
theorem outside_putMinio {attempts : Nat} :
    Outside (putMinio deployment attempts place data sidecar) := by
  refine Uses.bind outside_stat fun found => ?_
  cases found with
  | some existing => exact Uses.ofExcept _
  | none =>
    refine Uses.bind (outside_taken (outside_minioRetry (outside_perform nofun))) fun taken => ?_
    split
    · exact Uses.bind outside_statPresent fun _ => Uses.ofExcept _
    · refine Uses.bind outside_statPresent fun stored => ?_
      split
      · trivial
      · trivial

/-- The `put` of either backend. -/
theorem outside_putContent {bucket key checksum contentType : PyStr} {metadata : Metadata} :
    Outside (putContent deployment bucket key data checksum contentType metadata) := by
  refine Uses.bind (Uses.ofExcept _) fun place => ?_
  split
  · exact outside_putLocal
  · exact outside_putMinio

variable {batch : CdcBatch} {serialized : SerializedParquet} {ingestedAt : Instant}

/-- `put_batch`. -/
theorem outside_putBatch {group : PyStr} :
    Outside (putBatch deployment batch serialized group ingestedAt) := by
  refine Uses.bind (Uses.ofExcept _) fun key => ?_
  refine Uses.bind ?_ fun stored => Uses.bind (Uses.ofExcept _) fun _ => trivial
  unfold putImmutable
  split
  · trivial
  · exact outside_putContent

/-- `stat_batch`. -/
theorem outside_statBatch : Outside (statBatch deployment batch) :=
  Uses.bind (Uses.ofExcept _) fun _ => outside_stat

/-- `verify_batch`. -/
theorem outside_verifyBatch {checksum uri : PyStr} :
    Outside (verifyBatch deployment batch checksum uri) := by
  refine Uses.bind outside_statBatch fun found => ?_
  split
  · trivial
  · split
    · trivial
    · refine Uses.bind (Uses.ofExcept _) fun _ => ?_
      trivial

/-- `serialize_batch`. -/
theorem outside_serializeBatch : Outside (serializeBatch deployment batch ingestedAt) := by
  refine Uses.bind (outside_perform nofun) fun data => ?_
  trivial

/-- `KafkaOffsetCommitter.commit`. -/
theorem outside_commitNext {key : TopicPartitionKey} {next : Int} :
    Outside (commitNext key next) := by
  refine Uses.handle (outside_perform nofun) fun error => ?_
  split
  · trivial
  · trivial

/-- The upload before the temporary file exists. -/
theorem outside_prepare : Outside (prepare deployment batch) := by
  refine Uses.bind (outside_retryCall outside_markSerializing) fun _ => ?_
  refine Uses.bind (outside_perform nofun) fun found => ?_
  cases found with
  | none => trivial
  | some stable =>
    refine Uses.bind (outside_retryCall outside_statBatch) fun existing => ?_
    refine Uses.bind (Uses.ofExcept _) fun ingestedAt => ?_
    exact Uses.bind outside_serializeBatch fun _ => trivial

/-- The upload of a serialized batch. -/
theorem outside_uploadSerialized :
    Outside (uploadSerialized deployment batch serialized ingestedAt) :=
  Uses.bind (outside_retryCall outside_putBatch) fun _ => trivial

/-- The second attempt after a collision. -/
theorem outside_rebuild {collision : PyError} : Outside (rebuild deployment batch collision) := by
  refine Uses.bind outside_statBatch fun winner => ?_
  split
  · trivial
  · refine Uses.bind (Uses.ofExcept _) fun ingestedAt => ?_
    refine Uses.bind (outside_perform nofun) fun _ => ?_
    exact Uses.bind outside_serializeBatch fun _ => outside_uploadSerialized

/-- The upload while the temporary file exists. -/
theorem outside_upload : Outside (upload deployment batch serialized ingestedAt) := by
  refine Uses.bind (outside_retryCall outside_markUploading) fun _ => ?_
  refine Uses.bind (Uses.handle outside_uploadSerialized fun error => ?_) fun result => ?_
  · split
    · exact outside_rebuild
    · trivial
  · exact Uses.bind (outside_retryCall outside_markUploaded) fun _ => trivial

/-- The failure handler of the upload. -/
theorem outside_uploadFailed {error : PyError} :
    Outside (uploadFailed batch error : Action α) := by
  refine Uses.bind (outside_perform nofun) fun found => ?_
  split
  · split
    · trivial
    · refine Uses.bind outside_markFailed fun _ => ?_
      trivial
  · trivial

/-- The end of a first upload. -/
theorem outside_finish : Outside (finish deployment batch) := by
  refine Uses.bind (outside_perform nofun) fun found => ?_
  split
  · trivial
  · split
    · refine Uses.bind (Uses.handle (outside_retryCall outside_commitNext) fun error => ?_) ?_
      · exact Uses.bind outside_noteRetryableError fun _ => trivial
      · exact fun _ => Uses.bind (outside_retryCall outside_markCommitted) fun _ => trivial
    · trivial

/-- A batch that is durable. -/
theorem outside_replay {record : BatchManifestRecord} :
    Outside (replay deployment batch record) := by
  unfold replay
  split
  · refine Uses.bind (outside_retryCall outside_verifyBatch) fun _ => ?_
    refine Uses.bind (outside_retryCall outside_commitNext) fun _ => ?_
    split
    · exact Uses.bind outside_markCommitted fun _ => trivial
    · trivial
  · trivial

/-- `CdcBatchProcessor.process`. -/
theorem outside_process : Outside (process deployment batch) := by
  refine Uses.bind (outside_retryCall ?_) fun record => ?_
  · exact Uses.bind (outside_perform nofun) fun _ => outside_perform nofun
  split
  · exact outside_replay
  · refine Uses.bind ?_ fun _ => outside_finish
    refine Uses.bind (Uses.handle outside_prepare fun error => outside_uploadFailed) fun ready => ?_
    exact Uses.ensure (Uses.handle outside_upload fun error => outside_uploadFailed)
      (outside_perform nofun)

/-- `reconcile_committed_offsets`. -/
theorem outside_reconcileRows {offsets : List (TopicPartitionKey × Int)}
    (records : List BatchManifestRecord) (repaired : Nat) :
    Outside (reconcileRows offsets records repaired) := by
  induction records generalizing repaired with
  | nil => trivial
  | cons record records ih =>
    unfold reconcileRows
    split
    · exact Uses.bind outside_markCommitted fun _ => ih (repaired + 1)
    · exact ih repaired

/-- The repair on assignment. -/
theorem outside_reconcileAssigned {keys : List TopicPartitionKey} :
    Outside (reconcileAssigned deployment keys) := by
  refine Uses.bind (Uses.handle (outside_perform nofun) fun error => ?_) fun committed => ?_
  · split
    · trivial
    · trivial
  · refine Uses.bind ?_ fun _ => trivial
    exact Uses.bind (outside_perform nofun) fun records => outside_reconcileRows records 0

/-- `MinioQuarantineDlq.write`. -/
theorem outside_writePoison {event : PoisonEvent} : Outside (writePoison deployment event) :=
  Uses.bind (Uses.ofExcept _) fun _ => outside_retryCall outside_putContent

end

/-! ## The queues -/

/-- The queues are as they were. -/
def Resting (before after : World) : Prop := after.memory.batcher = before.memory.batcher

/-- `Resting` follows itself. -/
theorem resting_tracks : Tracks Resting Resting where
  refl _ := rfl
  trans one two := two.trans one
  step kept := kept

section

variable {α : Type} {deployment : Deployment} {admits : signature.Op → Choice → World → Prop}

/-- Every effect of the program leaves the queues as they are. -/
def Rests (deployment : Deployment) (admits : signature.Op → Choice → World → Prop)
    (program : Action α) : Prop :=
  ∀ world, Meets (machine deployment) (.sequential admits Resting) (fun _ _ => True)
    (fun _ _ => True) program world

/-- Effects other than writing the fields keep the memory. -/
theorem effect_memory {op : Op} (outside : op.Outside) (choice : Choice) (world : World) :
    (effect deployment op choice world).2.memory = world.memory := by
  cases op with
  | save memory => exact absurd rfl (outside memory)
  | poll =>
    simp only [effect, pollEffect]
    split <;> try rfl
    split <;> rfl
  | linkObject location data =>
    simp only [effect]
    split <;> rfl
  | linkSidecar location sidecar =>
    simp only [effect]
    split
    · rfl
    · split <;> rfl
  | statObject location =>
    simp only [effect]
    split <;> rfl
  | putObjectIfAbsent location data sidecar =>
    simp only [effect]
    split <;> rfl
  | _ => rfl

/-- An effect other than writing the fields leaves the queues. -/
theorem act_resting {op : Op} (outside : op.Outside) (choice : Choice) (world : World) :
    Resting world ((machine deployment).act op choice world).2 := by
  obtain ⟨start, published, acted⟩ := act_cases deployment op choice world
  obtain ⟨objects, rfl⟩ := published.same
  have kept : (effect deployment op choice { world with objects }).2.memory = world.memory :=
    effect_memory outside choice _
  rcases acted with took | ⟨fault, -, refused | lost⟩
  · rw [took]
    exact congrArg ConsumerMemory.batcher kept
  · rw [refused]
    rfl
  · rw [lost]
    exact congrArg ConsumerMemory.batcher kept

/-- A program that does not write the fields. -/
theorem Outside.rests {program : Action α} (outside : Outside program) :
    Rests deployment admits program :=
  Meets.of_uses outside fun _ here choice world => act_resting here choice world

/-- Sequencing. -/
theorem Rests.bind {β : Type} {program : Action α} {next : α → Action β}
    (first : Rests deployment admits program)
    (rest : ∀ value, Rests deployment admits (next value)) :
    Rests deployment admits (program.bind next) :=
  fun world => Meets.bind ((first world).mono (fun value after _ => rest value after)
    fun _ _ ends => ends)

/-- An effect that does not fail: it takes place, after publications of other writers. -/
theorem meets_sure {op : Op} (sure : op.faults = .never) {guarantee : World → World → Prop}
    {post : op.Answer → World → Prop} {error : PyError → World → Prop} {world : World}
    (each : ∀ objects choice, admits op choice world →
      guarantee world (effect deployment op choice { world with objects }).2 ∧
        ∃ answer, (effect deployment op choice { world with objects }).1 = .ok answer ∧
          post answer (effect deployment op choice { world with objects }).2) :
    Meets (machine deployment) (.sequential admits guarantee) post error (perform op) world := by
  refine Meets.request ?_
  rintro moved ⟨rfl⟩ choice admitted
  obtain ⟨objects, same⟩ :=
    (publish_published deployment.sha world choice.published).same
  have acted : (machine deployment).act op choice world =
      effect deployment op choice { world with objects } := by
    rw [← same]
    cases failed : choice.fault with
    | none =>
      simp only [machine, failed]
      rfl
    | some fault =>
      simp only [machine, failed, sure]
      rfl
  obtain ⟨kept, answer, outcome, holds⟩ := each objects choice admitted
  rw [acted]
  refine ⟨kept, ?_⟩
  rw [outcome]
  exact holds

/-- Change the counters. -/
theorem count_rests (change : Counters → Counters) : Rests deployment admits (count change) := by
  intro world
  refine Meets.bind (meets_sure rfl fun objects choice _ => ⟨rfl, world.memory, rfl, ?_⟩)
  exact meets_sure rfl fun objects' choice' _ => ⟨rfl, (), rfl, trivial⟩

/-- `_flush_batches`. -/
theorem flushBatches_rests (dryRun : Bool) (batches : List CdcBatch) :
    Rests deployment admits (flushBatches deployment dryRun batches) := by
  induction batches with
  | nil => exact fun _ => trivial
  | cons batch batches ih =>
    refine Rests.bind (count_rests _) fun _ => ?_
    split
    · exact ih
    · exact Rests.bind outside_process.rests fun _ => Rests.bind (count_rests _) fun _ => ih

/-- Commit behind a record. -/
theorem commitRecord_rests (message : RawKafkaMessage) :
    Rests deployment admits (commitRecord message) :=
  Rests.bind outside_commitNext.rests fun _ => count_rests _

end

end Cdc
