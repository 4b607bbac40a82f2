import PaymentsPlatform.Settlement.Redelivery

/-!
# Resuming interrupted ingestion

Attempts on one file that are cut off before the row is settled leave a row in any open status,
objects of the same content in Bronze, and quarantine objects under the identifiers of their
runs. None of it stands in the way of another attempt: a calm one settles the row with the
status, the counts and the code that the content and the mode determine, as if nothing had been
there.
-/

namespace Settlement

open Python Effects
open Cdc (Location StoredFile Metadata)

variable {deployment : Deployment}

/-! ## What interrupted attempts leave -/

/-- The policy of attempts on one content, which is counted if it is valid. -/
def Policy.onContent (deployment : Deployment) (partnerId checksum : PyStr)
    (issued : PyStr → Prop) (valid : Prop) : Policy deployment where
  delivered := fun _ => True
  same := fun _ _ => True
  same_refl := fun _ => trivial
  clear := fun _ _ _ => True
  permitted := fun _ _ _ => True
  issued := issued
  owned := fun partner content => partner = partnerId ∧ content = checksum
  counted := fun _ _ => valid
  clear_bronze := fun _ _ _ _ _ _ => trivial

/-- A quarantine key names the run. -/
def NamesRun (key runId : PyStr) : Prop :=
  (splitChar 47 key)[3]? = some (py "ingestion_run_id=" ++ runId)

/-- A Bronze key names the content. -/
def NamesContent (key checksum : PyStr) : Prop :=
  (splitChar 47 key)[4]? = some (py "checksum=" ++ checksum)

/-- What attempts on one content leave. -/
structure Leaves (deployment : Deployment) (partnerId checksum : PyStr) (issued : PyStr → Prop)
    (valid : Prop) (world : World) : Prop where
  /-- Every row is of this content. -/
  rows : ∀ row, Current row world → row.partnerId = partnerId ∧ row.checksumSha256 = checksum
  /-- Rows are counted only if the content is valid. -/
  counts : ∀ row, Current row world → ¬ valid → row.acceptedCount = 0 ∧ row.rejectedCount = 0
  /-- Bronze holds this content only. -/
  bronze : ∀ key file, world.objects ⟨deployment.bronzeBucket, key⟩ = some file →
    deployment.sha.hexdigest file.data = checksum
  /-- A quarantine object is of a run that was issued. -/
  quarantine : ∀ key file, world.objects ⟨deployment.quarantineBucket, key⟩ = some file →
    ∃ runId, issued runId ∧ NamesRun key runId

section

variable {partnerId checksum : PyStr} {issued : PyStr → Prop} {valid : Prop}

/-- Nothing is left at first. -/
theorem empty_leaves : Leaves deployment partnerId checksum issued valid World.empty where
  rows := fun _ current => by cases current
  counts := fun _ current => by cases current
  bronze := fun _ _ present => by cases present
  quarantine := fun _ _ present => by cases present

/-- A step of an attempt on the content. -/
theorem Policy.Step.leaves {before after : World}
    (step : (Policy.onContent deployment partnerId checksum issued valid).Step before after)
    (leaves : Leaves deployment partnerId checksum issued valid before) :
    Leaves deployment partnerId checksum issued valid after := by
  cases step with
  | stay same => exact same ▸ leaves
  | registered discovery owned absent same =>
    subst same
    refine ⟨?_, ?_, leaves.bronze, leaves.quarantine⟩
    · intro row present
      obtain rfl | before := current_insert present
      · exact owned
      · exact leaves.rows row before
    · intro row present invalid
      obtain rfl | before := current_insert present
      · exact ⟨rfl, rfl⟩
      · exact leaves.counts row before invalid
  | moved row updated current permitted file counts processed quarantined same =>
    subst same
    refine ⟨?_, ?_, leaves.bronze, leaves.quarantine⟩
    · intro other present
      obtain rfl | ⟨before, -⟩ := current_put file present
      · rw [file.partnerId, file.checksumSha256]
        exact leaves.rows row current
      · exact leaves.rows other before
    · intro other present invalid
      obtain rfl | ⟨before, -⟩ := current_put file present
      · obtain ⟨accepted, rejected⟩ | counted := counts
        · rw [accepted, rejected]
          exact leaves.counts row current invalid
        · exact absurd counted invalid
      · exact leaves.counts other before invalid
  | stored location file kept published filed same =>
    subst same
    refine ⟨leaves.rows, leaves.counts, ?_, ?_⟩
    · intro key stored present
      obtain ⟨rfl, rfl⟩ | before' := setObject_cases present
      · cases held : before.objects ⟨deployment.bronzeBucket, key⟩ with
        | none =>
          obtain ⟨⟨row, current, -, -, digest⟩, -⟩ := published rfl held
          rw [digest]
          exact (leaves.rows row current).2
        | some old =>
          rw [← kept old held]
          exact leaves.bronze key old held
      · exact leaves.bronze key stored before'
    · intro key stored present
      obtain ⟨rfl, rfl⟩ | before' := setObject_cases present
      · cases held : before.objects ⟨deployment.quarantineBucket, key⟩ with
        | none => exact filed rfl held
        | some old => exact leaves.quarantine key old held
      · exact leaves.quarantine key stored before'

end

/-! ## Effects that take place -/

section

variable {runIds : PyStr → Prop} {error : PyError → World → Prop}

/-- A computation without effects that succeeds. -/
theorem Works.ofExcept {α : Type} {outcome : Except PyError α} {value : α} {world : World}
    (succeeds : outcome = .ok value) :
    Works deployment runIds (fun answer end' => answer = value ∧ end' = world) error
      (Program.ofExcept outcome) world := by
  rw [succeeds]
  exact ⟨rfl, rfl⟩

/-- A permitted transition of a row that is in the manifest. -/
theorem transition_works {row : ManifestRecord} {status : ManifestStatus}
    {updates : List Assignment} {world : World} (current : Current row world)
    (permitted : row.status.allowed status = true) :
    Works deployment runIds (fun answer end' => answer = row.assign status updates ∧
      Current answer end' ∧ end'.objects = world.objects) error
      (perform (.transition row.fileId status updates)) world := by
  refine Works.perform fun choice _ => Or.inl ?_
  have moves : transition world.manifest row.fileId status updates =
      (.ok (row.assign status updates), world.manifest.put (row.assign status updates)) := by
    unfold transition
    unfold Current at current
    rw [current]
    dsimp only
    rw [if_pos permitted]
  simp only [effect, moves]
  refine ⟨_, rfl, rfl, ?_, trivial⟩
  unfold Current
  rw [Relational.Table.get_put, if_pos rfl]

/-- An upload to a place that is free or has the declared content. -/
theorem put_works {place : Location × PyStr} {data : Bytes} {sidecar : Cdc.Sidecar}
    {world : World} (fits : ∀ file, world.objects place.1 = some file →
      deployment.sha.hexdigest file.data = sidecar.checksumSha256) :
    Works deployment runIds (fun _ end' => end'.manifest = world.manifest ∧
      ∀ location, location ≠ place.1 → end'.objects location = world.objects location) error
      (perform (.put place data sidecar)) world := by
  refine Works.perform fun choice _ => Or.inl ?_
  simp only [effect, putEffect]
  cases held : world.objects place.1 with
  | none => exact ⟨(), rfl, rfl, fun _ other => Function.update_of_ne other ..⟩
  | some existing =>
    dsimp only
    rw [if_pos (fits existing held)]
    exact ⟨(), rfl, rfl, fun _ other => Function.update_of_ne other ..⟩

/-- Both buckets are there. -/
def Deployment.Reachable (deployment : Deployment) : Prop :=
  ∀ bucket ∈ [deployment.bronzeBucket, deployment.quarantineBucket], ∀ key valid,
    Cdc.validateObjectKey key = .ok valid →
    ∃ place, deployment.backend.locate bucket key = .ok place

/-- A key of plain segments has a place. -/
theorem Deployment.Reachable.located (reachable : deployment.Reachable) (bucket : PyStr)
    (parts : List PyStr) (known : bucket ∈ [deployment.bronzeBucket, deployment.quarantineBucket])
    (some_part : parts ≠ []) (plain : ∀ part ∈ parts, PlainSegment part) :
    ∃ place, deployment.backend.locate bucket (List.intercalate [47] parts) = .ok place := by
  refine reachable bucket known _ _ (Cdc.validateObjectKey_accepts some_part
    (fun part member => (plain part member).toIsSegment) ?_
    fun part member => (plain part member).posix)
  intro dots
  exact (plain _ dots).inside rfl

/-- The upload of content under a key that has a place. -/
theorem putContent_works {bucket key contentType : PyStr} {data : Bytes} {checksum : PyStr}
    {metadata : Metadata} {world : World} {place : Location × PyStr}
    (located : deployment.backend.locate bucket key = .ok place)
    (fits : ∀ file, world.objects place.1 = some file →
      deployment.sha.hexdigest file.data = checksum) :
    Works deployment runIds (fun _ end' => end'.manifest = world.manifest ∧
      ∀ location, location ≠ place.1 → end'.objects location = world.objects location) error
      (putContent deployment bucket key data checksum contentType metadata) world := by
  refine Works.seq (Works.ofExcept located) ?_
  rintro _ world ⟨rfl, rfl⟩
  exact Works.seq (put_works fits) fun _ _ ends => ends

/-- The quarantine key of a run that can be part of one. -/
theorem buildQuarantineObjectKey_accepts {partnerId runId fileName : PyStr}
    (settlementDate : Option Date) (partner : isPartitionValue partnerId = true)
    (run : isPartitionValue runId = true) (named : PlainSegment fileName) :
    buildQuarantineObjectKey partnerId settlementDate runId fileName =
      .ok (List.intercalate [47] (quarantineSegments partnerId settlementDate runId fileName)) := by
  unfold buildQuarantineObjectKey validatePartitionValue
  simp only [if_pos partner, if_pos run, safeFileName_accepts named.toIsSegment named.posix, bind,
    Except.bind, pure, Except.pure, quarantineKey_segments]

/-- The Bronze key of a partner that can be part of one. -/
theorem buildBronzeObjectKey_accepts {partnerId checksum fileName : PyStr}
    (settlementDate ingestionDate : Date) (partner : isPartitionValue partnerId = true)
    (digest : isChecksum checksum = true) (named : PlainSegment fileName) :
    buildBronzeObjectKey partnerId settlementDate ingestionDate checksum fileName =
      .ok (List.intercalate [47]
        (bronzeSegments partnerId settlementDate ingestionDate checksum fileName)) := by
  unfold buildBronzeObjectKey validatePartitionValue
  simp only [if_pos partner, if_pos digest, safeFileName_accepts named.toIsSegment named.posix,
    bind, Except.bind, pure, Except.pure, bronzeKey_segments]

/-- Quarantine is free for a file of the run. -/
def FreeFor (deployment : Deployment) (runId fileName : PyStr) (world : World) : Prop :=
  ∀ key, NamesRun key runId → (splitChar 47 key)[4]? = some fileName →
    world.objects ⟨deployment.quarantineBucket, key⟩ = none

/-- Where a quarantine object goes: its key names the run and the file. -/
theorem quarantine_located (reachable : deployment.Reachable) {partnerId runId fileName : PyStr}
    (settlementDate : Option Date) (partner : isPartitionValue partnerId = true)
    (run : isPartitionValue runId = true) (named : PlainSegment fileName) :
    ∃ key place, buildQuarantineObjectKey partnerId settlementDate runId fileName = .ok key ∧
      deployment.backend.locate deployment.quarantineBucket key = .ok place ∧
      place.1.bucket = deployment.quarantineBucket ∧ NamesRun place.1.key runId ∧
      (splitChar 47 place.1.key)[4]? = some fileName := by
  have built := buildQuarantineObjectKey_accepts settlementDate partner run named
  have plain : ∀ part ∈ quarantineSegments partnerId settlementDate runId fileName,
      PlainSegment part := by
    intro part member
    obtain rfl | plain := quarantineSegments_valid settlementDate partner run part member
    · exact named
    · exact plain
  obtain ⟨place, located⟩ := reachable.located deployment.quarantineBucket _ (by simp)
    (by simp [quarantineSegments]) plain
  obtain ⟨bucket, segments⟩ := quarantinePlace built located
  refine ⟨_, place, built, located, bucket, ?_, ?_⟩
  · unfold NamesRun
    rw [segments]
    rfl
  · rw [segments]
    rfl

/-- `quarantine_file` under a run that has no object of the file: other files stay free. -/
theorem quarantineFile_works {source : SourceFile} {partnerId runId : PyStr}
    {settlementDate : Option Date} {metadata : Metadata} {world : World}
    (reachable : deployment.Reachable) (partner : isPartitionValue partnerId = true)
    (run : isPartitionValue runId = true) (named : PlainSegment source.name)
    (free : FreeFor deployment runId source.name world) :
    Works deployment runIds (fun _ end' => end'.manifest = world.manifest ∧
      ∀ other, other ≠ source.name → FreeFor deployment runId other world →
        FreeFor deployment runId other end') error
      (quarantineFile deployment source partnerId settlementDate runId
        (deployment.sha.hexdigest source.data) metadata) world := by
  obtain ⟨key, place, built, located, bucket, names, last⟩ :=
    quarantine_located reachable settlementDate partner run named
  refine Works.seq (Works.ofExcept built) ?_
  rintro _ world ⟨rfl, rfl⟩
  unfold putImmutable
  rw [if_neg (not_not.mpr rfl)]
  have absent : world.objects place.1 = none := by
    have here := free place.1.key names last
    rw [← bucket] at here
    exact here
  refine (putContent_works located fun file present => ?_).mono ?_ fun _ _ ends => ends
  · rw [absent] at present
    cases present
  · rintro uri end' ⟨manifest, others⟩
    refine ⟨manifest, fun other different free' key' names' last' => ?_⟩
    rw [others _ ?_]
    · exact free' key' names' last'
    · intro same
      rw [← same] at last
      exact different (Option.some.inj (last'.symm.trans last))

/-- `write_rejected_records` under a run that has no listing of the file. -/
theorem writeRejectedRecords_works {records : List RejectedRecord}
    {sourceFileName partnerId runId : PyStr} {settlementDate : Date} {metadata : Metadata}
    {world : World} (reachable : deployment.Reachable)
    (partner : isPartitionValue partnerId = true) (run : isPartitionValue runId = true)
    (named : PlainSegment (sourceFileName ++ py ".rejected.jsonl"))
    (free : FreeFor deployment runId (sourceFileName ++ py ".rejected.jsonl") world) :
    Works deployment runIds (fun _ end' => end'.manifest = world.manifest) error
      (writeRejectedRecords deployment records sourceFileName partnerId settlementDate runId
        metadata) world := by
  obtain ⟨key, place, built, located, bucket, names, last⟩ :=
    quarantine_located reachable (some settlementDate) partner run named
  refine Works.seq (Works.ofExcept built) ?_
  rintro _ world ⟨rfl, rfl⟩
  have absent : world.objects place.1 = none := by
    have here := free place.1.key names last
    rw [← bucket] at here
    exact here
  refine (putContent_works located fun file present => ?_).mono (fun _ _ ends => ends.1)
    fun _ _ ends => ends
  rw [absent] at present
  cases present

/-- `copy_to_bronze` while the objects of Bronze that name the content have it. -/
theorem copyToBronze_works {source : SourceFile} {partnerId : PyStr}
    {settlementDate ingestionDate : Date} {metadata : Metadata} {world : World}
    (reachable : deployment.Reachable) (partner : isPartitionValue partnerId = true)
    (named : PlainSegment source.name)
    (holds : ∀ key file, NamesContent key (deployment.sha.hexdigest source.data) →
      world.objects ⟨deployment.bronzeBucket, key⟩ = some file →
      deployment.sha.hexdigest file.data = deployment.sha.hexdigest source.data) :
    Works deployment runIds (fun _ end' => end'.manifest = world.manifest ∧
      ∀ key, end'.objects ⟨deployment.quarantineBucket, key⟩ =
        world.objects ⟨deployment.quarantineBucket, key⟩) error
      (copyToBronze deployment source partnerId settlementDate ingestionDate
        (deployment.sha.hexdigest source.data) metadata) world := by
  have digest := deployment.sha_hexadecimal source.data
  have built := buildBronzeObjectKey_accepts settlementDate ingestionDate partner digest named
  have plain : ∀ part ∈ bronzeSegments partnerId settlementDate ingestionDate
      (deployment.sha.hexdigest source.data) source.name, PlainSegment part := by
    intro part member
    obtain rfl | plain := bronzeSegments_valid settlementDate ingestionDate partner digest part
      member
    · exact named
    · exact plain
  obtain ⟨place, located⟩ := reachable.located deployment.bronzeBucket _ (by simp)
    (by simp [bronzeSegments]) plain
  obtain ⟨bucket, segments⟩ := bronzePlace built located
  refine Works.seq (Works.ofExcept built) ?_
  rintro _ world ⟨rfl, rfl⟩
  unfold putImmutable
  rw [if_neg (not_not.mpr rfl)]
  refine (putContent_works located fun file present => ?_).mono ?_ fun _ _ ends => ends
  · refine holds place.1.key file ?_ ?_
    · unfold NamesContent
      rw [segments]
      rfl
    · rw [← bucket]
      exact present
  · rintro uri end' ⟨manifest, others⟩
    refine ⟨manifest, fun key => others _ ?_⟩
    intro same
    rw [← same] at bucket
    exact deployment.buckets_differ bucket.symm

/-- The listing of rejected rows under a run that has none. -/
theorem listRejected_works {attempt : Attempt} {validation : FileValidationResult}
    {metadata : Metadata} {world : World} (reachable : deployment.Reachable)
    (partner : isPartitionValue attempt.filename.partnerId = true)
    (run : isPartitionValue attempt.runId = true)
    (named : PlainSegment (attempt.file.name ++ py ".rejected.jsonl"))
    (free : FreeFor deployment attempt.runId (attempt.file.name ++ py ".rejected.jsonl") world) :
    Works deployment runIds (fun _ end' => end'.manifest = world.manifest) error
      (listRejected deployment attempt validation metadata) world := by
  unfold listRejected
  split
  · rfl
  · exact Works.seq (writeRejectedRecords_works reachable partner run named free)
      fun _ _ ends => ends

/-- The metadata of an upload. -/
theorem storageMetadata_works (file : SourceFile) (partnerId checksum runId : PyStr)
    (validation : Option FileValidationResult) (now : Instant) (world : World) :
    Works deployment runIds (fun _ end' => end' = world) error
      (storageMetadata deployment file partnerId checksum runId validation now) world :=
  Works.seq (sizeSource_works file world) fun _ _ ends => ends.2

/-- The validation of a file that can be opened. -/
theorem validate_works {file : SourceFile} {filename : FilenameMetadata} {now : Instant}
    {runId : PyStr} {validation : FileValidationResult} (world : World)
    (judged : validateSettlementFile deployment.contract filename ⟨file.name, now, runId⟩
      file.data = .ok validation) :
    Works deployment runIds (fun answer end' => answer = validation ∧ end' = world) error
      (validate deployment file filename now runId) world := by
  refine Works.seq (M := fun outcome end' => outcome = .ok file.data ∧ end' = world) ?_ ?_
  · exact Meets.outcome (Works.perform fun _ _ => Or.inl ⟨_, rfl, rfl, rfl⟩)
  rintro outcome world ⟨rfl, rfl⟩
  dsimp only
  rw [judged]
  exact ⟨rfl, rfl⟩

end

/-! ## The outcome of a calm attempt -/

/-- What an attempt decides: the status, the counts and the code of the problem. -/
structure Verdict where
  /-- The lifecycle. -/
  status : ManifestStatus
  /-- The rows of the file. -/
  recordCount : Nat
  /-- The valid ones. -/
  acceptedCount : Nat
  /-- The others. -/
  rejectedCount : Nat
  /-- The code of the problem. -/
  errorCode : Option PyStr
deriving DecidableEq

/-- What a row says. -/
def ManifestRecord.verdict (row : ManifestRecord) : Verdict :=
  ⟨row.status, row.recordCount, row.acceptedCount, row.rejectedCount, row.errorCode⟩

/-- What a result says. -/
def ProcessingResult.verdict (result : ProcessingResult) : Verdict :=
  ⟨result.status, result.recordCount, result.acceptedCount, result.rejectedCount,
    result.errorCode⟩

/-- What the validation of a file leads to. -/
def FileValidationResult.verdict (strict : Bool) (validation : FileValidationResult) : Verdict :=
  if ¬ validation.fileIsValid then
    ⟨.quarantined, validation.recordCount, 0, 0, validation.fileIssues.head?.map (·.code)⟩
  else if validation.rejectedRecords ≠ [] ∧ strict then
    ⟨.quarantined, validation.recordCount, validation.acceptedRecords.length,
      validation.rejectedRecords.length, some "REJECTED_RECORDS_PRESENT"⟩
  else ⟨.processed, validation.recordCount, validation.acceptedRecords.length,
    validation.rejectedRecords.length, none⟩

/-- The verdict is settled. -/
theorem FileValidationResult.verdict_terminal (strict : Bool) (validation : FileValidationResult) :
    (validation.verdict strict).status.terminal := by
  unfold FileValidationResult.verdict
  split
  · exact Or.inr rfl
  · split
    · exact Or.inr rfl
    · exact Or.inl rfl

/-- It is the same in every attempt. -/
theorem FileValidationResult.verdict_relabel (strict : Bool) (context : RejectionContext)
    (validation : FileValidationResult) :
    (validation.relabel context).verdict strict = validation.verdict strict := by
  simp [FileValidationResult.verdict, FileValidationResult.relabel,
    FileValidationResult.fileIsValid]

/-- The attempt returned the verdict, and the row of the content has it. -/
def Settles (partnerId checksum : PyStr) (verdict : Verdict) (result : ProcessingResult)
    (world : World) : Prop :=
  result.verdict = verdict ∧
    ∃ row, world.manifest.lookup partnerId checksum = some row ∧ row.verdict = verdict

/-- What a calm attempt needs of the world, besides the row. -/
structure Ready (deployment : Deployment) (attempt : Attempt) (world : World) : Prop where
  /-- The digest is the one of the file. -/
  content : attempt.checksum = deployment.sha.hexdigest attempt.file.data
  /-- The partner can be part of a key. -/
  partner : isPartitionValue attempt.filename.partnerId = true
  /-- The run can be part of a key. -/
  run : isPartitionValue attempt.runId = true
  /-- The name is one segment. -/
  named : PlainSegment attempt.file.name
  /-- The name of the listing is one segment. -/
  listing : PlainSegment (attempt.file.name ++ py ".rejected.jsonl")
  /-- The objects of Bronze that name the content have it. -/
  bronze : ∀ key file, NamesContent key (deployment.sha.hexdigest attempt.file.data) →
    world.objects ⟨deployment.bronzeBucket, key⟩ = some file →
    deployment.sha.hexdigest file.data = deployment.sha.hexdigest attempt.file.data
  /-- The run has no object in quarantine. -/
  free : ∀ fileName, FreeFor deployment attempt.runId fileName world

section

variable {runIds : PyStr → Prop} {error : PyError → World → Prop}

/-- The store is as it was. -/
theorem Ready.same {attempt : Attempt} {before after : World}
    (ready : Ready deployment attempt before) (objects : after.objects = before.objects) :
    Ready deployment attempt after where
  content := ready.content
  partner := ready.partner
  run := ready.run
  named := ready.named
  listing := ready.listing
  bronze := by
    rw [objects]
    exact ready.bronze
  free := by
    unfold FreeFor
    rw [objects]
    exact ready.free

/-- The last transition of an attempt. -/
theorem settle_works {row : ManifestRecord} {file : SourceFile} {partnerId fileName : PyStr}
    {status : ManifestStatus} {updates : List Assignment} {kind : DuplicateKind}
    {verdict : Verdict} {world : World}
    (stands : Policy.Stands deployment row file partnerId world)
    (permitted : row.status.allowed status = true)
    (decided : (row.assign status updates).verdict = verdict) :
    Works deployment runIds
      (Settles partnerId (deployment.sha.hexdigest file.data) verdict) error
      ((perform (.transition row.fileId status updates)).bind fun record =>
        .done (resultFromManifest record kind fileName false)) world := by
  refine Works.seq (transition_works stands.current permitted) ?_
  rintro updated end' ⟨rfl, current, -⟩
  obtain ⟨same, -⟩ := row.assign_same status updates
  refine ⟨decided, _, ManifestTable.lookup_eq_some.mpr ⟨current, ?_, ?_⟩, decided⟩
  · rw [same.partnerId, stands.partner]
  · rw [same.checksumSha256, stands.content]

/-- A transition on the way. -/
theorem transition_stands_works {row : ManifestRecord} {file : SourceFile} {partnerId : PyStr}
    {status : ManifestStatus} {updates : List Assignment} {world : World}
    (stands : Policy.Stands deployment row file partnerId world)
    (permitted : row.status.allowed status = true) :
    Works deployment runIds (fun answer end' => answer = row.assign status updates ∧
      Policy.Stands deployment answer file partnerId end' ∧ end'.objects = world.objects) error
      (perform (.transition row.fileId status updates)) world := by
  refine (transition_works stands.current permitted).mono ?_ fun _ _ ends => ends
  rintro updated end' ⟨rfl, current, objects⟩
  obtain ⟨same, -⟩ := row.assign_same status updates
  exact ⟨rfl, ⟨current, same.partnerId.trans stands.partner,
    same.checksumSha256.trans stands.content⟩, objects⟩

/-- While the manifest is as it was, the row stands. -/
theorem stands_same {row : ManifestRecord} {file : SourceFile} {partnerId : PyStr}
    {before after : World} (stands : Policy.Stands deployment row file partnerId before)
    (manifest : after.manifest = before.manifest) :
    Policy.Stands deployment row file partnerId after := by
  refine ⟨?_, stands.partner, stands.content⟩
  unfold Current
  rw [manifest]
  exact stands.current

/-- A body that does not fail needs no handler. -/
theorem Works.handled {α : Type} {post : α → World → Prop} {program : Action α}
    {handler : PyError → Action α} {world : World}
    (works : Works deployment runIds post (fun _ _ => False) program world) :
    Works deployment runIds post error (program.handle handler) world :=
  Meets.handle (works.mono (fun _ _ ends => ends) fun _ _ no => no.elim)

/-- `_quarantine_invalid_file`. -/
theorem quarantineInvalidFile_works {attempt : Attempt} {record : ManifestRecord}
    {validation : FileValidationResult} {metadata : Metadata} {world : World} {strict : Bool}
    (reachable : deployment.Reachable) (ready : Ready deployment attempt world)
    (stands : Policy.Stands deployment record attempt.file attempt.filename.partnerId world)
    (running : record.ingestionRunId = attempt.runId) (validating : record.status = .validating)
    (invalid : ¬ validation.fileIsValid)
    (uncounted : record.acceptedCount = 0 ∧ record.rejectedCount = 0) :
    Works deployment runIds (Settles attempt.filename.partnerId
      (deployment.sha.hexdigest attempt.file.data) (validation.verdict strict)) error
      (quarantineInvalidFile deployment attempt record validation metadata) world := by
  refine Works.handled ?_
  rw [running, ready.content]
  refine Works.seq (quarantineFile_works reachable ready.partner ready.run ready.named
    (ready.free _)) ?_
  rintro uri end' ⟨manifest, -⟩
  refine settle_works (stands_same stands manifest) (by rw [validating]; rfl) ?_
  rw [FileValidationResult.verdict, if_pos invalid]
  simp only [ManifestRecord.verdict, ManifestRecord.assign, List.foldl, Assignment.apply,
    uncounted.1, uncounted.2]

/-- `_quarantine_strict_file`. -/
theorem quarantineStrictFile_works {attempt : Attempt} {record : ManifestRecord}
    {validation : FileValidationResult} {metadata : Metadata} {world : World} {strict : Bool}
    (reachable : deployment.Reachable) (ready : Ready deployment attempt world)
    (stands : Policy.Stands deployment record attempt.file attempt.filename.partnerId world)
    (running : record.ingestionRunId = attempt.runId) (validated : record.status = .validated)
    (valid : validation.fileIsValid = true)
    (strictly : validation.rejectedRecords ≠ [] ∧ strict = true)
    (counted : record.recordCount = validation.recordCount ∧
      record.acceptedCount = validation.acceptedRecords.length ∧
      record.rejectedCount = validation.rejectedRecords.length) :
    Works deployment runIds (Settles attempt.filename.partnerId
      (deployment.sha.hexdigest attempt.file.data) (validation.verdict strict)) error
      (quarantineStrictFile deployment attempt record validation metadata) world := by
  refine Works.handled ?_
  rw [running, ready.content]
  refine Works.seq (quarantineFile_works reachable ready.partner ready.run ready.named
    (ready.free _)) ?_
  rintro uri end' ⟨manifest, others⟩
  have longer : attempt.file.name ++ py ".rejected.jsonl" ≠ attempt.file.name := by
    intro same
    have empty := List.append_right_eq_self.mp same
    revert empty
    decide
  refine Works.seq (writeRejectedRecords_works reachable ready.partner ready.run ready.listing
    (others _ longer (ready.free _))) ?_
  intro listing end'' manifest'
  refine settle_works (stands_same (stands_same stands manifest) manifest')
    (by rw [validated]; rfl) ?_
  rw [FileValidationResult.verdict, if_neg (not_not.mpr valid), if_pos strictly]
  simp only [ManifestRecord.verdict, ManifestRecord.assign, List.foldl, Assignment.apply,
    counted.1, counted.2.1, counted.2.2]

/-- The uploads and the transition to `PROCESSED`. -/
theorem processFile_works {attempt : Attempt} {record : ManifestRecord}
    {validation : FileValidationResult} {metadata : Metadata} {world : World} {strict : Bool}
    (reachable : deployment.Reachable) (ready : Ready deployment attempt world)
    (stands : Policy.Stands deployment record attempt.file attempt.filename.partnerId world)
    (processing : record.status = .processing) (clean : record.errorCode = none)
    (valid : validation.fileIsValid = true)
    (leniently : ¬ (validation.rejectedRecords ≠ [] ∧ strict = true))
    (counted : record.recordCount = validation.recordCount ∧
      record.acceptedCount = validation.acceptedRecords.length ∧
      record.rejectedCount = validation.rejectedRecords.length) :
    Works deployment runIds (Settles attempt.filename.partnerId
      (deployment.sha.hexdigest attempt.file.data) (validation.verdict strict)) error
      (processFile deployment attempt record validation metadata) world := by
  refine Works.handled ?_
  rw [ready.content]
  refine Works.seq (copyToBronze_works reachable ready.partner ready.named ready.bronze) ?_
  rintro bronzePath end' ⟨manifest, others⟩
  refine Works.seq (listRejected_works reachable ready.partner ready.run ready.listing ?_) ?_
  · intro key names last
    rw [others]
    exact ready.free _ key names last
  intro quarantinePath end'' manifest'
  refine settle_works (stands_same (stands_same stands manifest) manifest')
    (by rw [processing]; rfl) ?_
  rw [FileValidationResult.verdict, if_neg (not_not.mpr valid), if_neg leniently]
  simp only [ManifestRecord.verdict, ManifestRecord.assign, List.foldl, Assignment.apply,
    counted.1, counted.2.1, counted.2.2, clean]

/-- Validation may start from every open status. -/
theorem ManifestStatus.allowed_validating {status : ManifestStatus} (open' : ¬ status.terminal) :
    status.allowed .validating = true := by
  cases status with
  | processed => exact absurd (Or.inl rfl) open'
  | quarantined => exact absurd (Or.inr rfl) open'
  | _ => rfl

/-- `ingest_file` from the transition to `VALIDATING` on. -/
theorem settleFile_works {strict : Bool} {attempt : Attempt} {record : ManifestRecord}
    {validation : FileValidationResult} {world : World} (reachable : deployment.Reachable)
    (ready : Ready deployment attempt world)
    (stands : Policy.Stands deployment record attempt.file attempt.filename.partnerId world)
    (open' : ¬ record.status.terminal)
    (judged : validateSettlementFile deployment.contract attempt.filename
      ⟨attempt.file.name, attempt.now, attempt.runId⟩ attempt.file.data = .ok validation)
    (uncounted : ¬ validation.fileIsValid →
      record.acceptedCount = 0 ∧ record.rejectedCount = 0) :
    Works deployment runIds (Settles attempt.filename.partnerId
      (deployment.sha.hexdigest attempt.file.data) (validation.verdict strict)) error
      (settleFile deployment strict attempt record) world := by
  refine Works.seq (sizeSource_works attempt.file world) ?_
  rintro size world ⟨-, rfl⟩
  refine Works.seq (transition_stands_works stands
    (ManifestStatus.allowed_validating open')) ?_
  rintro validating opened ⟨columns, standing, kept⟩
  have ready' := ready.same kept
  refine Works.seq (validate_works opened judged) ?_
  rintro validation opened ⟨rfl, rfl⟩
  refine Works.seq (storageMetadata_works _ _ _ _ _ _ _) ?_
  rintro metadata opened rfl
  by_cases valid : validation.fileIsValid = true
  · rw [if_neg (not_not.mpr valid)]
    refine Works.seq (transition_stands_works standing (by rw [columns]; rfl)) ?_
    rintro validated end' ⟨columns', still, kept'⟩
    have ready'' := ready'.same kept'
    have counted : validated.recordCount = validation.recordCount ∧
        validated.acceptedCount = validation.acceptedRecords.length ∧
        validated.rejectedCount = validation.rejectedRecords.length := by
      rw [columns']
      exact ⟨rfl, rfl, rfl⟩
    by_cases strictly : validation.rejectedRecords ≠ [] ∧ strict = true
    · rw [if_pos strictly]
      refine quarantineStrictFile_works reachable ready'' still ?_ ?_ valid strictly counted
      · rw [columns', columns]
        rfl
      · rw [columns']
        rfl
    · rw [if_neg strictly]
      refine Works.seq (transition_stands_works still (by rw [columns']; rfl)) ?_
      rintro processing end'' ⟨columns'', standing', kept''⟩
      refine processFile_works reachable (ready''.same kept'') standing' ?_ ?_ valid strictly ?_
      · rw [columns'']
        rfl
      · rw [columns'', columns', columns]
        rfl
      · rw [columns'']
        exact counted
  · rw [if_pos valid]
    refine quarantineInvalidFile_works reachable ready' standing ?_ ?_ valid ?_
    · rw [columns]
      rfl
    · rw [columns]
      rfl
    · rw [columns]
      exact uncounted valid

/-- The discovery of the content after interrupted attempts: the row they left, or a new one. -/
theorem register_left_works {discovery : Discovery} {issued : PyStr → Prop} {valid : Prop}
    {world : World} (leaves : Leaves deployment discovery.partnerId discovery.checksumSha256
      issued valid world) (cut : ∀ row, Current row world → ¬ row.status.terminal) :
    Works deployment runIds (fun answer end' => Current answer.1 end' ∧
      answer.1.partnerId = discovery.partnerId ∧
      answer.1.checksumSha256 = discovery.checksumSha256 ∧ ¬ answer.1.status.terminal ∧
      (¬ valid → answer.1.acceptedCount = 0 ∧ answer.1.rejectedCount = 0)
      ∧ end'.objects = world.objects) error (perform (.register discovery)) world := by
  cases known : world.manifest.lookup discovery.partnerId discovery.checksumSha256 with
  | some row =>
    refine (register_known_works known).mono ?_ fun _ _ ends => ends
    rintro ⟨answer, kind⟩ world ⟨rfl, rfl⟩
    obtain ⟨present, partner, content⟩ := ManifestTable.lookup_eq_some.mp known
    exact ⟨present, partner, content, cut _ present, leaves.counts _ present, rfl⟩
  | none =>
    -- every row is of this content, so the manifest is empty
    have absent : world.manifest.get discovery.row.fileId = none := by
      rw [Relational.Table.get_eq_none]
      intro row member _
      obtain ⟨partner, content⟩ := leaves.rows row (current_iff.mpr member)
      have found := ManifestTable.lookup_eq_some.mpr ⟨current_iff.mpr member, partner, content⟩
      rw [known] at found
      cases found
    refine Works.perform fun choice _ => Or.inl ?_
    obtain ⟨kind, done⟩ : ∃ kind, registerDiscovery world.manifest discovery =
        (.ok (discovery.row, kind), world.manifest.insert discovery.row absent) := by
      unfold registerDiscovery
      rw [known]
      dsimp only
      rw [dif_pos absent]
      exact ⟨_, rfl⟩
    simp only [effect, done]
    refine ⟨_, rfl, ?_, rfl, rfl, ?_, fun _ => ⟨rfl, rfl⟩, trivial⟩
    · unfold Current
      rw [Relational.Table.get_insert, if_pos rfl]
    · change ¬ ManifestStatus.discovered.terminal
      decide

/-- A calm attempt after interrupted ones settles the content as its validation says. -/
theorem ingestFile_resumes {request : IngestRequest} {filename : FilenameMetadata}
    {context : RejectionContext} {validation : FileValidationResult} {issued : PyStr → Prop}
    {world : World} (v1 : deployment.contract = settlementV1) (reachable : deployment.Reachable)
    (wet : request.dryRun = false)
    (named : parseSettlementFilename deployment.contract request.expectedPartnerId
      request.file.name = .ok filename)
    (judged : validateSettlementFile deployment.contract filename context request.file.data =
      .ok validation)
    (leaves : Leaves deployment filename.partnerId (deployment.sha.hexdigest request.file.data)
      issued (validation.fileIsValid = true) world)
    (cut : ∀ row, Current row world → ¬ row.status.terminal)
    (runs : ∀ runId, runIds runId → isPartitionValue runId = true ∧ ¬ issued runId) :
    Works deployment runIds (Settles filename.partnerId
      (deployment.sha.hexdigest request.file.data)
      (validation.verdict request.failOnRejectedRecords)) error (ingestFile deployment request)
      world := by
  obtain ⟨partner, plain⟩ := parsed_segments v1 named
  refine Works.seq (now_works world) ?_
  rintro now world rfl
  refine Works.seq (newRunId_works _) ?_
  rintro runId world ⟨chosen, rfl⟩
  obtain ⟨run, fresh⟩ := runs runId chosen
  rw [named]
  refine Works.seq (hashSource_works _ _) ?_
  rintro checksum world ⟨rfl, rfl⟩
  rw [if_neg (by rw [wet]; decide)]
  refine Works.seq (sizeSource_works _ _) ?_
  rintro size world ⟨-, rfl⟩
  refine Works.seq (register_left_works leaves cut) ?_
  rintro ⟨record, kind⟩ end' ⟨current, ofPartner, content, open', uncounted, objects⟩
  dsimp only at open' uncounted ⊢
  rw [if_neg open']
  have again : validateSettlementFile deployment.contract filename
      ⟨request.file.name, now, runId⟩ request.file.data =
      .ok (validation.relabel ⟨request.file.name, now, runId⟩) := by
    rw [validateSettlementFile_context _ _ context, judged]
    rfl
  rw [← FileValidationResult.verdict_relabel _ ⟨request.file.name, now, runId⟩ validation]
  have ready : Ready deployment ⟨request.file, filename,
      deployment.sha.hexdigest request.file.data, kind, now, runId⟩ world := by
    refine ⟨rfl, partner, run, ?_, plain _ (by decide) (by decide),
      fun key file _ => leaves.bronze key file, ?_⟩
    · simpa using plain [] (by simp) (by simp)
    · intro fileName key names _
      cases held : world.objects ⟨deployment.quarantineBucket, key⟩ with
      | none => rfl
      | some file =>
        obtain ⟨other, known, names'⟩ := leaves.quarantine key file held
        unfold NamesRun at names names'
        rw [names] at names'
        obtain rfl := List.append_cancel_left (Option.some.inj names')
        exact absurd known fresh
  exact settleFile_works reachable (ready.same objects) ⟨current, ofPartner, content⟩ open' again
    uncounted

end

/-! ## Interrupted attempts -/

/-- The run identifiers of a history. -/
def UsedRunIds (events : List (Event IngestRequest Choice)) (runId : PyStr) : Prop :=
  ∃ choice, Event.step choice ∈ events ∧ choice.runId = runId

/-- Every effect takes place, and the run identifiers are new and can be part of a key, as those
of `uuid4` are. -/
def Working (used : PyStr → Prop) (stream : Nat → Choice) : Prop :=
  ∀ index, (stream index).fault = none ∧ isPartitionValue (stream index).runId = true ∧
    ¬ used (stream index).runId

/-- Attempts on a file whose name is accepted and whose content can be judged leave its row and
its objects. -/
theorem interrupted_leaves {request : IngestRequest} {filename : FilenameMetadata}
    {context : RejectionContext} {validation : FileValidationResult}
    {events : List (Event IngestRequest Choice)}
    (named : parseSettlementFilename deployment.contract request.expectedPartnerId
      request.file.name = .ok filename)
    (judged : validateSettlementFile deployment.contract filename context request.file.data =
      .ok validation)
    (attempts : ∀ other, .start other ∈ events → other = request) :
    Leaves deployment filename.partnerId (deployment.sha.hexdigest request.file.data)
      (UsedRunIds events) (validation.fileIsValid = true)
      ((ingestor deployment).moment events .empty) := by
  have admitted : (ingestor deployment).Admitted
      (Policy.onContent deployment filename.partnerId
        (deployment.sha.hexdigest request.file.data) (UsedRunIds events)
        (validation.fileIsValid = true)).starts
      (Policy.onContent deployment filename.partnerId
        (deployment.sha.hexdigest request.file.data) (UsedRunIds events)
        (validation.fileIsValid = true)).admits events (.done (), .empty) := by
    refine (ingestor deployment).admitted_imp events _ ?_ ?_
      ((ingestor deployment).admitted_free events _)
    · intro other world member _
      obtain rfl := attempts other member
      refine ⟨trivial, fun _ _ _ => trivial, ?_, ?_⟩
      · unfold IngestRequest.partnerOf
        rw [named]
        exact ⟨rfl, rfl⟩
      · rintro ⟨filename', context', validation', named', judged', valid⟩
        rw [named] at named'
        obtain rfl := Except.ok.inj named'
        rw [validateSettlementFile_context _ _ context context', judged] at judged'
        obtain rfl := Except.ok.inj judged'
        exact valid
    · intro op choice world member _
      cases op with
      | put place data sidecar => exact ⟨fun _ _ _ => trivial, fun _ => trivial⟩
      | openSource file filename => exact fun _ _ _ => trivial
      | newRunId => exact ⟨choice, member, rfl⟩
      | _ => trivial
  exact (history_keeps (fun _ _ step kept => step.leaves kept) events (.done (), .empty) admitted
    empty_leaves trivial).1

/-- The attempt along the choices returns, with this result and this row of the content. -/
def Returns (deployment : Deployment) (request : IngestRequest) (partnerId : PyStr)
    (stream : Nat → Choice) (world : World) (result : ProcessingResult)
    (row : ManifestRecord) : Prop :=
  ∃ count end', (machine deployment).run ((List.range count).map stream)
      (ingestFile deployment request, world) = (.done result, end')
    ∧ end'.manifest.lookup partnerId (deployment.sha.hexdigest request.file.data) = some row

/-- Two attempts, one after the history and one from nothing, return the same settled status,
counts and code, in their results and in the rows of the content. -/
def SameOutcome (deployment : Deployment) (request : IngestRequest) (partnerId : PyStr)
    (events : List (Event IngestRequest Choice)) (retry single : Nat → Choice) : Prop :=
  ∃ result row result' row',
    Returns deployment request partnerId retry ((ingestor deployment).moment events .empty)
      result row ∧
    Returns deployment request partnerId single .empty result' row' ∧
    result.verdict = result'.verdict ∧ row.verdict = result.verdict ∧
    row'.verdict = result'.verdict ∧ result.status.terminal

/-- An attempt that works to a verdict returns it along working choices. -/
theorem returns_of_works {request : IngestRequest} {partnerId : PyStr} {used : PyStr → Prop}
    {verdict : Verdict} {stream : Nat → Choice} {world : World} (working : Working used stream)
    (works : Works deployment (fun runId => isPartitionValue runId = true ∧ ¬ used runId)
      (Settles partnerId (deployment.sha.hexdigest request.file.data) verdict)
      (fun _ _ => False) (ingestFile deployment request) world) :
    ∃ result row, Returns deployment request partnerId stream world result row ∧
      result.verdict = verdict ∧ row.verdict = verdict := by
  have calm : ∀ index op world,
      Calm (fun runId => isPartitionValue runId = true ∧ ¬ used runId) op (stream index) world := by
    intro index op world
    cases op with
    | newRunId => exact working index
    | _ => exact (working index).1
  obtain ⟨count, ⟨result, end', ended, decided, row, found, kept⟩ | ⟨problem, end', -, no⟩⟩ :=
    Meets.completes stream calm works
  · exact ⟨result, row, ⟨count, end', ended, found⟩, decided, kept⟩
  · exact no.elim

/-- After any attempts on a file that were cut off before its row was settled, an attempt with
working storage ends as one attempt on an empty manifest does. -/
theorem interrupted_attempts_resume (deployment : Deployment)
    (v1 : deployment.contract = settlementV1) (reachable : deployment.Reachable)
    (request : IngestRequest) (wet : request.dryRun = false) (filename : FilenameMetadata)
    (named : parseSettlementFilename deployment.contract request.expectedPartnerId
      request.file.name = .ok filename)
    (context : RejectionContext) (validation : FileValidationResult)
    (judged : validateSettlementFile deployment.contract filename context request.file.data =
      .ok validation)
    (events : List (Event IngestRequest Choice))
    (attempts : ∀ other, .start other ∈ events → other = request)
    (cut : ∀ row ∈ ((ingestor deployment).moment events .empty).manifest.rows,
      ¬ row.status.terminal)
    (retry single : Nat → Choice) (working : Working (UsedRunIds events) retry)
    (working' : Working (fun _ => False) single) :
    SameOutcome deployment request filename.partnerId events retry single := by
  obtain ⟨result, row, returns, decided, kept⟩ := returns_of_works working
    (ingestFile_resumes v1 reachable wet named judged (interrupted_leaves named judged attempts)
      (fun row current => cut row (current_iff.mp current)) fun _ run => run)
  obtain ⟨result', row', returns', decided', kept'⟩ := returns_of_works working'
    (ingestFile_resumes v1 reachable wet named judged empty_leaves
      (fun row current => by cases current) fun _ run => run)
  refine ⟨result, row, result', row', returns, returns', decided.trans decided'.symm,
    kept.trans decided.symm, kept'.trans decided'.symm, ?_⟩
  have settled := validation.verdict_terminal request.failOnRejectedRecords
  rw [← decided] at settled
  exact settled

/-- A strict attempt that is cut off after the file was uploaded to quarantine. -/
def cutAttempt : List (Event IngestRequest Choice) :=
  attemptOf ⟨sampleFile sampleName sampleRejectedRow, "VCB", false, true⟩
    (working 11 Instant.epoch "run-1")

/-- The row it leaves, and that the content can be judged. -/
theorem cutAttempt_leaves :
    (((ingestor localDeployment).moment cutAttempt .empty).manifest.rows.map (·.status),
      (validateSettlementFile settlementV1 ⟨"VCB", ⟨2026, 7, 22⟩, 1, sampleName⟩
        ⟨sampleName, Instant.epoch, "run-1"⟩ (sampleHeader ++ sampleRejectedRow)).isOk) =
      ([.validated], true) := by
  decide +kernel

/-- The next attempt ends as a first one would. -/
theorem cut_attempt_resumes :
    ((ingestor localDeployment).moment cutAttempt .empty).manifest.rows.map (·.status) =
      [.validated] ∧
    SameOutcome localDeployment ⟨sampleFile sampleName sampleRejectedRow, "VCB", false, true⟩
      "VCB" cutAttempt (fun _ => { runId := "run-2" }) (fun _ => { runId := "run-1" }) := by
  obtain ⟨left, judged⟩ := Prod.mk.inj cutAttempt_leaves
  refine ⟨left, ?_⟩
  cases outcome : validateSettlementFile settlementV1 ⟨"VCB", ⟨2026, 7, 22⟩, 1, sampleName⟩
      ⟨sampleName, Instant.epoch, "run-1"⟩ (sampleHeader ++ sampleRejectedRow) with
  | error problem =>
    rw [outcome] at judged
    cases judged
  | ok validation =>
    refine interrupted_attempts_resume localDeployment rfl ?_
      ⟨sampleFile sampleName sampleRejectedRow, "VCB", false, true⟩ rfl
      ⟨"VCB", ⟨2026, 7, 22⟩, 1, sampleName⟩ (by decide +kernel) _ validation outcome cutAttempt
      ?_ ?_ _ _ ?_ ?_
    · intro bucket _ key valid accepted
      refine ⟨(⟨bucket, valid⟩, py "/data/" ++ bucket ++ py "/" ++ valid), ?_⟩
      simp only [localDeployment, Cdc.Backend.locate, accepted, Except.map]
    · intro other member
      simpa [cutAttempt, attemptOf] using member
    · intro row member
      have status := List.mem_map_of_mem (f := fun row : ManifestRecord => row.status) member
      rw [left, List.mem_singleton] at status
      rw [status]
      decide
    · refine fun _ => ⟨rfl, ?_, ?_⟩
      · change isPartitionValue (py "run-2") = true
        decide
      rintro ⟨choice, member, same⟩
      simp only [cutAttempt, attemptOf, List.mem_cons, List.mem_map, working,
        List.mem_replicate] at member
      obtain no | ⟨other, ⟨-, rfl⟩, chosen⟩ := member
      · cases no
      · cases chosen
        have different : py "run-1" ≠ py "run-2" := by decide
        exact different same
    · refine fun _ => ⟨rfl, ?_, id⟩
      change isPartitionValue (py "run-1") = true
      decide

end Settlement
