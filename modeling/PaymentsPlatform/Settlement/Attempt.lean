import PaymentsPlatform.Settlement.Retention

/-!
# An attempt keeps the rules

One lemma for each part of `ingest_file`, up to the whole: under a policy every effect of an
attempt is one of the permitted steps, in every branch, whatever fails.
-/

namespace Settlement

open Python Effects
open Cdc (Location StoredFile Metadata)

namespace Policy

variable {deployment : Deployment} {policy : Policy deployment}

/-- Sequencing. -/
theorem Keeps.seq {α β : Type} {M : α → World → Prop} {post : β → World → Prop}
    {program : Action α} {next : α → Action β} {world : World}
    (first : policy.Keeps M program world)
    (rest : ∀ value end', M value end' → policy.Keeps post (next value) end') :
    policy.Keeps post (program.bind next) world :=
  Meets.bind (first.mono rest fun _ _ ends => ends)

/-- A handler that keeps the rules wherever it starts. -/
theorem Keeps.rescue {α : Type} {post : α → World → Prop} {program : Action α}
    {handler : PyError → Action α} {world : World} (first : policy.Keeps post program world)
    (rest : ∀ problem end', policy.Keeps post (handler problem) end') :
    policy.Keeps post (program.handle handler) world :=
  Meets.handle (first.mono (fun _ _ ends => ends) fun problem end' _ => rest problem end')

/-- A computation without effects. -/
theorem Keeps.ofExcept {α : Type} {post : α → World → Prop} {outcome : Except PyError α}
    {world : World} (ends : ∀ value, outcome = .ok value → post value world) :
    policy.Keeps post (Program.ofExcept outcome) world :=
  Meets.ofExcept ends fun _ _ => trivial

/-- The upload of content under a key. -/
theorem putContent_keeps {bucket key checksum contentType : PyStr} {data : Bytes}
    {metadata : Metadata} {world : World} (digest : deployment.sha.hexdigest data = checksum)
    (bronze : bucket = deployment.bronzeBucket → ∀ place,
      deployment.backend.locate bucket key = .ok place →
      Publishing deployment world place.1 data)
    (filed : bucket = deployment.quarantineBucket → ∀ place,
      deployment.backend.locate bucket key = .ok place → policy.Filed place.1) :
    policy.Keeps (fun uri end' => Uploaded policy bucket uri data world end')
      (putContent deployment bucket key data checksum contentType metadata) world := by
  refine Keeps.seq (M := fun place end' => end' = world ∧
    deployment.backend.locate bucket key = .ok place)
    (Keeps.ofExcept fun place located => ⟨rfl, located⟩) ?_
  rintro place end' ⟨rfl, located⟩
  obtain ⟨valid, -, where'⟩ := Cdc.Backend.locate_spec located
  have inside : place.1.bucket = bucket := by rw [where']
  refine Keeps.seq (put_keeps digest
    (fun at_bronze => bronze (inside.symm.trans at_bronze) place located)
    (fun at_quarantine => filed (inside.symm.trans at_quarantine) place located)) ?_
  intro _ end'' placed
  obtain ⟨file, present, content⟩ := placed.present
  refine ⟨placed.manifest, placed.preserved, ⟨key, place, file, located, rfl, present, content⟩, ?_⟩
  intro location elsewhere
  refine placed.others location ?_
  rintro rfl
  exact elsewhere inside

/-- `_fail_manifest` needs no evidence. -/
theorem failManifest_keeps (record : ManifestRecord) (kind : DuplicateKind) (fileName : PyStr)
    (now : Instant) (problem : PyError) (world : World) :
    policy.Keeps (fun _ _ => True) (failManifest record kind fileName now problem) world :=
  Keeps.seq (transition_open_keeps (by decide) fun _ _ _ => Counted.same policy rfl)
    fun _ _ _ => trivial

/-- The metadata of an upload. -/
theorem storageMetadata_keeps (file : SourceFile) (partnerId checksum runId : PyStr)
    (validation : Option FileValidationResult) (now : Instant) (world : World) :
    policy.Keeps (fun _ end' => end' = world)
      (storageMetadata deployment file partnerId checksum runId validation now) world :=
  Keeps.seq (sizeSource_keeps file world) fun _ _ ends => ends.2

/-- A quarantine object of an issued run. -/
theorem quarantine_filed {partnerId runId fileName key : PyStr} {settlementDate : Option Date}
    {place : Location × PyStr} (issued : policy.issued runId)
    (built : buildQuarantineObjectKey partnerId settlementDate runId fileName = .ok key)
    (located : deployment.backend.locate deployment.quarantineBucket key = .ok place) :
    policy.Filed place.1 := by
  obtain ⟨-, segments⟩ := quarantinePlace built located
  refine ⟨runId, issued, ?_⟩
  rw [segments]
  rfl

/-- `quarantine_file`. -/
theorem quarantineFile_keeps {source : SourceFile} {partnerId runId checksum : PyStr}
    {settlementDate : Option Date} {metadata : Metadata} {world : World}
    (issued : policy.issued runId) :
    policy.Keeps (fun uri end' => isPartitionValue partnerId = true ∧
      deployment.sha.hexdigest source.data = checksum ∧
      Uploaded policy deployment.quarantineBucket uri source.data world end')
      (quarantineFile deployment source partnerId settlementDate runId checksum metadata)
      world := by
  refine Keeps.seq (M := fun key end' => end' = world ∧
    buildQuarantineObjectKey partnerId settlementDate runId source.name = .ok key)
    (Keeps.ofExcept fun key built => ⟨rfl, built⟩) ?_
  rintro key end' ⟨rfl, built⟩
  have partner := (buildQuarantineObjectKey_spec built).1
  unfold putImmutable
  split
  · trivial
  · rename_i declared
    rw [not_not] at declared
    refine (putContent_keeps declared ?_ ?_).mono
      (fun uri end'' uploaded => ⟨partner, declared, uploaded⟩) fun _ _ ends => ends
    · intro same
      exact absurd same.symm deployment.buckets_differ
    · intro _ place located
      exact quarantine_filed issued built located

/-- `write_rejected_records`. -/
theorem writeRejectedRecords_keeps {records : List RejectedRecord}
    {sourceFileName partnerId runId : PyStr} {settlementDate : Date} {metadata : Metadata}
    {world : World} (issued : policy.issued runId) :
    policy.Keeps (fun uri end' =>
      Uploaded policy deployment.quarantineBucket uri (rejectedListing records) world end')
      (writeRejectedRecords deployment records sourceFileName partnerId settlementDate runId
        metadata) world := by
  refine Keeps.seq (M := fun key end' => end' = world ∧ buildQuarantineObjectKey partnerId
    (some settlementDate) runId (sourceFileName ++ py ".rejected.jsonl") = .ok key)
    (Keeps.ofExcept fun key built => ⟨rfl, built⟩) ?_
  rintro key end' ⟨rfl, built⟩
  exact putContent_keeps rfl (fun same => absurd same.symm deployment.buckets_differ)
    fun _ place located => quarantine_filed issued built located

/-- `copy_to_bronze` for a row that is being processed. -/
theorem copyToBronze_keeps {source : SourceFile} {settlementDate ingestionDate : Date}
    {metadata : Metadata} {row : ManifestRecord} {world : World} (current : Current row world)
    (processing : row.status = .processing)
    (content : deployment.sha.hexdigest source.data = row.checksumSha256) :
    policy.Keeps (fun uri end' => isPartitionValue row.partnerId = true ∧
      Uploaded policy deployment.bronzeBucket uri source.data world end')
      (copyToBronze deployment source row.partnerId settlementDate ingestionDate
        row.checksumSha256 metadata) world := by
  refine Keeps.seq (M := fun key end' => end' = world ∧ buildBronzeObjectKey row.partnerId
    settlementDate ingestionDate row.checksumSha256 source.name = .ok key)
    (Keeps.ofExcept fun key built => ⟨rfl, built⟩) ?_
  rintro key end' ⟨rfl, built⟩
  unfold putImmutable
  rw [if_neg (not_not.mpr content)]
  have partner := (buildBronzeObjectKey_spec built).1
  refine (putContent_keeps content ?_ ?_).mono
    (fun uri end'' uploaded => ⟨partner, uploaded⟩) fun _ _ ends => ends
  · intro _ place located
    obtain ⟨-, segments⟩ := bronzePlace built located
    exact ⟨row, current, processing, by rw [segments]; rfl, content⟩
  · intro same
    exact absurd same deployment.buckets_differ

/-- An upload elsewhere leaves a content clear. -/
theorem clear_uploaded {bucket uri partnerId checksum : PyStr} {data : Bytes}
    {before after : World} (uploaded : Uploaded policy bucket uri data before after)
    (elsewhere : bucket ≠ deployment.bronzeBucket)
    (clear : policy.clear before partnerId checksum) : policy.clear after partnerId checksum :=
  policy.clear_bronze before after partnerId checksum
    (fun key => uploaded.others ⟨deployment.bronzeBucket, key⟩ elsewhere.symm) clear

/-- A row stands for the content of a file. -/
structure Stands (deployment : Deployment) (row : ManifestRecord) (file : SourceFile)
    (partnerId : PyStr) (world : World) : Prop where
  /-- It is in the manifest. -/
  current : Current row world
  /-- Of this partner. -/
  partner : row.partnerId = partnerId
  /-- With this content. -/
  content : row.checksumSha256 = deployment.sha.hexdigest file.data

/-- An upload leaves a row standing. -/
theorem Stands.uploaded {row : ManifestRecord} {file : SourceFile} {partnerId : PyStr}
    {bucket uri : PyStr} {data : Bytes} {before after : World}
    (stands : Stands deployment row file partnerId before)
    (uploaded : Uploaded policy bucket uri data before after) :
    Stands deployment row file partnerId after :=
  ⟨uploaded.current stands.current, stands.partner, stands.content⟩

/-- A transition without evidence leaves the row standing, with its new columns. -/
theorem transition_stands {row : ManifestRecord} {file : SourceFile} {partnerId : PyStr}
    {status : ManifestStatus} {updates : List Assignment} {world : World}
    (stands : Stands deployment row file partnerId world) (open' : ¬ status.terminal)
    (counts : policy.Counted row (row.assign status updates)) :
    policy.Keeps (fun answer end' => answer = row.assign status updates ∧
      Stands deployment answer file partnerId end' ∧ end'.objects = world.objects ∧
      row.status.allowed status = true)
      (perform (.transition row.fileId status updates)) world := by
  refine (transition_open_keeps open' fun other present key =>
    stands.current.unique present key ▸ counts).mono ?_ fun _ _ ends => ends
  rintro answer end' ⟨current, objects, other, present, key, permitted, rfl⟩
  obtain rfl := stands.current.unique present key
  obtain ⟨same, -⟩ := other.assign_same status updates
  exact ⟨rfl, ⟨current, same.partnerId.trans stands.partner,
    same.checksumSha256.trans stands.content⟩, objects, permitted⟩

/-- The file was delivered. -/
def Brought (policy : Policy deployment) (file : SourceFile) : Prop :=
  ∃ request, policy.delivered request ∧ request.file = file

/-- The transition to `QUARANTINED` of a row whose content is in quarantine. -/
theorem quarantined_keeps {row : ManifestRecord} {file : SourceFile} {partnerId uri : PyStr}
    {updates : List Assignment} {world : World}
    (stands : Stands deployment row file partnerId world)
    (addressed : (row.assign .quarantined updates).quarantinePath = some uri)
    (counts : policy.Counted row (row.assign .quarantined updates))
    (partner : isPartitionValue partnerId = true) (brought : policy.Brought file)
    (clear : policy.clear world partnerId (deployment.sha.hexdigest file.data))
    (stored : StoredAt deployment deployment.quarantineBucket uri
      (fun data => policy.same data file.data ∧
        deployment.sha.hexdigest data = deployment.sha.hexdigest file.data) world) :
    policy.Keeps (fun _ _ => True) (perform (.transition row.fileId .quarantined updates))
      world := by
  refine (transition_keeps ?_ ?_ fun other present key =>
    stands.current.unique present key ▸ counts).mono (fun _ _ _ => trivial) fun _ _ ends => ends
  · intro other _ _ no
    cases no
  · intro other present key _
    obtain rfl := stands.current.unique present key
    obtain ⟨same, -⟩ := other.assign_same .quarantined updates
    refine ⟨⟨?_, uri, addressed, ?_⟩, ?_⟩
    · rw [same.partnerId, stands.partner]
      exact partner
    · obtain ⟨key, place, stored', located, address, present, holds⟩ := stored
      obtain ⟨request, delivered, rfl⟩ := brought
      refine ⟨key, place, stored', located, address, present, request, delivered, holds.1, ?_⟩
      rw [same.checksumSha256, stands.content]
    · rw [stands.partner, stands.content]
      exact clear

/-- `_quarantine_invalid_file`. -/
theorem quarantineInvalidFile_keeps {attempt : Attempt} {record : ManifestRecord}
    {validation : FileValidationResult} {metadata : Metadata} {world : World}
    (stands : Stands deployment record attempt.file attempt.filename.partnerId world)
    (issued : policy.issued record.ingestionRunId)
    (brought : policy.Brought attempt.file)
    (clear : policy.clear world attempt.filename.partnerId
      (deployment.sha.hexdigest attempt.file.data)) :
    policy.Keeps (fun _ _ => True)
      (quarantineInvalidFile deployment attempt record validation metadata) world := by
  refine Keeps.rescue ?_ fun problem end' => failManifest_keeps _ _ _ _ _ _
  refine Keeps.seq (quarantineFile_keeps issued) ?_
  rintro uri end' ⟨partner, -, uploaded⟩
  refine Keeps.seq (quarantined_keeps (stands.uploaded uploaded) rfl (Counted.same policy rfl)
    partner brought (clear_uploaded uploaded deployment.buckets_differ.symm clear)
    uploaded.present) ?_
  intro _ _ _
  trivial

/-- `_quarantine_strict_file`. -/
theorem quarantineStrictFile_keeps {attempt : Attempt} {record : ManifestRecord}
    {validation : FileValidationResult} {metadata : Metadata} {world : World}
    (stands : Stands deployment record attempt.file attempt.filename.partnerId world)
    (issued : policy.issued record.ingestionRunId)
    (brought : policy.Brought attempt.file)
    (clear : policy.clear world attempt.filename.partnerId
      (deployment.sha.hexdigest attempt.file.data)) :
    policy.Keeps (fun _ _ => True)
      (quarantineStrictFile deployment attempt record validation metadata) world := by
  refine Keeps.rescue ?_ fun problem end' => failManifest_keeps _ _ _ _ _ _
  refine Keeps.seq (quarantineFile_keeps issued) ?_
  rintro uri end' ⟨partner, -, uploaded⟩
  refine Keeps.seq (writeRejectedRecords_keeps issued) ?_
  intro listing end'' listed
  refine Keeps.seq (quarantined_keeps ((stands.uploaded uploaded).uploaded listed) rfl
    (Counted.same policy rfl) partner brought (clear_uploaded listed
      deployment.buckets_differ.symm
      (clear_uploaded uploaded deployment.buckets_differ.symm clear))
    (uploaded.present.later listed.preserved)) ?_
  intro _ _ _
  trivial

/-- `_handle_filename_rejection` from the upload on. -/
theorem quarantineRejectedName_keeps {file : SourceFile} {partnerId checksum runId : PyStr}
    {problem : DiscoveryError} {kind : DuplicateKind} {now : Instant} {record : ManifestRecord}
    {world : World} (stands : Stands deployment record file partnerId world)
    (issued : policy.issued runId) (brought : policy.Brought file)
    (clear : policy.clear world partnerId (deployment.sha.hexdigest file.data)) :
    policy.Keeps (fun _ _ => True) (quarantineRejectedName deployment file partnerId checksum
      problem kind now runId record) world := by
  refine Keeps.rescue ?_ fun problem end' => failManifest_keeps _ _ _ _ _ _
  refine Keeps.seq (storageMetadata_keeps _ _ _ _ _ _ _) ?_
  rintro metadata end' rfl
  refine Keeps.seq (quarantineFile_keeps issued) ?_
  rintro uri end'' ⟨partner, -, uploaded⟩
  refine Keeps.seq (quarantined_keeps (stands.uploaded uploaded) rfl (Counted.same policy rfl)
    partner brought (clear_uploaded uploaded deployment.buckets_differ.symm clear)
    uploaded.present) ?_
  intro _ _ _
  trivial

/-- The listing of rejected rows. -/
theorem listRejected_keeps {attempt : Attempt} {validation : FileValidationResult}
    {metadata : Metadata} {world : World} (issued : policy.issued attempt.runId) :
    policy.Keeps (fun path end' => end'.manifest = world.manifest ∧ Preserved world end' ∧
      (validation.rejectedRecords ≠ [] → ∃ uri, path = some uri ∧
        StoredAt deployment deployment.quarantineBucket uri
          (fun data => policy.same data (rejectedListing validation.rejectedRecords)) end'))
      (listRejected deployment attempt validation metadata) world := by
  unfold listRejected
  split
  · rename_i none_rejected
    exact ⟨rfl, fun _ file present => ⟨file, present, rfl⟩, fun no => absurd none_rejected no⟩
  · refine Keeps.seq (writeRejectedRecords_keeps issued) ?_
    intro uri end' uploaded
    exact ⟨uploaded.manifest, uploaded.preserved,
      fun _ => ⟨uri, rfl, uploaded.present.imp fun _ => And.left⟩⟩

/-- The uploads and the transition to `PROCESSED`. -/
theorem processFile_keeps {attempt : Attempt} {record : ManifestRecord}
    {validation : FileValidationResult} {metadata : Metadata} {world : World}
    (stands : Stands deployment record attempt.file attempt.filename.partnerId world)
    (content : attempt.checksum = deployment.sha.hexdigest attempt.file.data)
    (processing : record.status = .processing) (issued : policy.issued attempt.runId)
    (validated : Validated deployment policy.delivered record validation) :
    policy.Keeps (fun _ _ => True)
      (processFile deployment attempt record validation metadata) world := by
  refine Keeps.rescue ?_ fun problem end' => failManifest_keeps _ _ _ _ _ _
  rw [content, ← stands.content, ← stands.partner]
  refine Keeps.seq (copyToBronze_keeps stands.current processing stands.content.symm) ?_
  rintro bronzePath end' ⟨partner, bronze⟩
  refine Keeps.seq (listRejected_keeps issued) ?_
  rintro quarantinePath end'' ⟨manifest, preserved, listed⟩
  have current : Current record end'' := by
    unfold Current
    rw [manifest]
    exact bronze.current stands.current
  refine Keeps.seq (transition_keeps ?_ ?_ fun _ _ _ => Counted.same policy rfl)
    fun _ _ _ => trivial
  · intro row present key _
    obtain rfl := current.unique present key
    refine ⟨partner, ⟨bronzePath, rfl, ?_⟩, validation, ⟨validated.judged, validated.records,
      validated.accepted, validated.rejected⟩, listed⟩
    obtain ⟨key, place, file, located, address, held, same⟩ := bronze.present.later preserved
    exact ⟨key, place, file, located, address, held, same.2.trans stands.content.symm⟩
  · intro _ _ _ no
    cases no

/-- The validation of a file: the outcome of its content, or the rejection of a file that cannot
be opened, which may be quarantined. -/
theorem validate_keeps (file : SourceFile) (filename : FilenameMetadata) (now : Instant)
    (runId : PyStr) (world : World) :
    policy.Keeps (fun validation end' => end' = world ∧
      (validateSettlementFile deployment.contract filename ⟨file.name, now, runId⟩ file.data =
        .ok validation ∨ (validation.fileIsValid = false ∧
          policy.clear world filename.partnerId (deployment.sha.hexdigest file.data))))
      (validate deployment file filename now runId) world := by
  have opened : policy.Keeps (fun outcome end' => end' = world ∧
      (∀ data, outcome = .ok data → data = file.data) ∧
      ∀ problem, outcome = .error problem → problem.kind.isOSError = true →
        policy.clear world filename.partnerId (deployment.sha.hexdigest file.data))
      (perform (.openSource file filename)).outcome world := by
    refine Meets.outcome (Meets.request ?_)
    rintro moved ⟨rfl⟩ choice admitted
    obtain acted | ⟨fault, failing, -, failed⟩ :=
      act_cases deployment (.openSource file filename) choice world
    · rw [acted]
      exact ⟨.stay rfl, rfl, fun _ read => (Except.ok.inj read).symm, fun _ no => by cases no⟩
    · rw [failed]
      have left : leftovers deployment (.openSource file filename) choice fault.extent world =
          world := by cases fault.extent <;> rfl
      rw [left]
      refine ⟨.stay rfl, rfl, (fun _ no => by cases no), ?_⟩
      intro problem same refused
      rw [← Except.error.inj same] at refused
      exact admitted fault failing refused
  refine Keeps.seq opened ?_
  rintro outcome end' ⟨rfl, known⟩
  cases outcome with
  | ok data =>
    rw [known.1 data rfl]
    exact Keeps.ofExcept fun validation judged => ⟨rfl, Or.inl judged⟩
  | error problem =>
    dsimp only
    split
    · rename_i refused
      exact ⟨rfl, Or.inr ⟨rfl, known.2 problem rfl refused⟩⟩
    · trivial

/-- What is clear stays clear while the store is as it was. -/
theorem clear_same {partnerId checksum : PyStr} {before after : World}
    (objects : after.objects = before.objects) (clear : policy.clear before partnerId checksum) :
    policy.clear after partnerId checksum :=
  policy.clear_bronze before after partnerId checksum (fun _ => by rw [objects]) clear

/-- `ingest_file` from the transition to `VALIDATING` on. -/
theorem settleFile_keeps {strict : Bool} {attempt : Attempt} {record : ManifestRecord}
    {request : IngestRequest} {world : World}
    (stands : Stands deployment record attempt.file attempt.filename.partnerId world)
    (content : attempt.checksum = deployment.sha.hexdigest attempt.file.data)
    (issued : policy.issued attempt.runId) (delivered : policy.delivered request)
    (file : request.file = attempt.file)
    (parsed : parseSettlementFilename deployment.contract request.expectedPartnerId
      request.file.name = .ok attempt.filename)
    (counted : ∀ validation, validateSettlementFile deployment.contract attempt.filename
        ⟨attempt.file.name, attempt.now, attempt.runId⟩ attempt.file.data = .ok validation →
      validation.fileIsValid = true → policy.counted attempt.filename.partnerId
        (deployment.sha.hexdigest attempt.file.data))
    (decided : ∀ validation, validateSettlementFile deployment.contract attempt.filename
        ⟨attempt.file.name, attempt.now, attempt.runId⟩ attempt.file.data = .ok validation →
      validation.fileIsValid = false ∨ (validation.rejectedRecords ≠ [] ∧ strict = true) →
      policy.clear world attempt.filename.partnerId
        (deployment.sha.hexdigest attempt.file.data)) :
    policy.Keeps (fun _ _ => True) (settleFile deployment strict attempt record) world := by
  refine Keeps.seq (sizeSource_keeps attempt.file world) ?_
  rintro size _ ⟨-, rfl⟩
  refine Keeps.seq (transition_stands stands (by decide) (Counted.same policy rfl)) ?_
  rintro validating opened ⟨started, standing, kept, -⟩
  have running : policy.issued validating.ingestionRunId := started ▸ issued
  refine Keeps.seq (validate_keeps attempt.file attempt.filename attempt.now attempt.runId
    opened) ?_
  rintro validation _ ⟨rfl, judged⟩
  refine Keeps.seq (storageMetadata_keeps _ _ _ _ _ _ _) ?_
  rintro metadata _ rfl
  by_cases valid : validation.fileIsValid = true
  · rw [if_neg (not_not.mpr valid)]
    have verdict := judged.resolve_right fun refused => by
      rw [valid] at refused
      cases refused.1
    have counts := counted validation verdict valid
    rw [← standing.partner, ← standing.content] at counts
    refine Keeps.seq (transition_stands standing (by decide) (Or.inr counts)) ?_
    rintro validated end' ⟨columns, still, kept', -⟩
    have count : Validated deployment policy.delivered validated validation := by
      refine ⟨⟨request, attempt.filename, _, delivered, ?_, parsed, still.partner.symm,
        by rw [file]; exact verdict⟩, ?_, ?_, ?_⟩
      · rw [file]
        exact still.content.symm
      all_goals
        rw [columns]
        rfl
    by_cases strictly : validation.rejectedRecords ≠ [] ∧ strict = true
    · rw [if_pos strictly]
      exact quarantineStrictFile_keeps still (columns ▸ running) ⟨request, delivered, file⟩
        (clear_same (kept'.trans kept) (decided validation verdict (Or.inr strictly)))
    · rw [if_neg strictly]
      refine Keeps.seq (transition_stands still (by decide) (Counted.same policy rfl)) ?_
      rintro processing end'' ⟨columns', standing', -⟩
      refine processFile_keeps standing' content (by rw [columns']; rfl) issued ?_
      refine ⟨?_, ?_, ?_, ?_⟩
      · obtain ⟨source, filename, context, given, digest, read, named, outcome⟩ := count.judged
        refine ⟨source, filename, context, given, ?_, read, ?_, outcome⟩
        · rw [digest, still.content, standing'.content]
        · rw [named, still.partner, standing'.partner]
      · rw [columns']
        exact count.records
      · rw [columns']
        exact count.accepted
      · rw [columns']
        exact count.rejected
  · rw [if_pos valid]
    refine quarantineInvalidFile_keeps standing running ⟨request, delivered, file⟩ ?_
    obtain verdict | ⟨-, clear⟩ := judged
    · exact clear_same kept (decided validation verdict (Or.inl (by simpa using valid)))
    · exact clear

end Policy

/-- The partner under which a file is to be quarantined: its name is rejected, or its content as a
whole, or in strict mode one of its rows. -/
def IngestRequest.quarantinedFor (contract : SettlementContract) (request : IngestRequest) :
    Option PyStr :=
  if request.dryRun then none
  else match parseSettlementFilename contract request.expectedPartnerId request.file.name with
    | .error _ => some request.expectedPartnerId
    | .ok filename =>
      match validateSettlementFile contract filename ⟨request.file.name, Instant.epoch, []⟩
          request.file.data with
      | .error _ => none
      | .ok validation =>
        if validation.fileIsValid = false ∨
            (validation.rejectedRecords ≠ [] ∧ request.failOnRejectedRecords = true) then
          some filename.partnerId
        else none

/-- The partner under which a file is registered. -/
def IngestRequest.partnerOf (contract : SettlementContract) (request : IngestRequest) : PyStr :=
  match parseSettlementFilename contract request.expectedPartnerId request.file.name with
  | .error _ => request.expectedPartnerId
  | .ok filename => filename.partnerId

/-- The rows of the file are counted: its name is accepted and its content as a whole is. -/
def IngestRequest.countedFor (contract : SettlementContract) (request : IngestRequest) : Prop :=
  ∃ filename context validation,
    parseSettlementFilename contract request.expectedPartnerId request.file.name = .ok filename ∧
    validateSettlementFile contract filename context request.file.data = .ok validation ∧
    validation.fileIsValid = true

namespace Policy

variable {deployment : Deployment} (policy : Policy deployment)

/-- The attempts the policy admits: the file counts as delivered, one that is to be quarantined
may be unless its content is settled, the content may be registered, and the rows of a valid file
may be counted. -/
structure starts (request : IngestRequest) (world : World) : Prop where
  /-- The file counts as delivered. -/
  delivered : policy.delivered request
  /-- A file that is to be quarantined may be. -/
  clear : ∀ partnerId, request.quarantinedFor deployment.contract = some partnerId →
    ¬ Settled world partnerId (deployment.sha.hexdigest request.file.data) →
    policy.clear world partnerId (deployment.sha.hexdigest request.file.data)
  /-- The content may be registered. -/
  owned : policy.owned (request.partnerOf deployment.contract)
    (deployment.sha.hexdigest request.file.data)
  /-- The rows of a valid file may be counted. -/
  counted : request.countedFor deployment.contract →
    policy.counted (request.partnerOf deployment.contract)
      (deployment.sha.hexdigest request.file.data)

variable {policy}

/-- `ingest_file` keeps the rules. -/
theorem ingestFile_keeps {request : IngestRequest} {world : World}
    (started : policy.starts request world) :
    policy.Keeps (fun _ _ => True) (ingestFile deployment request) world := by
  refine Keeps.seq (now_keeps world) ?_
  rintro now world rfl
  refine Keeps.seq (newRunId_keeps _) ?_
  rintro runId world ⟨issued, rfl⟩
  have owned := started.owned
  unfold IngestRequest.partnerOf at owned
  cases named : parseSettlementFilename deployment.contract request.expectedPartnerId
      request.file.name with
  | error problem =>
    rw [named] at owned
    dsimp only
    unfold handleFilenameRejection
    refine Keeps.seq (M := fun outcome end' => end' = world ∧ ∀ checksum,
      outcome = .ok checksum → checksum = deployment.sha.hexdigest request.file.data) ?_ ?_
    · exact hashOutcome_keeps request.file world
    rintro outcome world ⟨rfl, known⟩
    cases outcome with
    | error failure =>
      dsimp only
      split <;> trivial
    | ok checksum =>
      dsimp only
      by_cases dry : request.dryRun = true
      · rw [if_pos dry]
        trivial
      · rw [if_neg dry]
        have clear : ¬ Settled world request.expectedPartnerId
            (deployment.sha.hexdigest request.file.data) →
            policy.clear world request.expectedPartnerId
              (deployment.sha.hexdigest request.file.data) := by
          refine started.clear _ ?_
          unfold IngestRequest.quarantinedFor
          rw [if_neg dry, named]
        refine Keeps.seq (sizeSource_keeps _ _) ?_
        rintro size world ⟨-, rfl⟩
        rw [← known checksum rfl] at owned
        refine Keeps.seq (register_keeps owned _) ?_
        rintro ⟨record, kind⟩ end' ⟨current, partner, content, objects, settled⟩
        dsimp only
        split
        · trivial
        · have stands : Stands deployment record request.file request.expectedPartnerId end' :=
            ⟨current, partner, content.trans (known checksum rfl)⟩
          refine Keeps.seq (transition_stands stands (by decide) (Counted.same policy rfl)) ?_
          rintro validating end'' ⟨-, standing, kept, permitted⟩
          -- a processed row does not get here: no transition leads out of a terminal status
          have unsettled : ¬ Settled world request.expectedPartnerId
              (deployment.sha.hexdigest request.file.data) := by
            rw [← known checksum rfl]
            exact fun before => ManifestStatus.not_terminal_of_allowed permitted (settled before)
          exact quarantineRejectedName_keeps standing issued ⟨request, started.delivered, rfl⟩
            (clear_same (kept.trans objects) (clear unsettled))
  | ok filename =>
    rw [named] at owned
    dsimp only
    refine Keeps.seq (hashSource_keeps _ _) ?_
    rintro checksum world ⟨rfl, rfl⟩
    by_cases dry : request.dryRun = true
    · rw [if_pos dry]
      refine Keeps.seq (validate_keeps _ _ _ _ _) ?_
      intro validation end' _
      trivial
    · rw [if_neg dry]
      refine Keeps.seq (sizeSource_keeps _ _) ?_
      rintro size world ⟨-, rfl⟩
      refine Keeps.seq (register_keeps owned _) ?_
      rintro ⟨record, kind⟩ end' ⟨current, partner, content, objects, settled⟩
      dsimp only
      split
      · trivial
      · rename_i open'
        refine settleFile_keeps ⟨current, partner, content⟩ rfl issued started.delivered rfl named
          ?_ ?_
        · intro validation judged valid
          have counted := started.counted ⟨filename, _, validation, named, judged, valid⟩
          unfold IngestRequest.partnerOf at counted
          rw [named] at counted
          exact counted
        intro validation judged verdict
        refine clear_same objects (started.clear _ ?_ fun before => open' (settled before))
        unfold IngestRequest.quarantinedFor
        have same := validateSettlementFile_context deployment.contract filename
          ⟨request.file.name, now, runId⟩ ⟨request.file.name, Instant.epoch, []⟩ request.file.data
        rw [if_neg dry, named]
        dsimp only
        rw [same, judged]
        dsimp only [Except.map]
        rw [if_pos]
        obtain whole | ⟨some_rejected, strict⟩ := verdict
        · exact Or.inl whole
        · exact Or.inr ⟨by simpa [FileValidationResult.relabel] using some_rejected, strict⟩

end Policy

end Settlement
