import PaymentsPlatform.Settlement.Uploads

/-!
# What Bronze says of a settlement

The key and the metadata of every Bronze object name the partner and the file, and a processed row
has the counts of the validation of the file that its Bronze object holds. Only the transition to
`PROCESSED` needs the history of its attempt; of every other effect it is enough to know what it is
(`Op.Orderly`).
-/

namespace Settlement

open Python Effects
open Cdc (Location StoredFile Sidecar Metadata)

/-- A file that an attempt has accepted, with the outcome of its validation. -/
structure Accepted (deployment : Deployment) where
  /-- The attempt. -/
  request : IngestRequest
  /-- What the name says. -/
  filename : FilenameMetadata
  /-- What the rejections are recorded for. -/
  context : RejectionContext
  /-- The validation. -/
  validation : FileValidationResult
  /-- The name is accepted. -/
  parsed : parseSettlementFilename deployment.contract request.expectedPartnerId
    request.file.name = .ok filename
  /-- The content is validated under it. -/
  judged : validateSettlementFile deployment.contract filename context request.file.data =
    .ok validation
  /-- As a whole it is valid. -/
  valid : validation.fileIsValid = true

/-- The row stands for the accepted file, which is in Bronze at the place. -/
structure PublishedAs {deployment : Deployment} (world : World) (row : ManifestRecord)
    (accepted : Accepted deployment) (place : Location × PyStr) : Prop where
  /-- The row has the address. -/
  path : row.bronzePath = some place.2
  /-- The place is one of Bronze. -/
  located : ∃ key, deployment.backend.locate deployment.bronzeBucket key = .ok place
  /-- Its key names partner, date and file. -/
  segments : ∃ ingestionDate checksum, splitChar 47 place.1.key = bronzeSegments
    accepted.filename.partnerId accepted.filename.settlementDate ingestionDate checksum
    accepted.request.file.name
  /-- The content of the file is there. -/
  present : ∃ file, world.objects place.1 = some file ∧ file.data = accepted.request.file.data
  /-- The row has its digest. -/
  digest : deployment.sha.hexdigest accepted.request.file.data = row.checksumSha256
  /-- The row counts the rows of the file. -/
  records : row.recordCount = accepted.validation.recordCount
  /-- The accepted ones. -/
  accepts : row.acceptedCount = accepted.validation.acceptedRecords.length
  /-- And the rejected ones. -/
  rejects : row.rejectedCount = accepted.validation.rejectedRecords.length

/-- The metadata name the partner and the file of the key. -/
def Labelled (location : Location) (sidecar : Sidecar) : Prop :=
  ∃ partnerId settlementDate ingestionDate checksum fileName,
    splitChar 47 location.key =
      bronzeSegments partnerId settlementDate ingestionDate checksum fileName ∧
    (Cdc.sanitizeMetadata sidecar.metadata).get? "source_file_name" = some fileName ∧
    (Cdc.sanitizeMetadata sidecar.metadata).get? "partner_id" = some partnerId

/-- The Bronze objects are labelled, and the processed rows stand for accepted files of known
attempts. -/
structure Catalogued (deployment : Deployment) (known : IngestRequest → Prop) (world : World) :
    Prop where
  /-- The objects. -/
  labels : ∀ location file sidecar, location.bucket = deployment.bronzeBucket →
    world.objects location = some file → file.sidecar = some sidecar → Labelled location sidecar
  /-- The rows. -/
  rows : ∀ row, Current row world → row.status = .processed →
    ∃ (accepted : Accepted deployment) (place : Location × PyStr), known accepted.request ∧
      PublishedAs world row accepted place

/-- Effects that need no history: uploads to Bronze are labelled, and no row becomes
`PROCESSED`. -/
def Op.Orderly (deployment : Deployment) : Op → Prop
  | .put place _ sidecar => place.1.bucket = deployment.bronzeBucket → Labelled place.1 sidecar
  | .transition _ status _ => status ≠ .processed
  | _ => True

/-! ## What the effects keep -/

section

variable {deployment : Deployment} {known : IngestRequest → Prop} {world : World}

/-- Nothing is catalogued at first. -/
theorem empty_catalogued : Catalogued deployment known World.empty where
  labels _ _ _ _ present := by cases present
  rows _ current := by cases current

/-- A publication stays while bytes stay. -/
theorem PublishedAs.later {before after : World} {row : ManifestRecord}
    {accepted : Accepted deployment} {place : Location × PyStr}
    (published : PublishedAs before row accepted place) (preserved : Preserved before after) :
    PublishedAs after row accepted place := by
  obtain ⟨file, present, content⟩ := published.present
  obtain ⟨kept, still, same⟩ := preserved place.1 file present
  exact { published with present := ⟨kept, still, same.trans content⟩ }

/-- An object is created or gets its metadata. -/
theorem Catalogued.stored (catalogued : Catalogued deployment known world) {location : Location}
    {file : StoredFile} (kept : ∀ old, world.objects location = some old → old.data = file.data)
    (labelled : location.bucket = deployment.bronzeBucket → ∀ sidecar,
      file.sidecar = some sidecar → Labelled location sidecar) :
    Catalogued deployment known (world.setObject location file) where
  labels other stored sidecar bronze present attached := by
    rcases setObject_cases present with ⟨rfl, rfl⟩ | before
    · exact labelled bronze sidecar attached
    · exact catalogued.labels other stored sidecar bronze before attached
  rows row current processed := by
    obtain ⟨accepted, place, given, published⟩ := catalogued.rows row current processed
    exact ⟨accepted, place, given, published.later (setObject_preserved kept)⟩

/-- A row moves on. -/
theorem Catalogued.moved (catalogued : Catalogued deployment known world)
    {row updated : ManifestRecord} (file : SameFile row updated)
    (processed : updated.status = .processed → ∃ (accepted : Accepted deployment)
      (place : Location × PyStr), known accepted.request ∧
        PublishedAs world updated accepted place) :
    Catalogued deployment known { world with manifest := world.manifest.put updated } where
  labels := catalogued.labels
  rows other present ends := by
    have published : ∃ (accepted : Accepted deployment) (place : Location × PyStr),
        known accepted.request ∧ PublishedAs world other accepted place := by
      rcases current_put file present with rfl | ⟨before, -⟩
      · exact processed ends
      · exact catalogued.rows other before ends
    obtain ⟨accepted, place, given, published⟩ := published
    exact ⟨accepted, place, given, { published with }⟩

/-- A content is registered. -/
theorem Catalogued.registered (catalogued : Catalogued deployment known world)
    {discovery : Discovery} (absent : world.manifest.get discovery.row.fileId = none) :
    Catalogued deployment known
      { world with manifest := world.manifest.insert discovery.row absent } where
  labels := catalogued.labels
  rows other present ends := by
    rcases current_insert present with rfl | before
    · cases ends
    · obtain ⟨accepted, place, given, published⟩ := catalogued.rows other before ends
      exact ⟨accepted, place, given, { published with }⟩

/-- An upload. -/
theorem Catalogued.put (catalogued : Catalogued deployment known world)
    {place : Location × PyStr} {data : Bytes} {sidecar : Sidecar}
    (labelled : place.1.bucket = deployment.bronzeBucket → Labelled place.1 sidecar) :
    Catalogued deployment known (putEffect deployment.sha place data sidecar world).2 := by
  unfold putEffect
  cases held : world.objects place.1 with
  | none =>
    refine catalogued.stored (by simp [held]) ?_
    rintro bronze _ ⟨rfl⟩
    exact labelled bronze
  | some existing =>
    dsimp only
    split
    · refine catalogued.stored ?_ ?_
      · rw [held]
        rintro old ⟨rfl⟩
        rfl
      · intro bronze attached same
        cases before : existing.sidecar with
        | none =>
          rw [before] at same
          obtain rfl := Option.some.inj same
          exact labelled bronze
        | some older =>
          rw [before] at same
          obtain rfl := Option.some.inj same
          exact catalogued.labels place.1 existing older bronze held before
    · exact catalogued

/-- An upload that ends after the object was linked. -/
theorem Catalogued.link (catalogued : Catalogued deployment known world)
    (place : Location × PyStr) (data : Bytes) :
    Catalogued deployment known (linkEffect place data world) := by
  unfold linkEffect
  cases held : world.objects place.1 with
  | none =>
    refine catalogued.stored (by simp [held]) ?_
    rintro - sidecar no
    cases no
  | some existing => exact catalogued

/-- An orderly effect that takes place. -/
theorem Catalogued.effect (catalogued : Catalogued deployment known world) {op : Op}
    (orderly : op.Orderly deployment) (choice : Choice) :
    Catalogued deployment known (effect deployment op choice world).2 := by
  cases op with
  | register discovery =>
    rcases registerDiscovery_spec world.manifest discovery with
      ⟨row, kind, found, done⟩ | ⟨kind, absent, done⟩ | ⟨problem, done⟩
    · simp only [Settlement.effect, done]
      exact catalogued
    · simp only [Settlement.effect, done]
      exact catalogued.registered absent
    · simp only [Settlement.effect, done]
      exact catalogued
  | transition fileId status updates =>
    rcases transition_spec world.manifest fileId status updates with
      ⟨row, found, permitted, done⟩ | ⟨problem, -, done⟩
    · obtain ⟨same, now⟩ := row.assign_same status updates
      simp only [Settlement.effect, done]
      exact catalogued.moved same fun ends => absurd (now.symm.trans ends) orderly
    · simp only [Settlement.effect, done]
      exact catalogued
  | put place data sidecar => exact catalogued.put orderly
  | _ => exact catalogued

/-- An orderly effect, also when it fails. -/
theorem Catalogued.act {op : Op} (orderly : op.Orderly deployment) (choice : Choice)
    (world : World) (catalogued : Catalogued deployment known world) :
    Catalogued deployment known ((machine deployment).act op choice world).2 := by
  rcases act_cases deployment op choice world with acted | ⟨fault, -, -, failed⟩
  · rw [acted]
    exact catalogued.effect orderly choice
  · rw [failed]
    cases fault.extent with
    | nothing => exact catalogued
    | everything => exact catalogued.effect orderly choice
    | objectOnly =>
      cases op with
      | put place data sidecar => exact catalogued.link place data
      | _ => exact catalogued

end

/-! ## The parts of an attempt that are orderly -/

section

variable {deployment : Deployment}

/-- The part of a program performs orderly effects only. -/
abbrev Orderly (deployment : Deployment) {α : Type} (program : Action α) : Prop :=
  program.Uses (S := signature) (Op.Orderly deployment)

/-- What neither uploads to Bronze nor settles a row as `PROCESSED` is orderly. -/
theorem Aside.orderly {α : Type} {program : Action α} (aside : Aside deployment program) :
    Orderly deployment program := by
  refine aside.mono fun op allowed => ?_
  cases op with
  | put place data sidecar => exact fun bronze => absurd bronze allowed
  | transition fileId status updates => exact allowed
  | _ => trivial

end

/-! ## The metadata of a Bronze object -/

section

variable {deployment : Deployment}

/-- The metadata name the file and the partner. -/
structure Describes (file : SourceFile) (partnerId : PyStr) (metadata : Metadata) : Prop where
  /-- The file. -/
  file : metadata.get? "source_file_name" = some file.name
  /-- The partner. -/
  partner : metadata.get? "partner_id" = some partnerId

/-- A text that `sanitize_metadata` keeps as it is. -/
def Kept (text : PyStr) : Prop := text ≠ [] ∧ Cdc.sanitizeValue text = text

/-- A permitted field with such a text is found after `sanitize_metadata`. -/
theorem get?_sanitized {metadata : Metadata} {name value : PyStr}
    (found : metadata.get? name = some value) (permitted : name ∈ Cdc.safeMetadataFields)
    (kept : Kept value) : (Cdc.sanitizeMetadata metadata).get? name = some value := by
  have sanitized := Cdc.get?_sanitizeMetadata (Cdc.Metadata.find?_of_get? found) permitted
    (by rw [kept.2]; exact kept.1)
  rw [kept.2] at sanitized
  exact sanitized

/-- More fields do not hide a field. -/
theorem get?_append {metadata more : Metadata} {name value : PyStr}
    (found : metadata.get? name = some value) : (metadata ++ more).get? name = some value := by
  unfold Cdc.Metadata.get?
  rw [List.find?_append, Cdc.Metadata.find?_of_get? found]
  rfl

/-- The name and the partner of an accepted file survive in the metadata. -/
theorem parsed_kept {expected name : PyStr} {filename : FilenameMetadata}
    (v1 : deployment.contract = settlementV1)
    (parsed : parseSettlementFilename deployment.contract expected name = .ok filename) :
    Kept name ∧ Kept filename.partnerId := by
  obtain ⟨-, -, -, -, date, sequence, matched, -⟩ := parseSettlementFilename_ok_iff.mp parsed
  rw [v1] at matched
  have kept : ∀ text : PyStr, text ≠ [] → text.length ≤ 1024 →
      (∀ code ∈ text, isNameCharacter code = true) → Kept text := fun text filled short valid =>
    ⟨filled, Cdc.sanitizeValue_visible
      (fun code member => (isNameCharacter_visible (valid code member)).1) short⟩
  obtain ⟨short, characters⟩ := settlementName_characters matched
  obtain ⟨known, -, -, -, text⟩ := settlementName_spec matched
  obtain ⟨most, letters⟩ := isPartnerId_characters known
  refine ⟨kept name ?_ short characters, kept _ ?_ (by omega) letters⟩
  · rw [text]
    exact List.append_ne_nil_of_left_ne_nil (by decide) _
  · intro empty
    rw [empty] at known
    cases known

/-- The object of an accepted file is labelled. -/
theorem sidecarFor_labelled {place : Location} {file : SourceFile} {partnerId checksum : PyStr}
    {settlementDate ingestionDate : Date} {metadata : Metadata}
    (segments : splitChar 47 place.key =
      bronzeSegments partnerId settlementDate ingestionDate checksum file.name)
    (describes : Describes file partnerId metadata) (name : Kept file.name)
    (partner : Kept partnerId) (declared contentType : PyStr) (more : Metadata) :
    Labelled place (Cdc.sidecarFor declared contentType (metadata ++ more)) := by
  refine ⟨partnerId, settlementDate, ingestionDate, checksum, file.name, segments, ?_, ?_⟩
  · exact get?_sanitized (get?_sanitized (get?_append (get?_append describes.file)) (by decide)
      name) (by decide) name
  · exact get?_sanitized (get?_sanitized (get?_append (get?_append describes.partner)) (by decide)
      partner) (by decide) partner

/-- `copy_to_bronze` of an accepted file. -/
theorem copyToBronze_orderly {file : SourceFile} {partnerId : PyStr} {metadata : Metadata}
    (describes : Describes file partnerId metadata) (name : Kept file.name)
    (partner : Kept partnerId) (settlementDate ingestionDate : Date) (checksum : PyStr) :
    Orderly deployment (copyToBronze deployment file partnerId settlementDate ingestionDate
      checksum metadata) := by
  refine Program.Uses.ofExcept_bind fun key built => ?_
  unfold putImmutable
  split
  · trivial
  · refine Program.Uses.ofExcept_bind fun place located => ?_
    refine Program.Uses.bind (Program.Uses.request fun _ => ?_) fun _ => trivial
    exact sidecarFor_labelled (bronzePlace built located).2 describes name partner ..

end

/-! ## The attempt -/

section

variable {deployment : Deployment} {known : IngestRequest → Prop}

/-- The rules of an attempt, under which uploads meet their own bytes. -/
abbrev anyPolicy (deployment : Deployment) : Policy deployment :=
  Policy.exact deployment fun _ => True

/-- The part of a program keeps the catalogue. -/
abbrev Carries (deployment : Deployment) (known : IngestRequest → Prop) {α : Type}
    (post : α → World → Prop) (program : Action α) (world : World) : Prop :=
  Preserves deployment (anyPolicy deployment).admits (Catalogued deployment known) post program
    world

/-- An orderly part carries the catalogue wherever it starts. -/
theorem Orderly.carries {α : Type} {program : Action α} (orderly : Orderly deployment program)
    (world : World) : Carries deployment known (fun _ _ => True) program world :=
  Meets.of_uses orderly (fun _ allowed choice world => Catalogued.act allowed choice world) world

/-- An orderly part that keeps the rules ends as they say. -/
theorem Orderly.ending {α : Type} {post : α → World → Prop} {program : Action α} {world : World}
    (orderly : Orderly deployment program)
    (keeps : (anyPolicy deployment).Keeps post program world) :
    Carries deployment known post program world :=
  keeps.within orderly (fun _ _ same => same) (fun _ _ _ _ admitted => admitted)
    fun _ allowed choice world => Catalogued.act allowed choice world

/-- `_storage_metadata` names the file and the partner. -/
theorem storageMetadata_describes (file : SourceFile) (partnerId checksum runId : PyStr)
    (validation : Option FileValidationResult) (now : Instant) (world : World) :
    (anyPolicy deployment).Keeps
      (fun metadata end' => end' = world ∧ Describes file partnerId metadata)
      (storageMetadata deployment file partnerId checksum runId validation now) world :=
  Policy.Keeps.seq (Policy.sizeSource_keeps file world) fun _ _ ends => ⟨ends.2, rfl, rfl⟩

/-- `copy_to_bronze` for a row that is being processed: the file is where its key says. -/
theorem copyToBronze_places {file : SourceFile} {settlementDate ingestionDate : Date}
    {metadata : Metadata} {row : ManifestRecord} {world : World} (current : Current row world)
    (processing : row.status = .processing)
    (content : deployment.sha.hexdigest file.data = row.checksumSha256) :
    (anyPolicy deployment).Keeps (fun uri end' => ∃ key place,
      deployment.backend.locate deployment.bronzeBucket key = .ok place ∧ uri = place.2 ∧
      splitChar 47 place.1.key = bronzeSegments row.partnerId settlementDate ingestionDate
        row.checksumSha256 file.name ∧
      Policy.Placed (anyPolicy deployment) place file.data world end')
      (copyToBronze deployment file row.partnerId settlementDate ingestionDate
        row.checksumSha256 metadata) world := by
  refine Policy.Keeps.seq (M := fun key end' => end' = world ∧ buildBronzeObjectKey row.partnerId
    settlementDate ingestionDate row.checksumSha256 file.name = .ok key)
    (Policy.Keeps.ofExcept fun key built => ⟨rfl, built⟩) ?_
  rintro key end'' ⟨rfl, built⟩
  unfold putImmutable
  rw [if_neg (not_not.mpr content)]
  refine Policy.Keeps.seq (M := fun place end' => end' = end'' ∧
    deployment.backend.locate deployment.bronzeBucket key = .ok place)
    (Policy.Keeps.ofExcept fun place located => ⟨rfl, located⟩) ?_
  rintro place end' ⟨rfl, located⟩
  obtain ⟨bucket, segments⟩ := bronzePlace built located
  refine Policy.Keeps.seq (Policy.put_keeps content (fun _ => ?_) fun quarantine => ?_) ?_
  · exact ⟨row, current, processing, by rw [segments]; rfl, content⟩
  · exact absurd (bucket.symm.trans quarantine) deployment.buckets_differ
  · intro _ end' placed
    exact ⟨key, place, located, rfl, segments, placed⟩

/-- The transition to `PROCESSED` of a row that stands for an accepted file. -/
theorem processed_carries {row : ManifestRecord} {accepted : Accepted deployment}
    (place : Location × PyStr) {updates : List Assignment} {world : World}
    (current : Current row world) (given : known accepted.request)
    (published : PublishedAs world (row.assign .processed updates) accepted place) :
    Carries deployment known (fun _ _ => True)
      (perform (.transition row.fileId .processed updates)) world := by
  refine Meets.request ?_
  rintro moved ⟨rfl⟩ choice -
  have took : Catalogued deployment known world → Catalogued deployment known
      (effect deployment (.transition row.fileId .processed updates) choice world).2 := by
    intro catalogued
    rcases transition_spec world.manifest row.fileId .processed updates with
      ⟨other, found, -, done⟩ | ⟨problem, -, done⟩
    · unfold Current at current
      rw [current] at found
      obtain rfl := Option.some.inj found
      simp only [effect, done]
      exact catalogued.moved (row.assign_same .processed updates).1 fun _ =>
        ⟨accepted, place, given, published⟩
    · simp only [effect, done]
      exact catalogued
  rcases act_cases deployment (.transition row.fileId .processed updates) choice world with
    acted | ⟨fault, -, -, failed⟩
  · rw [acted]
    refine ⟨took, ?_⟩
    split
    · trivial
    · trivial
  · rw [failed]
    refine ⟨fun catalogued => ?_, trivial⟩
    cases fault.extent with
    | everything => exact took catalogued
    | nothing => exact catalogued
    | objectOnly => exact catalogued

/-- The uploads and the transition to `PROCESSED` for an accepted file. -/
theorem processFile_carries {attempt : Attempt} {record : ManifestRecord} {metadata : Metadata}
    {world : World} (v1 : deployment.contract = settlementV1) (accepted : Accepted deployment)
    (given : known accepted.request) (file : accepted.request.file = attempt.file)
    (name : accepted.filename = attempt.filename)
    (stands : Policy.Stands deployment record attempt.file attempt.filename.partnerId world)
    (content : attempt.checksum = deployment.sha.hexdigest attempt.file.data)
    (processing : record.status = .processing)
    (records : record.recordCount = accepted.validation.recordCount)
    (accepts : record.acceptedCount = accepted.validation.acceptedRecords.length)
    (rejects : record.rejectedCount = accepted.validation.rejectedRecords.length)
    (describes : Describes attempt.file attempt.filename.partnerId metadata) :
    Carries deployment known (fun _ _ => True)
      (processFile deployment attempt record accepted.validation metadata) world := by
  refine Preserves.rescue ?_ fun problem end' => (failManifest_aside ..).orderly.carries end'
  obtain ⟨kept, partner⟩ := parsed_kept v1 accepted.parsed
  rw [file] at kept
  rw [name] at partner
  rw [content, ← stands.content]
  rw [← stands.partner] at describes partner ⊢
  refine Preserves.seq ((copyToBronze_orderly describes kept partner ..).ending
    (copyToBronze_places stands.current processing stands.content.symm)) ?_
  rintro uri end' ⟨key, place, located, rfl, segments, placed⟩
  refine Preserves.seq ((listRejected_aside ..).orderly.ending
    (Policy.listRejected_keeps trivial)) ?_
  rintro listing end'' ⟨manifest, preserved, -⟩
  have current : Current record end'' := by
    unfold Current
    rw [manifest, placed.manifest]
    exact stands.current
  obtain ⟨stored, present, same, -⟩ := placed.present
  obtain ⟨still, present', same'⟩ := preserved place.1 stored present
  refine Preserves.seq (processed_carries place current given ?_) fun _ _ _ => trivial
  refine ⟨rfl, ⟨key, located⟩, ⟨attempt.now.date, record.checksumSha256, ?_⟩,
    ⟨still, present', ?_⟩, ?_, records, accepts, rejects⟩
  · rw [name, file, ← stands.partner]
    exact segments
  · rw [file]
    exact same'.trans same
  · rw [file]
    exact stands.content.symm

/-- `ingest_file` from the transition to `VALIDATING` on. -/
theorem settleFile_carries {strict : Bool} {attempt : Attempt} {record : ManifestRecord}
    {request : IngestRequest} {world : World} (v1 : deployment.contract = settlementV1)
    (given : known request) (file : request.file = attempt.file)
    (parsed : parseSettlementFilename deployment.contract request.expectedPartnerId
      request.file.name = .ok attempt.filename)
    (stands : Policy.Stands deployment record attempt.file attempt.filename.partnerId world)
    (content : attempt.checksum = deployment.sha.hexdigest attempt.file.data) :
    Carries deployment known (fun _ _ => True) (settleFile deployment strict attempt record)
      world := by
  refine Preserves.seq (Orderly.ending (Program.Uses.request trivial)
    (Policy.sizeSource_keeps attempt.file world)) ?_
  rintro size _ ⟨-, rfl⟩
  refine Preserves.seq ((transition_aside _ _ (by decide)).orderly.ending
    (Policy.transition_stands stands (by decide) (Policy.Counted.same _ rfl))) ?_
  rintro validating opened ⟨-, standing, -⟩
  refine Preserves.seq ((validate_aside ..).orderly.ending (Policy.validate_keeps attempt.file
    attempt.filename attempt.now attempt.runId opened)) ?_
  rintro validation _ ⟨rfl, judged⟩
  refine Preserves.seq ((storageMetadata_aside ..).orderly.ending
    (storageMetadata_describes _ _ _ _ _ _ _)) ?_
  rintro metadata _ ⟨rfl, describes⟩
  by_cases valid : validation.fileIsValid = true
  · rw [if_neg (not_not.mpr valid)]
    have verdict := judged.resolve_right fun refused => by
      rw [valid] at refused
      cases refused.1
    refine Preserves.seq ((transition_aside _ _ (by decide)).orderly.ending
      (Policy.transition_stands standing (by decide) (Or.inr trivial))) ?_
    rintro validated end' ⟨columns, still, -⟩
    split
    · exact (quarantineStrictFile_aside ..).orderly.carries end'
    · refine Preserves.seq ((transition_aside _ _ (by decide)).orderly.ending
        (Policy.transition_stands still (by decide) (Policy.Counted.same _ rfl))) ?_
      rintro processing end'' ⟨columns', standing', -⟩
      refine processFile_carries v1 ⟨request, attempt.filename, _, validation, parsed,
        by rw [file]; exact verdict, valid⟩ given file rfl standing' content ?_ ?_ ?_ ?_ describes
      · rw [columns']
        rfl
      all_goals
        rw [columns', columns]
        rfl
  · rw [if_pos valid]
    exact (quarantineInvalidFile_aside ..).orderly.carries _

/-- `ingest_file` keeps the catalogue. -/
theorem ingestFile_carries {request : IngestRequest} {world : World}
    (v1 : deployment.contract = settlementV1) (given : known request) :
    Carries deployment known (fun _ _ => True) (ingestFile deployment request) world := by
  refine Preserves.seq (Orderly.ending (Program.Uses.request trivial) (Policy.now_keeps world)) ?_
  rintro now _ rfl
  refine Preserves.seq (Orderly.ending (Program.Uses.request trivial)
    (Policy.newRunId_keeps _)) ?_
  rintro runId _ ⟨-, rfl⟩
  cases parsed : parseSettlementFilename deployment.contract request.expectedPartnerId
      request.file.name with
  | error problem =>
    dsimp only
    exact (handleFilenameRejection_aside ..).orderly.carries _
  | ok filename =>
    dsimp only
    refine Preserves.seq (Orderly.ending (Program.Uses.request trivial)
      (Policy.hashSource_keeps request.file _)) ?_
    rintro checksum _ ⟨rfl, rfl⟩
    split
    · refine Orderly.carries (Program.Uses.bind (validate_aside ..).orderly fun _ => ?_) _
      trivial
    · refine Preserves.seq (Orderly.ending (Program.Uses.request trivial)
        (Policy.sizeSource_keeps request.file _)) ?_
      rintro size _ ⟨-, rfl⟩
      refine Preserves.seq (Orderly.ending (Program.Uses.request trivial)
        (Policy.register_keeps trivial _)) ?_
      rintro ⟨record, kind⟩ end' ⟨current, partner, content, -⟩
      dsimp only
      split
      · trivial
      · exact settleFile_carries v1 given rfl parsed ⟨current, partner, content⟩ rfl

/-- At every moment of every history without collisions Bronze is catalogued. -/
theorem history_catalogued (v1 : deployment.contract = settlementV1)
    (events : List (Event IngestRequest Choice)) (free : CollisionFree deployment events) :
    Catalogued deployment (fun request => .start request ∈ events)
      ((ingestor deployment).moment events .empty) := by
  have tracks : Tracks (fun before after =>
      Catalogued deployment (fun request => .start request ∈ events) before →
        Catalogued deployment (fun request => .start request ∈ events) after)
      (fun _ _ => True) := ⟨fun _ => trivial, fun _ _ => trivial, fun _ => trivial⟩
  have admitted : (ingestor deployment).Admitted (fun request _ => .start request ∈ events)
      (anyPolicy deployment).admits events (.done (), .empty) := by
    refine (ingestor deployment).admitted_imp events _ (fun _ _ member _ => member) ?_
      (CollisionFree.admitted free fun _ _ => trivial)
    intro _ _ _ _ allowed
    exact allowed
  exact ((ingestor deployment).keeps_admitted tracks (fun _ _ step before => step before)
    (fun request world catalogued given => ⟨catalogued, trivial,
      Preserves.seq (ingestFile_carries v1 given) fun _ _ _ => trivial⟩)
    events (.done (), .empty) admitted empty_catalogued trivial).1

end

end Settlement
