import PaymentsPlatform.Settlement.Uploads

/-!
# A content is in Bronze once

The key of a Bronze object holds the file name and the ingestion date of the attempt that uploads
it; the rest of the key follows from the name and the content. An attempt that publishes a content
which Bronze holds already therefore finds that object when its own name and date are those of the
stored key, and writes a second one otherwise.
-/

namespace Settlement

open Python Effects
open Cdc (Location StoredFile Metadata)

/-- What the name says of a file that is published unless its content is settled: the name is
accepted, and the content as a whole, and in strict mode every row. -/
def IngestRequest.publishedAs (contract : SettlementContract) (request : IngestRequest) :
    Option FilenameMetadata :=
  if request.dryRun then none
  else match parseSettlementFilename contract request.expectedPartnerId request.file.name with
    | .error _ => none
    | .ok filename =>
      match validateSettlementFile contract filename ⟨request.file.name, Instant.epoch, []⟩
          request.file.data with
      | .error _ => none
      | .ok validation =>
        if validation.fileIsValid = false ∨
            (validation.rejectedRecords ≠ [] ∧ request.failOnRejectedRecords = true) then none
        else some filename

/-- The key of the object has this file name and this ingestion date. -/
def StoredAs (location : Location) (fileName : PyStr) (ingestionDate : Date) : Prop :=
  (splitChar 47 location.key)[5]? = some fileName ∧
    (splitChar 47 location.key)[3]? = some (py "ingestion_date=" ++ ingestionDate.isoformat)

/-- An attempt at this time that publishes a content finds it in Bronze, if at all, under its own
file name and the UTC date of the time. -/
def RepeatsKey (deployment : Deployment) (request : IngestRequest) (now : Instant)
    (world : World) : Prop :=
  ∀ filename, request.publishedAs deployment.contract = some filename →
    ¬ Settled world filename.partnerId (deployment.sha.hexdigest request.file.data) →
    ∀ location, InBronze deployment world filename.partnerId
      (deployment.sha.hexdigest request.file.data) location →
      StoredAs location request.file.name now.date

/-- The attempt that starts in this world reads such a time from the clock. -/
def ReadsClock (deployment : Deployment) (request : IngestRequest) (start : World) :
    Op → Choice → World → Prop
  | .now, choice, _ => RepeatsKey deployment request choice.clock start
  | _, _, _ => True

/-- No content is in Bronze twice for a partner. -/
def Single (deployment : Deployment) (world : World) : Prop :=
  ∀ partnerId checksum first second, InBronze deployment world partnerId checksum first →
    InBronze deployment world partnerId checksum second → first = second

/-- The place is one for this content under this file name and date. -/
structure KeyedBy (deployment : Deployment) (location : Location) (data : Bytes)
    (fileName : PyStr) (filename : FilenameMetadata) (ingestionDate : Date) : Prop where
  /-- The name is accepted. -/
  parsed : ∃ expected, parseSettlementFilename deployment.contract expected fileName = .ok filename
  /-- The key is built from it. -/
  segments : splitChar 47 location.key = bronzeSegments filename.partnerId
    filename.settlementDate ingestionDate (deployment.sha.hexdigest data) fileName

/-- Every Bronze object is where its name, date and content put it, and none is there twice. -/
structure Once (deployment : Deployment) (world : World) : Prop where
  /-- The keys. -/
  keyed : ∀ location file, location.bucket = deployment.bronzeBucket →
    world.objects location = some file →
    ∃ fileName filename ingestionDate,
      KeyedBy deployment location file.data fileName filename ingestionDate
  /-- The contents. -/
  single : Single deployment world

/-! ## The key of a content -/

section

variable {deployment : Deployment}

/-- One name says one thing. -/
theorem parsed_unique {contract : SettlementContract} {expected expected' name : PyStr}
    {filename filename' : FilenameMetadata}
    (parsed : parseSettlementFilename contract expected name = .ok filename)
    (parsed' : parseSettlementFilename contract expected' name = .ok filename') :
    filename.partnerId = filename'.partnerId ∧
      filename.settlementDate = filename'.settlementDate := by
  obtain ⟨-, -, -, -, date, sequence, matched, dated, -⟩ := parseSettlementFilename_ok_iff.mp parsed
  obtain ⟨-, -, -, -, date', sequence', matched', dated', -⟩ :=
    parseSettlementFilename_ok_iff.mp parsed'
  obtain ⟨partner, rfl, -⟩ := Prod.mk.inj (Option.some.inj (matched.symm.trans matched'))
    |>.imp_right Prod.mk.inj
  exact ⟨partner, Option.some.inj (dated.symm.trans dated')⟩

/-- Two places for one content under one name and date are one. -/
theorem KeyedBy.unique {first second : Location} {data data' : Bytes} {fileName fileName' : PyStr}
    {filename filename' : FilenameMetadata} {ingestionDate ingestionDate' : Date}
    (keyed : KeyedBy deployment first data fileName filename ingestionDate)
    (again : KeyedBy deployment second data' fileName' filename' ingestionDate')
    (bucket : first.bucket = second.bucket)
    (content : deployment.sha.hexdigest data = deployment.sha.hexdigest data')
    (stored : StoredAs first fileName' ingestionDate') : first = second := by
  obtain ⟨named, dated⟩ := stored
  rw [keyed.segments] at named dated
  have name : fileName = fileName' := Option.some.inj named
  have date : py "ingestion_date=" ++ ingestionDate.isoformat =
      py "ingestion_date=" ++ ingestionDate'.isoformat := Option.some.inj dated
  subst name
  obtain ⟨expected, parsed⟩ := keyed.parsed
  obtain ⟨expected', parsed'⟩ := again.parsed
  obtain ⟨partner, settlement⟩ := parsed_unique parsed parsed'
  have segments : splitChar 47 first.key = splitChar 47 second.key := by
    rw [keyed.segments, again.segments, bronzeSegments, bronzeSegments, partner, settlement, date,
      content]
  have key : first.key = second.key := by
    rw [← intercalate_splitChar 47 first.key, segments, intercalate_splitChar]
  obtain ⟨bucket', key'⟩ := first
  obtain ⟨bucket'', key''⟩ := second
  cases bucket
  cases key
  rfl

/-- The partner of a key is the one whose directory it is in. -/
theorem KeyedBy.partner {location : Location} {data : Bytes} {fileName partnerId : PyStr}
    {filename : FilenameMetadata} {ingestionDate : Date}
    (keyed : KeyedBy deployment location data fileName filename ingestionDate)
    (directory : (splitChar 47 location.key).take 2 = partnerSegments partnerId) :
    filename.partnerId = partnerId := by
  rw [keyed.segments] at directory
  exact partnerSegments_inj directory

/-! ## What the effects keep -/

/-- Nothing is in Bronze at first. -/
theorem empty_once : Once deployment World.empty where
  keyed _ _ _ present := by cases present
  single _ _ _ _ inside := by
    obtain ⟨-, -, file, present, -⟩ := inside
    cases present

/-- Whether an object is in Bronze once depends on the bucket only. -/
theorem Once.congr {before after : World} (once : Once deployment before)
    (same : ∀ location, location.bucket = deployment.bronzeBucket →
      after.objects location = before.objects location) : Once deployment after where
  keyed location file bucket present :=
    once.keyed location file bucket ((same location bucket).symm.trans present)
  single partnerId checksum first second left right :=
    once.single partnerId checksum first second (left.congr (same first left.1))
      (right.congr (same second right.1))

/-- An object is set in Bronze: its bytes were there, or it is the first with its content. -/
theorem Once.setObject {world : World} (once : Once deployment world) {place : Location}
    {data : Bytes} {file : StoredFile} {fileName : PyStr} {filename : FilenameMetadata}
    {ingestionDate : Date}
    (keyed : KeyedBy deployment place data fileName filename ingestionDate)
    (alone : ∀ location, InBronze deployment world filename.partnerId
      (deployment.sha.hexdigest data) location → location = place)
    (fresh : world.objects place = none → file.data = data)
    (kept : ∀ old, world.objects place = some old → old.data = file.data) :
    Once deployment (world.setObject place file) where
  keyed location stored bucket present := by
    obtain ⟨rfl, rfl⟩ | before := setObject_cases present
    · cases held : world.objects location with
      | none => exact ⟨fileName, filename, ingestionDate, by rw [fresh held]; exact keyed⟩
      | some old =>
        rw [← kept old held]
        exact once.keyed location old bucket held
    · exact once.keyed location stored bucket before
  single partnerId checksum first second left right := by
    obtain before | ⟨rfl, free, -, directory, digest⟩ := left.of_setObject kept
    · obtain also | ⟨rfl, free, -, directory, digest⟩ := right.of_setObject kept
      · exact once.single partnerId checksum first second before also
      · obtain rfl := keyed.partner directory
        rw [fresh free] at digest
        exact alone first (digest ▸ before)
    · obtain also | ⟨rfl, -⟩ := right.of_setObject kept
      · obtain rfl := keyed.partner directory
        rw [fresh free] at digest
        exact (alone second (digest ▸ also)).symm
      · rfl

/-- An effect leaves a place alone. -/
def Op.Leaves (location : Location) : Op → Prop
  | .put place _ _ => location ≠ place.1
  | _ => True

/-- What is at such a place stays, also when the effect fails. -/
theorem act_leaves {location : Location} {op : Op} (leaves : op.Leaves location) (choice : Choice)
    (world : World) :
    ((machine deployment).act op choice world).2.objects location = world.objects location := by
  have taken : (effect deployment op choice world).2.objects location =
      world.objects location := by
    cases op with
    | put place data sidecar =>
      change (putEffect deployment.sha place data sidecar world).2.objects location = _
      unfold putEffect
      split
      · exact Function.update_of_ne leaves ..
      · split
        · exact Function.update_of_ne leaves ..
        · rfl
    | _ => rfl
  obtain acted | ⟨fault, -, -, failed⟩ := act_cases deployment op choice world
  · rw [acted, taken]
  · rw [failed]
    cases fault.extent with
    | nothing => rfl
    | everything => exact taken
    | objectOnly =>
      cases op with
      | put place data sidecar =>
        change (linkEffect place data world).objects location = _
        unfold linkEffect
        split
        · exact Function.update_of_ne leaves ..
        · rfl
      | _ => rfl

/-- An upload to Bronze keeps the contents apart when its own one is at this place or nowhere. -/
theorem Once.put {world : World} (once : Once deployment world) {place : Location × PyStr}
    {data : Bytes} {fileName : PyStr} {filename : FilenameMetadata} {ingestionDate : Date}
    (keyed : KeyedBy deployment place.1 data fileName filename ingestionDate)
    (alone : ∀ location, InBronze deployment world filename.partnerId
      (deployment.sha.hexdigest data) location → location = place.1)
    (sidecar : Cdc.Sidecar) (choice : Choice) :
    Once deployment ((machine deployment).act (.put place data sidecar) choice world).2 := by
  have taken : Once deployment (putEffect deployment.sha place data sidecar world).2 := by
    unfold putEffect
    cases held : world.objects place.1 with
    | none => exact once.setObject keyed alone (fun _ => rfl) (by simp [held])
    | some existing =>
      dsimp only
      split
      · refine once.setObject keyed alone (by simp [held]) ?_
        rw [held]
        rintro old ⟨rfl⟩
        rfl
      · exact once
  obtain acted | ⟨fault, -, -, failed⟩ :=
    act_cases deployment (.put place data sidecar) choice world
  · rw [acted]
    exact taken
  · rw [failed]
    cases fault.extent with
    | nothing => exact once
    | everything => exact taken
    | objectOnly =>
      change Once deployment (linkEffect place data world)
      unfold linkEffect
      cases held : world.objects place.1 with
      | none => exact once.setObject keyed alone (fun _ => rfl) (by simp [held])
      | some existing => exact once

/-! ## The attempt -/

/-- The part of a program keeps the contents of Bronze apart. -/
abbrev Separates (deployment : Deployment) (request : IngestRequest) (start : World) {α : Type}
    (post : α → World → Prop) (program : Action α) (world : World) : Prop :=
  Preserves deployment (ReadsClock deployment request start) (Once deployment) post program world

variable {request : IngestRequest} {start world : World}

/-- An effect that uploads nothing to Bronze. -/
theorem Op.Aside.once {op : Op} (aside : op.Aside deployment) (choice : Choice) (world : World)
    (once : Once deployment world) :
    Once deployment ((machine deployment).act op choice world).2 := by
  refine once.congr fun location bucket => act_leaves ?_ choice world
  cases op with
  | put place data sidecar =>
    rintro rfl
    exact aside bucket
  | _ => trivial

/-- A part that uploads nothing to Bronze. -/
theorem Aside.separates {α : Type} {program : Action α} (aside : Aside deployment program)
    (world : World) : Separates deployment request start (fun _ _ => True) program world :=
  Meets.of_uses aside (fun _ allowed => allowed.once) world

/-- Such a part ends as the rules of an attempt say. -/
theorem Aside.ending {α : Type} {post : α → World → Prop} {program : Action α}
    (aside : Aside deployment program)
    (keeps : (Policy.free deployment).Keeps post program world) :
    Separates deployment request start post program world :=
  keeps.within aside (fun _ _ same => same)
    (fun op _ choice world _ => Policy.free_admits op choice world) fun _ allowed => allowed.once

/-- The clock that an attempt reads. -/
theorem now_separates : Separates deployment request start (fun now end' => end' = world ∧
    RepeatsKey deployment request now start) (perform .now) world := by
  refine Meets.request ?_
  rintro moved ⟨rfl⟩ choice repeats
  obtain acted | ⟨fault, -, can, -⟩ := act_cases deployment .now choice world
  · rw [acted]
    exact ⟨fun once => once, rfl, repeats⟩
  · cases can

/-- `copy_to_bronze` of a file that Bronze has under its own name and date only. -/
theorem copyToBronze_separates {file : SourceFile} {filename : FilenameMetadata}
    {expected : PyStr} {ingestionDate : Date} (metadata : Metadata)
    (parsed : parseSettlementFilename deployment.contract expected file.name = .ok filename)
    (found : ∀ location, InBronze deployment world filename.partnerId
      (deployment.sha.hexdigest file.data) location →
      StoredAs location file.name ingestionDate) :
    Separates deployment request start (fun _ _ => True)
      (copyToBronze deployment file filename.partnerId filename.settlementDate ingestionDate
        (deployment.sha.hexdigest file.data) metadata) world := by
  refine Preserves.seq (M := fun key end' => end' = world ∧ buildBronzeObjectKey
    filename.partnerId filename.settlementDate ingestionDate
    (deployment.sha.hexdigest file.data) file.name = .ok key)
    (Meets.ofExcept (fun key built => ⟨rfl, built⟩) fun _ _ => trivial) ?_
  rintro key end' ⟨rfl, built⟩
  unfold putImmutable
  rw [if_neg (not_not.mpr rfl)]
  refine Preserves.seq (M := fun place end'' => end'' = end' ∧
    deployment.backend.locate deployment.bronzeBucket key = .ok place)
    (Meets.ofExcept (fun place located => ⟨rfl, located⟩) fun _ _ => trivial) ?_
  rintro place end'' ⟨rfl, located⟩
  obtain ⟨bucket, segments⟩ := bronzePlace built located
  have keyed : KeyedBy deployment place.1 file.data file.name filename ingestionDate :=
    ⟨⟨expected, parsed⟩, segments⟩
  refine Preserves.seq (M := fun _ _ => True) (Meets.request ?_) fun _ _ _ => trivial
  rintro moved ⟨rfl⟩ choice -
  refine ⟨fun once => once.put keyed ?_ _ choice, ?_⟩
  · intro location inside
    obtain ⟨bucket', directory, stored, present, digest⟩ := inside
    obtain ⟨fileName, filename', date, keyed'⟩ := once.keyed location stored bucket' present
    exact keyed'.unique keyed (bucket'.trans bucket.symm) digest
      (found location ⟨bucket', directory, stored, present, digest⟩)
  · split
    · trivial
    · trivial

/-- The uploads and the transition to `PROCESSED`. -/
theorem processFile_separates {attempt : Attempt} {expected : PyStr} (record : ManifestRecord)
    (validation : FileValidationResult) (metadata : Metadata)
    (parsed : parseSettlementFilename deployment.contract expected attempt.file.name =
      .ok attempt.filename)
    (content : attempt.checksum = deployment.sha.hexdigest attempt.file.data)
    (found : ∀ location, InBronze deployment world attempt.filename.partnerId
      (deployment.sha.hexdigest attempt.file.data) location →
      StoredAs location attempt.file.name attempt.now.date) :
    Separates deployment request start (fun _ _ => True)
      (processFile deployment attempt record validation metadata) world := by
  refine Preserves.rescue ?_ fun problem end' => (failManifest_aside ..).separates end'
  rw [content]
  refine Preserves.seq (copyToBronze_separates metadata parsed found) ?_
  rintro uri end' -
  refine Preserves.seq ((listRejected_aside ..).separates end') ?_
  rintro listing end'' -
  refine Preserves.seq (M := fun _ _ => True) (Meets.request ?_) fun _ _ _ => trivial
  rintro moved ⟨rfl⟩ choice -
  refine ⟨fun once => once.congr fun location _ => act_leaves ?_ choice end'', ?_⟩
  · exact trivial
  split
  · trivial
  · trivial

/-- `ingest_file` from the transition to `VALIDATING` on. -/
theorem settleFile_separates {strict : Bool} {attempt : Attempt} {expected : PyStr}
    (record : ManifestRecord)
    (parsed : parseSettlementFilename deployment.contract expected attempt.file.name =
      .ok attempt.filename)
    (content : attempt.checksum = deployment.sha.hexdigest attempt.file.data)
    (found : ∀ validation, validateSettlementFile deployment.contract attempt.filename
        ⟨attempt.file.name, attempt.now, attempt.runId⟩ attempt.file.data = .ok validation →
      validation.fileIsValid = true → ¬ (validation.rejectedRecords ≠ [] ∧ strict = true) →
      ∀ location, InBronze deployment world attempt.filename.partnerId
        (deployment.sha.hexdigest attempt.file.data) location →
        StoredAs location attempt.file.name attempt.now.date) :
    Separates deployment request start (fun _ _ => True)
      (settleFile deployment strict attempt record) world := by
  refine Preserves.seq (Aside.ending (Program.Uses.request trivial)
    (Policy.sizeSource_keeps attempt.file world)) ?_
  rintro size world ⟨-, rfl⟩
  refine Preserves.seq ((transition_aside _ _ (by decide)).ending
    (Policy.transition_open_keeps (by decide) fun _ _ _ => Or.inr trivial)) ?_
  rintro validating opened ⟨-, kept, -⟩
  refine Preserves.seq ((validate_aside ..).ending (Policy.validate_keeps attempt.file
    attempt.filename attempt.now attempt.runId opened)) ?_
  rintro validation _ ⟨rfl, judged⟩
  refine Preserves.seq ((storageMetadata_aside ..).ending
    (Policy.storageMetadata_keeps _ _ _ _ _ _ _)) ?_
  rintro metadata _ rfl
  by_cases valid : validation.fileIsValid = true
  · rw [if_neg (not_not.mpr valid)]
    have verdict := judged.resolve_right fun refused => by
      rw [valid] at refused
      cases refused.1
    refine Preserves.seq ((transition_aside _ _ (by decide)).ending
      (Policy.transition_open_keeps (by decide) fun _ _ _ => Or.inr trivial)) ?_
    rintro validated end' ⟨-, kept', -⟩
    by_cases strictly : validation.rejectedRecords ≠ [] ∧ strict = true
    · rw [if_pos strictly]
      exact (quarantineStrictFile_aside ..).separates end'
    · rw [if_neg strictly]
      refine Preserves.seq ((transition_aside _ _ (by decide)).ending
        (Policy.transition_open_keeps (by decide) fun _ _ _ => Or.inr trivial)) ?_
      rintro processing end'' ⟨-, kept'', -⟩
      refine processFile_separates _ _ _ parsed content fun location inside => ?_
      -- Bronze is still as the attempt found it
      refine found validation verdict valid strictly location (inside.congr ?_)
      rw [kept'', kept', kept]
  · rw [if_pos valid]
    exact (quarantineInvalidFile_aside ..).separates _

/-- A file that is validated and not sent to quarantine is one that is published. -/
theorem publishedAs_of_validated {contract : SettlementContract} {filename : FilenameMetadata}
    {context : RejectionContext} {validation : FileValidationResult}
    (wet : ¬ request.dryRun = true)
    (parsed : parseSettlementFilename contract request.expectedPartnerId request.file.name =
      .ok filename)
    (judged : validateSettlementFile contract filename context request.file.data = .ok validation)
    (valid : validation.fileIsValid = true)
    (lenient : ¬ (validation.rejectedRecords ≠ [] ∧ request.failOnRejectedRecords = true)) :
    request.publishedAs contract = some filename := by
  have same := validateSettlementFile_context contract filename context
    ⟨request.file.name, Instant.epoch, []⟩ request.file.data
  unfold IngestRequest.publishedAs
  rw [if_neg wet, parsed]
  dsimp only
  rw [same, judged]
  dsimp only [Except.map]
  refine if_neg ?_
  rintro (refused | ⟨some_rejected, strict⟩)
  · exact Bool.false_ne_true (refused.symm.trans valid)
  · exact lenient ⟨by simpa [FileValidationResult.relabel] using some_rejected, strict⟩

/-- `ingest_file` keeps the contents of Bronze apart. -/
theorem ingestFile_separates (request : IngestRequest) (world : World) :
    Separates deployment request world (fun _ _ => True) (ingestFile deployment request)
      world := by
  refine Preserves.seq now_separates ?_
  rintro now world ⟨rfl, repeats⟩
  refine Preserves.seq (Aside.ending (Program.Uses.request trivial)
    (Policy.newRunId_keeps _)) ?_
  rintro runId world ⟨-, rfl⟩
  cases parsed : parseSettlementFilename deployment.contract request.expectedPartnerId
      request.file.name with
  | error problem =>
    dsimp only
    exact (handleFilenameRejection_aside ..).separates _
  | ok filename =>
    dsimp only
    refine Preserves.seq (Aside.ending (Program.Uses.request trivial)
      (Policy.hashSource_keeps request.file _)) ?_
    rintro checksum world ⟨rfl, rfl⟩
    by_cases dry : request.dryRun = true
    · rw [if_pos dry]
      refine Aside.separates (Program.Uses.bind (validate_aside ..) fun _ => ?_) _
      trivial
    · rw [if_neg dry]
      refine Preserves.seq (Aside.ending (Program.Uses.request trivial)
        (Policy.sizeSource_keeps request.file _)) ?_
      rintro size world ⟨-, rfl⟩
      refine Preserves.seq (Aside.ending (Program.Uses.request trivial)
        (Policy.register_keeps trivial _)) ?_
      rintro ⟨record, kind⟩ end' ⟨-, -, -, objects, settled⟩
      dsimp only
      split
      · trivial
      · rename_i unsettled
        refine settleFile_separates _ parsed rfl ?_
        intro validation judged valid lenient location inside
        exact repeats filename (publishedAs_of_validated dry parsed judged valid lenient)
          (fun before => unsettled (settled before)) location
          (inside.congr (congrFun objects location))

end

/-- In every history in which an attempt that publishes a content finds it in Bronze, if at all,
under its own file name and the UTC date that it reads from the clock, Bronze never holds two
objects with one content of one partner. -/
theorem content_is_in_bronze_once (deployment : Deployment)
    (events : List (Event IngestRequest Choice))
    (meeting : (ingestor deployment).AdmittedFor (fun _ _ => True) (ReadsClock deployment) events
      (fun _ _ _ => True) (.done (), .empty)) :
    Single deployment ((ingestor deployment).moment events .empty) := by
  have tracks : Tracks (fun before after => Once deployment before → Once deployment after)
      (fun _ _ => True) := ⟨fun _ => trivial, fun _ _ => trivial, fun _ => trivial⟩
  exact ((ingestor deployment).keeps_for tracks (fun _ _ step before => step before)
    (fun request world once _ => ⟨once, trivial,
      Preserves.seq (ingestFile_separates request world) fun _ _ _ => trivial⟩)
    events (.done (), .empty) meeting empty_once trivial).1.single

/-- A lenient attempt that fails after the upload to Bronze. -/
def publishedAttempt : List (Event IngestRequest Choice) :=
  attemptOf ⟨sampleFile sampleName sampleRow, "VCB", false, false⟩
    (working 11 Instant.epoch "run-1" ++ [lostResponse] ++ working 1 Instant.epoch "run-1")

/-- The next attempt, on the next day. -/
def nextDayRetry : List (Event IngestRequest Choice) :=
  attemptOf ⟨sampleFile sampleName sampleRow, "VCB", false, false⟩
    (working 13 ⟨Instant.epoch.micros + dayMicros, by decide⟩ "run-2")

/-- What the two attempts leave: two objects. -/
theorem nextDayRetry_leaves :
    ((((ingestor localDeployment).moment (publishedAttempt ++ nextDayRetry) .empty).objects
        (samplePlace sampleRow "1970-01-01")).map (·.data),
      (((ingestor localDeployment).moment (publishedAttempt ++ nextDayRetry) .empty).objects
        (samplePlace sampleRow "1970-01-02")).map (·.data)) =
    (some (sampleHeader ++ sampleRow), some (sampleHeader ++ sampleRow)) := by
  decide +kernel

/-- The content is in Bronze under two ingestion dates. -/
theorem next_day_retry_publishes_again :
    ¬ ∀ events, Single localDeployment ((ingestor localDeployment).moment events .empty) := by
  intro single
  obtain ⟨first, second⟩ := Prod.mk.inj nextDayRetry_leaves
  obtain ⟨file, present, data⟩ := Option.map_eq_some_iff.mp first
  obtain ⟨file', present', data'⟩ := Option.map_eq_some_iff.mp second
  have same := single (publishedAttempt ++ nextDayRetry) "VCB"
    (sha256.hexdigest (sampleHeader ++ sampleRow)) _ _
    ⟨rfl, by decide +kernel, file, present, by rw [data]; rfl⟩
    ⟨rfl, by decide +kernel, file', present', by rw [data']; rfl⟩
  have different : samplePlace sampleRow "1970-01-01" ≠ samplePlace sampleRow "1970-01-02" := by
    decide +kernel
  exact different same

/-- An upload goes to one place. -/
def PutAt (target : Location) : Op → Choice → World → Prop
  | .put place _ _, _, _ => place.1 = target
  | _, _, _ => True

instance (target : Location) (op : signature.Op) (choice : Choice) (world : World) :
    Decidable (PutAt target op choice world) :=
  match op with
  | .put place _ _ => inferInstanceAs (Decidable (place.1 = target))
  | .now | .newRunId | .hashSource _ | .sizeSource _ | .openSource _ _ | .register _
  | .transition _ _ _ => .isTrue trivial

instance (deployment : Deployment) (target : Location)
    (events : List (Event IngestRequest Choice)) :
    Decidable ((ingestor deployment).Admitted (fun _ _ => True) (PutAt target) events
      (.done (), .empty)) := Service.admittedDecidable _ _ _

/-- Where all uploads go to one place, nothing is anywhere else. -/
theorem nothing_elsewhere {deployment : Deployment} {target location : Location}
    {events : List (Event IngestRequest Choice)} {state : Program signature PyError Unit × World}
    (other : location ≠ target) (nothing : state.2.objects location = none)
    (admitted : (ingestor deployment).Admitted (fun _ _ => True) (PutAt target) events state) :
    ((ingestor deployment).run events state).2.objects location = none := by
  induction events generalizing state with
  | nil => exact nothing
  | cons event events ih =>
    obtain ⟨here, rest⟩ := admitted
    obtain ⟨program, world⟩ := state
    refine ih ?_ rest
    cases event with
    | start request => exact nothing
    | step choice =>
      cases program with
      | done value => exact nothing
      | raised problem => exact nothing
      | perform op next =>
        refine (act_leaves ?_ choice world).trans nothing
        cases op with
        | put place data sidecar =>
          obtain rfl : place.1 = target := here
          exact other
        | _ => trivial

/-- The next attempt, on the same day. -/
def sameDayRetry : List (Event IngestRequest Choice) :=
  attemptOf ⟨sampleFile sampleName sampleRow, "VCB", false, false⟩
    (working 13 Instant.epoch "run-2")

/-- A retry on the same day finds its own object. -/
theorem same_day_retry_publishes_once :
    Single localDeployment
      ((ingestor localDeployment).moment (publishedAttempt ++ sameDayRetry) .empty) := by
  refine content_is_in_bronze_once localDeployment (publishedAttempt ++ sameDayRetry) ?_
  have alone : (ingestor localDeployment).Admitted (fun _ _ => True)
      (PutAt (samplePlace sampleRow "1970-01-01")) publishedAttempt (.done (), .empty) := by
    decide +kernel
  have stored : StoredAs (samplePlace sampleRow "1970-01-01") sampleName Instant.epoch.date := by
    unfold StoredAs
    decide +kernel
  refine ⟨trivial, Service.admittedFor_steps ?_ ⟨trivial, ?_⟩⟩
  · intro choice _ op world
    cases op with
    | now =>
      rintro filename - - location ⟨-, -, file, present, -⟩
      cases present
    | _ => trivial
  · rw [← List.append_nil (List.map Event.step _)]
    refine Service.admittedFor_steps ?_ trivial
    intro choice member op world
    obtain ⟨-, rfl⟩ := List.mem_replicate.mp member
    cases op with
    | now =>
      rintro filename - - location ⟨-, -, file, present, -⟩
      by_cases same : location = samplePlace sampleRow "1970-01-01"
      · rw [same]
        exact stored
      · have nothing := nothing_elsewhere same rfl alone.2
        exact nomatch (nothing.symm.trans present : none = some file)
    | _ => trivial

end Settlement
