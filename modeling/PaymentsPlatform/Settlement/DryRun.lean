import PaymentsPlatform.Settlement.Resumption
import PaymentsPlatform.Settlement.Acceptance

/-!
# The dry run

`ingest_file` with `dry_run` is a separate path: it judges the name and the content and derives the
status that the real run would reach through the manifest. Only the file, the clock and the run
identifiers are read on it.
-/

namespace Settlement

open Python Effects
open Cdc (Location)

variable {deployment : Deployment}

/-! ## Nothing changes -/

/-- The effects that only look. -/
def Op.observes : Op → Prop
  | .now | .newRunId | .hashSource _ | .sizeSource _ | .openSource _ _ => True
  | .register _ | .transition _ _ _ | .put _ _ _ => False

/-- Looking changes nothing, also when it fails. -/
theorem observes_act {op : Op} (observes : Op.observes op) (choice : Choice) (world : World) :
    ((machine deployment).act op choice world).2 = world := by
  have own : (effect deployment op choice world).2 = world := by
    cases op with
    | register discovery => exact observes.elim
    | transition fileId status updates => exact observes.elim
    | put place data sidecar => exact observes.elim
    | _ => rfl
  obtain acted | ⟨fault, -, -, acted⟩ := act_cases deployment op choice world
  · rw [acted]
    exact own
  · rw [acted]
    unfold leftovers
    cases fault.extent with
    | everything => exact own
    | nothing => rfl
    | objectOnly =>
      cases op with
      | put place data sidecar => exact observes.elim
      | _ => rfl

/-- Validation only looks. -/
theorem validate_observes (file : SourceFile) (filename : FilenameMetadata) (now : Instant)
    (runId : PyStr) : (validate deployment file filename now runId).Uses Op.observes := by
  refine .bind (.outcome (.request trivial)) fun outcome => ?_
  cases outcome with
  | ok data => exact .ofExcept _
  | error problem =>
    dsimp only
    split
    · trivial
    · trivial

/-- The dry run only looks. -/
theorem dryRun_observes {request : IngestRequest} (dry : request.dryRun = true) :
    (ingestFile deployment request).Uses Op.observes := by
  refine .bind (.request trivial) fun now => .bind (.request trivial) fun runId => ?_
  cases parseSettlementFilename deployment.contract request.expectedPartnerId
      request.file.name with
  | error problem =>
    refine .bind (.outcome (.request trivial)) fun outcome => ?_
    cases outcome with
    | error failure =>
      dsimp only
      split
      · trivial
      · trivial
    | ok checksum =>
      dsimp only
      rw [if_pos dry]
      trivial
  | ok filename =>
    refine .bind (.request trivial) fun checksum => ?_
    rw [if_pos dry]
    exact .bind (validate_observes _ _ _ _) fun _ => trivial

/-- The dry run changes nothing at any moment, whatever fails. -/
theorem dryRun_keeps {request : IngestRequest} (dry : request.dryRun = true)
    (choices : List Choice) (world : World) :
    ((machine deployment).run choices (ingestFile deployment request, world)).2 = world :=
  (dryRun_observes dry).run_world (fun _ observes => observes_act observes) choices world

/-! ## What the dry run returns -/

section

variable {runIds : PyStr → Prop} {error : PyError → World → Prop}

/-- The status the real run reaches, for the status of a dry run. -/
def ManifestStatus.reached : ManifestStatus → ManifestStatus
  | .validated => .processed
  | status => status

/-- What a dry run says of the real one: the status it reaches and the counts. -/
structure Predicts (predicted : ProcessingResult) (verdict : Verdict) : Prop where
  /-- The file is found valid, or it is quarantined. -/
  decided : predicted.status = .validated ∨ predicted.status = .quarantined
  /-- The status. -/
  status : verdict.status = predicted.status.reached
  /-- The rows of the file. -/
  recordCount : predicted.recordCount = verdict.recordCount
  /-- The valid ones. -/
  acceptedCount : predicted.acceptedCount = verdict.acceptedCount
  /-- The others. -/
  rejectedCount : predicted.rejectedCount = verdict.rejectedCount

/-- A file with a file issue has no row that is judged. -/
theorem validateSettlementFile_invalid {contract : SettlementContract}
    {filename : FilenameMetadata} {context : RejectionContext} {data : Bytes}
    {validation : FileValidationResult}
    (judged : validateSettlementFile contract filename context data = .ok validation)
    (invalid : ¬ validation.fileIsValid) :
    validation.acceptedRecords = [] ∧ validation.rejectedRecords = [] := by
  cases parsed : dataRows contract data with
  | none =>
    obtain ⟨issue, refused⟩ := @validateSettlementFile_refused _ filename context _ parsed
    obtain rfl := Except.ok.inj (refused.symm.trans judged)
    exact ⟨rfl, rfl⟩
  | some rows =>
    rw [validateSettlementFile_rows parsed] at judged
    obtain ⟨list, -, rfl⟩ := map_eq_ok.mp judged
    exact absurd rfl invalid

/-- The result of the dry path predicts what the validation leads to. -/
theorem dryRunResult_predicts {contract : SettlementContract} {filename : FilenameMetadata}
    {context : RejectionContext} {data : Bytes} {validation : FileValidationResult}
    (judged : validateSettlementFile contract filename context data = .ok validation)
    (fileName checksum runId : PyStr) (strict : Bool) :
    Predicts (dryRunResult fileName checksum runId validation strict)
      (validation.verdict strict) := by
  unfold FileValidationResult.verdict
  by_cases invalid : ¬ validation.fileIsValid
  · obtain ⟨accepted, rejected⟩ := validateSettlementFile_invalid judged invalid
    have status : (dryRunResult fileName checksum runId validation strict).status =
        .quarantined := if_pos (Or.inl invalid)
    rw [if_pos invalid]
    refine ⟨Or.inr status, by rw [status]; rfl, rfl, ?_, ?_⟩
    · exact congrArg List.length accepted
    · exact congrArg List.length rejected
  · rw [if_neg invalid]
    by_cases strictly : validation.rejectedRecords ≠ [] ∧ strict = true
    · have status : (dryRunResult fileName checksum runId validation strict).status =
          .quarantined := if_pos (Or.inr ⟨strictly.2, strictly.1⟩)
      rw [if_pos strictly]
      exact ⟨Or.inr status, by rw [status]; rfl, rfl, rfl, rfl⟩
    · have status : (dryRunResult fileName checksum runId validation strict).status =
          .validated := by
        refine if_neg ?_
        rintro (bad | ⟨strict', rejected⟩)
        · exact invalid bad
        · exact strictly ⟨rejected, strict'⟩
      rw [if_neg strictly]
      exact ⟨Or.inl status, by rw [status]; rfl, rfl, rfl, rfl⟩

/-- The digest that the handler of rejected names takes. -/
theorem hashOutcome_works (file : SourceFile) (world : World) :
    Works deployment runIds (fun outcome end' =>
      outcome = .ok (deployment.sha.hexdigest file.data) ∧ end' = world) error
      (perform (.hashSource file)).outcome world :=
  Meets.outcome ((hashSource_works _ _).mono
    (fun _ _ known => ⟨by rw [known.1], known.2⟩) fun _ _ no => no)

/-- What a rejected name leads to. -/
def DiscoveryError.verdict (problem : DiscoveryError) : Verdict :=
  ⟨.quarantined, 0, 0, 0, some problem.code⟩

/-- The verdict on a file: by its name, or by its validation. -/
def IngestRequest.HasVerdict (contract : SettlementContract) (request : IngestRequest)
    (verdict : Verdict) : Prop :=
  match parseSettlementFilename contract request.expectedPartnerId request.file.name with
  | .error problem => verdict = problem.verdict
  | .ok filename => ∃ context validation,
      validateSettlementFile contract filename context request.file.data = .ok validation ∧
        verdict = validation.verdict request.failOnRejectedRecords

/-- The dry run predicts the verdict on the file. -/
theorem dryRun_works {request : IngestRequest} {verdict : Verdict} (dry : request.dryRun = true)
    (decided : request.HasVerdict deployment.contract verdict) (world : World) :
    Works deployment runIds (fun predicted _ => Predicts predicted verdict) error
      (ingestFile deployment request) world := by
  refine Works.seq (now_works world) ?_
  rintro now world rfl
  refine Works.seq (newRunId_works _) ?_
  rintro runId world ⟨-, rfl⟩
  unfold IngestRequest.HasVerdict at decided
  cases named : parseSettlementFilename deployment.contract request.expectedPartnerId
      request.file.name with
  | error problem =>
    rw [named] at decided
    refine Works.seq (hashOutcome_works _ _) ?_
    rintro outcome world ⟨rfl, rfl⟩
    dsimp only
    rw [if_pos dry, decided]
    exact ⟨Or.inr rfl, rfl, rfl, rfl, rfl⟩
  | ok filename =>
    rw [named] at decided
    obtain ⟨context, validation, judged, rfl⟩ := decided
    refine Works.seq (hashSource_works _ _) ?_
    rintro checksum world ⟨rfl, rfl⟩
    rw [if_pos dry]
    have again := validateSettlementFile_context deployment.contract filename context
      ⟨request.file.name, now, runId⟩ request.file.data
    rw [judged] at again
    refine Works.seq (validate_works world again) ?_
    rintro relabelled world ⟨rfl, rfl⟩
    rw [← FileValidationResult.verdict_relabel _ ⟨request.file.name, now, runId⟩ validation]
    exact dryRunResult_predicts again _ _ _ _

/-! ## What the real run returns -/

/-- The discovery of a content whose identifier the manifest does not have. -/
theorem register_new_works {discovery : Discovery} {world : World}
    (absent : world.manifest.get discovery.row.fileId = none) :
    Works deployment runIds (fun answer end' => answer.1 = discovery.row ∧
      Current answer.1 end' ∧ end'.objects = world.objects) error
      (perform (.register discovery)) world := by
  have unknown :
      world.manifest.lookup discovery.partnerId discovery.checksumSha256 = none := by
    rw [ManifestTable.lookup_eq_none]
    intro row present partner content
    rw [row.identified, partner, content] at present
    exact absurd (present.symm.trans absent) (Option.some_ne_none row)
  refine Works.perform fun choice _ => Or.inl ?_
  obtain ⟨kind, done⟩ : ∃ kind, registerDiscovery world.manifest discovery =
      (.ok (discovery.row, kind), world.manifest.insert discovery.row absent) := by
    unfold registerDiscovery
    rw [unknown]
    dsimp only
    rw [dif_pos absent]
    exact ⟨_, rfl⟩
  simp only [effect, done]
  refine ⟨_, rfl, rfl, ?_, trivial⟩
  unfold Current
  rw [Relational.Table.get_insert, if_pos rfl]

/-- The storage works: both buckets are there, and the objects of Bronze have the content that
their keys name. -/
structure StorageWorks (deployment : Deployment) (world : World) : Prop where
  /-- Both buckets are there. -/
  reachable : deployment.Reachable
  /-- An object of Bronze has the content that its key names. -/
  bronze : ∀ key file checksum, NamesContent key checksum →
    world.objects ⟨deployment.bronzeBucket, key⟩ = some file →
    deployment.sha.hexdigest file.data = checksum

/-- The runs that have an object in quarantine. -/
def QuarantinedRun (deployment : Deployment) (world : World) (runId : PyStr) : Prop :=
  ∃ key file, NamesRun key runId ∧
    world.objects ⟨deployment.quarantineBucket, key⟩ = some file

/-- A run without an object in quarantine has room for every file. -/
theorem freeFor_of_new {runId : PyStr} {world : World}
    (new : ¬ QuarantinedRun deployment world runId) (fileName : PyStr) :
    FreeFor deployment runId fileName world := by
  intro key names _
  cases held : world.objects ⟨deployment.quarantineBucket, key⟩ with
  | none => rfl
  | some file => exact absurd ⟨key, file, names, held⟩ new

/-- The end of `_handle_filename_rejection`. -/
theorem quarantineRejectedName_works {file : SourceFile} {partnerId runId : PyStr}
    {problem : DiscoveryError} {kind : DuplicateKind} {now : Instant} {record : ManifestRecord}
    {world : World} (reachable : deployment.Reachable)
    (partner : isPartitionValue partnerId = true) (run : isPartitionValue runId = true)
    (named : PlainSegment file.name) (free : FreeFor deployment runId file.name world)
    (stands : Policy.Stands deployment record file partnerId world)
    (validating : record.status = .validating)
    (uncounted : record.recordCount = 0 ∧ record.acceptedCount = 0 ∧ record.rejectedCount = 0) :
    Works deployment runIds (Settles partnerId (deployment.sha.hexdigest file.data)
      problem.verdict) error
      (quarantineRejectedName deployment file partnerId (deployment.sha.hexdigest file.data)
        problem kind now runId record) world := by
  refine Works.handled ?_
  refine Works.seq (storageMetadata_works _ _ _ _ _ _ _) ?_
  rintro metadata world rfl
  refine Works.seq (quarantineFile_works reachable partner run named free) ?_
  rintro uri end' ⟨manifest, -⟩
  refine settle_works (stands_same stands manifest) (by rw [validating]; rfl) ?_
  simp only [ManifestRecord.verdict, ManifestRecord.assign, List.foldl, Assignment.apply,
    uncounted.1, uncounted.2.1, uncounted.2.2, DiscoveryError.verdict]

/-- A listing has the name of a file. -/
theorem PlainSegment.listing {name : PyStr} (named : PlainSegment name) :
    PlainSegment (name ++ py ".rejected.jsonl") where
  filled := fun empty => named.filled (List.append_eq_nil_iff.mp empty).1
  named := fun same => by
    have length := congrArg List.length same
    rw [List.length_append] at length
    have long : (py ".rejected.jsonl").length = 15 := by decide
    have short : (py ".").length = 1 := by decide
    omega
  single := by
    rw [List.mem_append, not_or]
    exact ⟨named.single, by decide⟩
  inside := fun same => by
    have length := congrArg List.length same
    rw [List.length_append] at length
    have long : (py ".rejected.jsonl").length = 15 := by decide
    have short : (py "..").length = 2 := by decide
    omega
  posix := by
    rw [List.mem_append, not_or]
    exact ⟨named.posix, by decide⟩

/-- The real run of a file whose content has no row settles it with the verdict on the file. -/
theorem realRun_works {request : IngestRequest} {verdict : Verdict} {world : World}
    (real : request.dryRun = false)
    (decided : request.HasVerdict deployment.contract verdict)
    (named : PlainSegment request.file.name)
    (partner : isPartitionValue request.expectedPartnerId = true)
    (fresh : world.manifest.get (deterministicFileId request.expectedPartnerId
      (deployment.sha.hexdigest request.file.data)) = none)
    (storage : StorageWorks deployment world)
    (runs : ∀ runId, runIds runId →
      isPartitionValue runId = true ∧ ¬ QuarantinedRun deployment world runId) :
    Works deployment runIds (Settles request.expectedPartnerId
      (deployment.sha.hexdigest request.file.data) verdict) error
      (ingestFile deployment request) world := by
  refine Works.seq (now_works world) ?_
  rintro now world rfl
  refine Works.seq (newRunId_works _) ?_
  rintro runId world ⟨chosen, rfl⟩
  obtain ⟨run, new⟩ := runs runId chosen
  unfold IngestRequest.HasVerdict at decided
  cases parsed : parseSettlementFilename deployment.contract request.expectedPartnerId
      request.file.name with
  | error problem =>
    rw [parsed] at decided
    refine Works.seq (hashOutcome_works _ _) ?_
    rintro outcome world ⟨rfl, rfl⟩
    dsimp only
    rw [if_neg (by rw [real]; decide)]
    refine Works.seq (sizeSource_works _ _) ?_
    rintro size world ⟨-, rfl⟩
    refine Works.seq (register_new_works fresh) ?_
    rintro ⟨record, kind⟩ end' ⟨isNew, current, objects⟩
    dsimp only at isNew current ⊢
    rw [if_neg (by rw [isNew]; exact fun no => by cases no)]
    have stands : Policy.Stands deployment record request.file request.expectedPartnerId end' :=
      ⟨current, by rw [isNew]; rfl, by rw [isNew]; rfl⟩
    refine Works.seq (transition_stands_works stands (by rw [isNew]; rfl)) ?_
    rintro validating end'' ⟨columns, standing, objects'⟩
    rw [decided]
    refine quarantineRejectedName_works storage.reachable partner run named ?_ standing ?_ ?_
    · unfold FreeFor
      rw [objects', objects]
      exact freeFor_of_new new _
    · rw [columns]
      rfl
    · rw [columns, isNew]
      exact ⟨rfl, rfl, rfl⟩
  | ok filename =>
    rw [parsed] at decided
    obtain ⟨context, validation, judged, rfl⟩ := decided
    have own : filename.partnerId = request.expectedPartnerId := by
      refine parseSettlementFilename_partner ?_ parsed
      intro empty
      rw [empty] at partner
      cases partner
    rw [← own] at fresh partner ⊢
    refine Works.seq (hashSource_works _ _) ?_
    rintro checksum world ⟨rfl, rfl⟩
    rw [if_neg (by rw [real]; decide)]
    refine Works.seq (sizeSource_works _ _) ?_
    rintro size world ⟨-, rfl⟩
    refine Works.seq (register_new_works fresh) ?_
    rintro ⟨record, kind⟩ end' ⟨isNew, current, objects⟩
    dsimp only at isNew current ⊢
    have open' : ¬ record.status.terminal := by
      rw [isNew]
      change ¬ ManifestStatus.discovered.terminal
      decide
    rw [if_neg open']
    have again := validateSettlementFile_context deployment.contract filename context
      ⟨request.file.name, now, runId⟩ request.file.data
    rw [judged] at again
    rw [← FileValidationResult.verdict_relabel _ ⟨request.file.name, now, runId⟩ validation]
    have ready : Ready deployment ⟨request.file, filename,
        deployment.sha.hexdigest request.file.data, kind, now, runId⟩ world :=
      ⟨rfl, partner, run, named, named.listing, fun key file => storage.bronze key file _,
        freeFor_of_new new⟩
    refine settleFile_works storage.reachable (ready.same objects)
      ⟨current, by rw [isNew]; rfl, by rw [isNew]; rfl⟩ open' again fun _ => ?_
    rw [isNew]
    exact ⟨rfl, rfl⟩

end

/-- A result with the predicted verdict has the status and the counts of the dry run. -/
theorem Predicts.result {predicted result : ProcessingResult} {verdict : Verdict}
    (predicts : Predicts predicted verdict) (settled : result.verdict = verdict) :
    (predicted.status = .quarantined ↔ result.status = .quarantined) ∧
      (predicted.status = .validated ↔ result.status = .processed) ∧
      predicted.recordCount = result.recordCount ∧
      predicted.acceptedCount = result.acceptedCount ∧
      predicted.rejectedCount = result.rejectedCount := by
  subst settled
  have reached : result.status = predicted.status.reached := predicts.status
  refine ⟨?_, ?_, predicts.recordCount, predicts.acceptedCount, predicts.rejectedCount⟩
  · rw [reached]
    obtain valid | bad := predicts.decided
    · rw [valid]
      decide
    · rw [bad]
      decide
  · rw [reached]
    obtain valid | bad := predicts.decided
    · rw [valid]
      decide
    · rw [bad]
      decide

/-- Every effect of a stream takes place. -/
theorem calm_of_faultless {stream : Nat → Choice} (faultless : ∀ index, (stream index).fault = none)
    (index : Nat) (op : Op) (world : World) : Calm (fun _ => True) op (stream index) world := by
  cases op with
  | newRunId => exact ⟨faultless index, trivial⟩
  | _ => exact faultless index

/-- The dry run predicts the real run: for a file on which validation returns, whose content has no
row, it changes neither the manifest nor the store, and with working storage the real run ends with
the status and the counts that the dry run returns. -/
theorem dry_run_predicts (deployment : Deployment) (file : SourceFile) (partnerId : PyStr)
    (strict : Bool) (world : World) (named : PlainSegment file.name)
    (partner : isPartitionValue partnerId = true)
    (returns : ∀ filename,
      parseSettlementFilename deployment.contract partnerId file.name = .ok filename →
      ∃ context validation,
        validateSettlementFile deployment.contract filename context file.data = .ok validation)
    (fresh : world.manifest.get (deterministicFileId partnerId
      (deployment.sha.hexdigest file.data)) = none)
    (storage : StorageWorks deployment world) (dry real : Nat → Choice)
    (faultless : ∀ index, (dry index).fault = none)
    (working : Working (QuarantinedRun deployment world) real) :
    (∀ count, ((machine deployment).run ((List.range count).map dry)
      (ingestFile deployment ⟨file, partnerId, true, strict⟩, world)).2 = world) ∧
    ∃ count predicted count' result end',
      (machine deployment).run ((List.range count).map dry)
        (ingestFile deployment ⟨file, partnerId, true, strict⟩, world) =
          (.done predicted, world) ∧
      (machine deployment).run ((List.range count').map real)
        (ingestFile deployment ⟨file, partnerId, false, strict⟩, world) = (.done result, end') ∧
      (predicted.status = .quarantined ↔ result.status = .quarantined) ∧
      (predicted.status = .validated ↔ result.status = .processed) ∧
      predicted.recordCount = result.recordCount ∧
      predicted.acceptedCount = result.acceptedCount ∧
      predicted.rejectedCount = result.rejectedCount := by
  obtain ⟨verdict, decided⟩ : ∃ verdict, ∀ dryRun,
      IngestRequest.HasVerdict deployment.contract ⟨file, partnerId, dryRun, strict⟩ verdict := by
    unfold IngestRequest.HasVerdict
    dsimp only
    cases parsed : parseSettlementFilename deployment.contract partnerId file.name with
    | error problem => exact ⟨_, fun _ => rfl⟩
    | ok filename =>
      obtain ⟨context, validation, judged⟩ := returns filename parsed
      exact ⟨_, fun _ => ⟨context, validation, judged, rfl⟩⟩
  have unchanged : ∀ count, ((machine deployment).run ((List.range count).map dry)
      (ingestFile deployment ⟨file, partnerId, true, strict⟩, world)).2 = world :=
    fun count => dryRun_keeps rfl _ world
  refine ⟨unchanged, ?_⟩
  have works : Works deployment (fun _ => True) (fun predicted _ => Predicts predicted verdict)
      (fun _ _ => False) (ingestFile deployment ⟨file, partnerId, true, strict⟩) world :=
    dryRun_works rfl (decided true) world
  obtain ⟨count, ⟨predicted, end', ended, predicts⟩ | ⟨problem, end', -, no⟩⟩ :=
    Meets.completes dry (calm_of_faultless faultless) works
  · have same := unchanged count
    rw [ended] at same
    subst same
    obtain ⟨result, row, ⟨count', end'', returned, -⟩, settled, -⟩ := returns_of_works working
      (realRun_works rfl (decided false) named partner fresh storage fun _ run => run)
    exact ⟨count, predicted, count', result, end'', ended, returned, predicts.result settled⟩
  · exact no.elim

/-- Local storage that holds nothing works. -/
theorem localDeployment_works : StorageWorks localDeployment World.empty where
  reachable := by
    intro bucket _ key valid accepted
    refine ⟨(⟨bucket, valid⟩, py "/data/" ++ bucket ++ py "/" ++ valid), ?_⟩
    simp only [localDeployment, Cdc.Backend.locate, accepted, Except.map]
  bronze := fun _ _ _ _ present => by cases present

/-- The name of a sample is the name of a file. -/
theorem sampleName_plain : PlainSegment sampleName :=
  ⟨⟨by decide, by decide, by decide⟩, by decide, by decide⟩

/-- A strict dry run of a sample, and the real run that it predicts. -/
theorem sample_predicted :
    ∃ count predicted count' result end',
      (machine localDeployment).run ((List.range count).map fun _ => {})
        (ingestFile localDeployment ⟨sampleFile sampleName sampleRows, "VCB", true, true⟩, .empty) =
          (.done predicted, .empty) ∧
      (machine localDeployment).run ((List.range count').map fun _ => { runId := "run-1" })
        (ingestFile localDeployment ⟨sampleFile sampleName sampleRows, "VCB", false, true⟩,
          .empty) = (.done result, end') ∧
      (predicted.status = .quarantined ↔ result.status = .quarantined) ∧
      (predicted.status = .validated ↔ result.status = .processed) ∧
      predicted.recordCount = result.recordCount ∧
      predicted.acceptedCount = result.acceptedCount ∧
      predicted.rejectedCount = result.rejectedCount := by
  refine (dry_run_predicts localDeployment (sampleFile sampleName sampleRows) "VCB" true .empty
    sampleName_plain (by decide) ?_ rfl localDeployment_works _ _ (fun _ => rfl) ?_).2
  · intro filename parsed
    obtain rfl := Except.ok.inj (sampleName_parsed.symm.trans parsed)
    obtain ⟨result, judged, -⟩ := sample_validated
    exact ⟨_, result, judged⟩
  · refine fun _ => ⟨rfl, ?_, ?_⟩
    · change isPartitionValue (py "run-1") = true
      decide
    · rintro ⟨key, file, -, present⟩
      cases present

end Settlement
