import PaymentsPlatform.Settlement.Outcomes

/-!
# Delivering settled content again

An attempt on a content whose row is settled. With a name the contract accepts, both settled
statuses are recognised and nothing happens. With a name it rejects, only `QUARANTINED` is: a
processed content is asked to be validated again, which the manifest refuses with an exception.
-/

namespace Settlement

open Python Effects

variable {deployment : Deployment}

/-- Every effect takes place, and the run identifiers are of some kind. -/
def Calm (runIds : PyStr → Prop) : Op → Choice → World → Prop
  | .newRunId, choice, _ => choice.fault = none ∧ runIds choice.runId
  | _, choice, _ => choice.fault = none

/-- The contract of a part of the program when every effect takes place. -/
abbrev Works {α : Type} (deployment : Deployment) (runIds : PyStr → Prop)
    (post : α → World → Prop) (error : PyError → World → Prop) (program : Action α)
    (world : World) : Prop :=
  Meets (machine deployment) (.sequential (Calm runIds) fun _ _ => True) post error program world

variable {runIds : PyStr → Prop}

/-- A calm choice is no failure. -/
theorem Calm.fault {op : Op} {choice : Choice} {world : World}
    (calm : Calm runIds op choice world) : choice.fault = none := by
  cases op with
  | newRunId => exact calm.1
  | _ => exact calm

/-- One effect that takes place. -/
theorem Works.perform {op : Op} {post : op.Answer → World → Prop}
    {error : PyError → World → Prop} {world : World}
    (takes : ∀ choice, Calm runIds op choice world →
      (∃ answer, (effect deployment op choice world).1 = .ok answer ∧
        post answer (effect deployment op choice world).2) ∨
      ∃ problem, (effect deployment op choice world).1 = .error problem ∧
        error problem (effect deployment op choice world).2) :
    Works deployment runIds post error (perform op) world := by
  refine Meets.request ?_
  rintro moved ⟨rfl⟩ choice calm
  have acted : (machine deployment).act op choice world = effect deployment op choice world := by
    unfold machine
    dsimp only
    rw [calm.fault]
  rw [acted]
  refine ⟨trivial, ?_⟩
  obtain ⟨answer, outcome, ends⟩ | ⟨problem, outcome, ends⟩ := takes choice calm
  · rw [outcome]
    exact ends
  · rw [outcome]
    exact ends

/-- Sequencing. -/
theorem Works.seq {α β : Type} {M : α → World → Prop} {post : β → World → Prop}
    {error : PyError → World → Prop} {program : Action α} {next : α → Action β} {world : World}
    (first : Works deployment runIds M error program world)
    (rest : ∀ value end', M value end' →
      Works deployment runIds post error (next value) end') :
    Works deployment runIds post error (program.bind next) world :=
  Meets.bind (first.mono rest fun _ _ ends => ends)

/-- The clock, the identifiers and the file. -/
theorem now_works {error : PyError → World → Prop} (world : World) :
    Works deployment runIds (fun _ end' => end' = world) error (perform .now) world :=
  Works.perform fun _ _ => Or.inl ⟨_, rfl, rfl⟩

/-- A new run identifier. -/
theorem newRunId_works {error : PyError → World → Prop} (world : World) :
    Works deployment runIds (fun runId end' => runIds runId ∧ end' = world) error
      (perform .newRunId) world :=
  Works.perform fun _ calm => Or.inl ⟨_, rfl, calm.2, rfl⟩

/-- The digest of a file. -/
theorem hashSource_works {error : PyError → World → Prop} (file : SourceFile) (world : World) :
    Works deployment runIds (fun checksum end' =>
      checksum = deployment.sha.hexdigest file.data ∧ end' = world) error
      (perform (.hashSource file)) world :=
  Works.perform fun _ _ => Or.inl ⟨_, rfl, rfl, rfl⟩

/-- The size of a file. -/
theorem sizeSource_works {error : PyError → World → Prop} (file : SourceFile) (world : World) :
    Works deployment runIds (fun size end' => size = file.data.length ∧ end' = world) error
      (perform (.sizeSource file)) world :=
  Works.perform fun _ _ => Or.inl ⟨_, rfl, rfl, rfl⟩

/-- The discovery of a content that has a row. -/
theorem register_known_works {error : PyError → World → Prop} {discovery : Discovery}
    {row : ManifestRecord} {world : World}
    (known : world.manifest.lookup discovery.partnerId discovery.checksumSha256 = some row) :
    Works deployment runIds (fun answer end' => answer.1 = row ∧ end' = world) error
      (perform (.register discovery)) world := by
  refine Works.perform fun choice _ => ?_
  obtain ⟨kind, found⟩ : ∃ kind, registerDiscovery world.manifest discovery =
      (.ok (row, kind), world.manifest) := by
    unfold registerDiscovery
    rw [known]
    exact ⟨_, rfl⟩
  have acted : effect deployment (.register discovery) choice world = (.ok (row, kind), world) := by
    simp only [effect, found]
    rfl
  rw [acted]
  exact Or.inl ⟨_, rfl, rfl, rfl⟩

/-- The partner of an accepted name is the expected one. -/
theorem parseSettlementFilename_partner {contract : SettlementContract} {expected name : PyStr}
    {filename : FilenameMetadata} (named : expected ≠ [])
    (parsed : parseSettlementFilename contract expected name = .ok filename) :
    filename.partnerId = expected := (parseSettlementFilename_ok_iff.mp parsed).2.1 named

/-- The attempt returns without doing anything: it reports the row as skipped. -/
def Skips (row : ManifestRecord) (world : World) (result : ProcessingResult) (end' : World) :
    Prop :=
  (end' = world) ∧ result.skipped = true ∧ result.status = row.status

/-- With an accepted name every settled row is skipped. -/
theorem accepted_name_skips {request : IngestRequest} {row : ManifestRecord} {world : World}
    {filename : FilenameMetadata} {error : PyError → World → Prop}
    (wet : request.dryRun = false)
    (parsed : parseSettlementFilename deployment.contract request.expectedPartnerId
      request.file.name = .ok filename)
    (known : world.manifest.lookup filename.partnerId
      (deployment.sha.hexdigest request.file.data) = some row)
    (settled : row.status.terminal) :
    Works deployment runIds (Skips row world) error (ingestFile deployment request) world := by
  refine Works.seq (now_works world) ?_
  rintro now world rfl
  refine Works.seq (newRunId_works _) ?_
  rintro runId world ⟨-, rfl⟩
  rw [parsed]
  refine Works.seq (hashSource_works _ _) ?_
  rintro checksum world ⟨rfl, rfl⟩
  rw [if_neg (by rw [wet]; decide)]
  refine Works.seq (sizeSource_works _ _) ?_
  rintro size world ⟨-, rfl⟩
  refine Works.seq (register_known_works known) ?_
  rintro ⟨record, kind⟩ world ⟨rfl, rfl⟩
  dsimp only at settled ⊢
  rw [if_pos settled]
  exact ⟨rfl, rfl, rfl⟩

/-- `_handle_filename_rejection` up to the registered row. -/
theorem rejected_name_finds {request : IngestRequest} {row : ManifestRecord} {world : World}
    {problem : DiscoveryError} {post : ProcessingResult → World → Prop}
    {error : PyError → World → Prop} (wet : request.dryRun = false)
    (parsed : parseSettlementFilename deployment.contract request.expectedPartnerId
      request.file.name = .error problem)
    (known : world.manifest.lookup request.expectedPartnerId
      (deployment.sha.hexdigest request.file.data) = some row)
    (ends : ∀ now runId kind, Works deployment runIds post error
      (if row.status = .quarantined then
        .done (resultFromManifest row kind request.file.name true)
      else (perform (.transition row.fileId .validating [.ingestionRunId runId])).bind
        (quarantineRejectedName deployment request.file request.expectedPartnerId
          (deployment.sha.hexdigest request.file.data) problem kind now runId)) world) :
    Works deployment runIds post error (ingestFile deployment request) world := by
  refine Works.seq (now_works world) ?_
  rintro now world rfl
  refine Works.seq (newRunId_works _) ?_
  rintro runId world ⟨-, rfl⟩
  rw [parsed]
  refine Works.seq (M := fun outcome end' =>
    outcome = .ok (deployment.sha.hexdigest request.file.data) ∧ end' = world) ?_ ?_
  · exact Meets.outcome ((hashSource_works _ _).mono
      (fun checksum end' known => ⟨by rw [known.1], known.2⟩) fun _ _ no => no)
  rintro outcome world ⟨rfl, rfl⟩
  dsimp only
  rw [if_neg (by rw [wet]; decide)]
  refine Works.seq (sizeSource_works _ _) ?_
  rintro size world ⟨-, rfl⟩
  refine Works.seq (register_known_works known) ?_
  rintro ⟨record, kind⟩ world ⟨rfl, rfl⟩
  exact ends now runId kind

/-- With a rejected name a quarantined row is skipped. -/
theorem rejected_name_skips {request : IngestRequest} {row : ManifestRecord} {world : World}
    {problem : DiscoveryError} {error : PyError → World → Prop} (wet : request.dryRun = false)
    (parsed : parseSettlementFilename deployment.contract request.expectedPartnerId
      request.file.name = .error problem)
    (known : world.manifest.lookup request.expectedPartnerId
      (deployment.sha.hexdigest request.file.data) = some row)
    (quarantined : row.status = .quarantined) :
    Works deployment runIds (Skips row world) error (ingestFile deployment request) world := by
  refine rejected_name_finds wet parsed known fun now runId kind => ?_
  rw [if_pos quarantined]
  exact ⟨rfl, rfl, rfl⟩

/-- With a rejected name a processed row is asked to be validated again, and the manifest
refuses. -/
theorem rejected_name_raises {request : IngestRequest} {row : ManifestRecord} {world : World}
    {problem : DiscoveryError} (wet : request.dryRun = false)
    (parsed : parseSettlementFilename deployment.contract request.expectedPartnerId
      request.file.name = .error problem)
    (known : world.manifest.lookup request.expectedPartnerId
      (deployment.sha.hexdigest request.file.data) = some row)
    (processed : row.status = .processed) :
    Works deployment runIds (fun _ _ => False) (fun failure _ => failure.kind = .manifestError)
      (ingestFile deployment request) world := by
  refine rejected_name_finds wet parsed known fun now runId kind => ?_
  rw [if_neg (by rw [processed]; decide)]
  refine Works.seq (M := fun _ _ => False) (Works.perform fun choice _ => ?_) fun _ _ no => no.elim
  obtain ⟨row', found, permitted, -⟩ | ⟨failure, kind, refused⟩ :=
    transition_spec world.manifest row.fileId .validating [.ingestionRunId runId]
  · rw [(ManifestTable.lookup_eq_some.mp known).1] at found
    rw [← Option.some.inj found, processed] at permitted
    cases permitted
  · refine Or.inr ⟨failure, ?_, kind⟩
    simp only [effect, refused]
    rfl

/-- An attempt on settled content with working storage returns the row as skipped and changes
nothing. -/
def Ignored (deployment : Deployment) (request : IngestRequest) (row : ManifestRecord)
    (world : World) : Prop :=
  ∀ stream : Nat → Choice, (∀ index, (stream index).fault = none) →
    ∃ count result, (machine deployment).run ((List.range count).map stream)
        (ingestFile deployment request, world) = (.done result, world) ∧
      result.skipped = true ∧ result.status = row.status

/-- A program that works to a skipped row ignores it. -/
theorem ignored_of_works {request : IngestRequest} {row : ManifestRecord} {world : World}
    (works : Works deployment (fun _ => True) (Skips row world) (fun _ _ => False)
      (ingestFile deployment request) world) : Ignored deployment request row world := by
  intro stream calm
  have admitted : ∀ index op world, Calm (fun _ => True) op (stream index) world := by
    intro index op world
    cases op with
    | newRunId => exact ⟨calm index, trivial⟩
    | _ => exact calm index
  obtain ⟨count, ⟨result, end', ended, rfl, skipped, status⟩ | ⟨problem, end', -, no⟩⟩ :=
    Meets.completes stream admitted works
  · exact ⟨count, result, ended, skipped, status⟩
  · exact no.elim

/-- A program that never returns does not ignore the row. -/
theorem not_ignored_of_raises {request : IngestRequest} {row : ManifestRecord} {world : World}
    {error : PyError → World → Prop}
    (raises : Works deployment (fun _ => True) (fun _ _ => False) error
      (ingestFile deployment request) world) : ¬ Ignored deployment request row world := by
  intro ignored
  obtain ⟨count, result, ended, -⟩ := ignored (fun _ => {}) fun _ => rfl
  have calm : ∀ choice ∈ (List.range count).map fun _ => ({} : Choice), ∀ op world,
      Calm (fun _ => True) op choice world := by
    intro choice member op world
    obtain ⟨index, -, rfl⟩ := List.mem_map.mp member
    cases op <;> simp [Calm]
  have stuck := (Meets.run _ raises (Admitted.of_forall _ _ calm)).1
  rw [ended] at stuck
  exact stuck.elim

/-- The partner of a settled row can be part of a key. -/
theorem settled_partner {events : List (Event IngestRequest Choice)} {row : ManifestRecord}
    (present : Current row ((ingestor deployment).moment events .empty))
    (settled : row.status.terminal) : isPartitionValue row.partnerId = true := by
  obtain ⟨sound, -, -⟩ := history_keeps (fun _ _ step kept => step.sound kept) events
    (.done (), .empty) (Policy.free_admitted events _) empty_sound trivial
  obtain processed | quarantined := settled
  · exact (sound.processed row present processed).partner
  · exact (sound.quarantined row present quarantined).1

/-- Content that is settled is ignored when it is delivered again exactly if the contract accepts
the name or the row is quarantined. -/
theorem redelivery_ignored_iff (deployment : Deployment)
    (events : List (Event IngestRequest Choice)) (request : IngestRequest) (row : ManifestRecord)
    (wet : request.dryRun = false)
    (known : ((ingestor deployment).moment events .empty).manifest.lookup
      request.expectedPartnerId (deployment.sha.hexdigest request.file.data) = some row)
    (settled : row.status.terminal) :
    Ignored deployment request row ((ingestor deployment).moment events .empty) ↔
      (∃ filename, parseSettlementFilename deployment.contract request.expectedPartnerId
        request.file.name = .ok filename) ∨ row.status = .quarantined := by
  obtain ⟨present, partner, content⟩ := ManifestTable.lookup_eq_some.mp known
  have named : request.expectedPartnerId ≠ [] := by
    intro empty
    have valid := settled_partner present settled
    rw [partner, empty] at valid
    cases valid
  cases parsed : parseSettlementFilename deployment.contract request.expectedPartnerId
      request.file.name with
  | ok filename =>
    refine iff_of_true (ignored_of_works ?_) (Or.inl ⟨filename, rfl⟩)
    refine accepted_name_skips wet parsed ?_ settled
    rw [parseSettlementFilename_partner named parsed]
    exact known
  | error problem =>
    constructor
    · intro ignored
      obtain processed | quarantined := settled
      · exact absurd ignored
          (not_ignored_of_raises (rejected_name_raises wet parsed known processed))
      · exact Or.inr quarantined
    · rintro (⟨filename, no⟩ | quarantined)
      · cases no
      · exact ignored_of_works (rejected_name_skips wet parsed known quarantined)

/-- The row of the processed sample file. -/
theorem lenientAttempt_processed : ∃ row,
    ((ingestor localDeployment).moment lenientAttempt .empty).manifest.lookup "VCB"
      (sha256.hexdigest (sampleHeader ++ sampleRejectedRow)) = some row ∧
    row.status = .processed := by
  obtain ⟨row, known, columns⟩ := Option.map_eq_some_iff.mp lenientAttempt_row
  exact ⟨row, known, (Prod.mk.inj columns).1⟩

/-- The processed file is delivered again under a name that the contract rejects: the attempt
raises. -/
theorem renamed_redelivery_raises :
    ¬ ∀ events (request : IngestRequest) row, request.dryRun = false →
      ((ingestor localDeployment).moment events .empty).manifest.lookup
        request.expectedPartnerId (localDeployment.sha.hexdigest request.file.data) = some row →
      row.status.terminal →
      Ignored localDeployment request row ((ingestor localDeployment).moment events .empty) := by
  intro ignores
  obtain ⟨row, known, processed⟩ := lenientAttempt_processed
  have ignored := ignores lenientAttempt ⟨sampleFile "copy.csv" sampleRejectedRow, "VCB", false,
    false⟩ row rfl known (Or.inl processed)
  have rejected : parseSettlementFilename settlementV1 "VCB" "copy.csv" =
      .error ⟨"INVALID_FILE_NAME", "Invalid settlement file name: copy.csv"⟩ := by
    decide +kernel
  exact not_ignored_of_raises (rejected_name_raises rfl rejected known processed) ignored

/-- The processed file is delivered again under a name that the contract accepts: it is
ignored. -/
theorem renamed_redelivery_ignored : ∃ row,
    row.status = .processed ∧ (Ignored localDeployment
        ⟨sampleFile "settlement_VCB_2026-07-22_002.csv" sampleRejectedRow, "VCB", false, true⟩ row
        ((ingestor localDeployment).moment lenientAttempt .empty) ↔
      (∃ filename, parseSettlementFilename settlementV1 "VCB" "settlement_VCB_2026-07-22_002.csv" =
        .ok filename) ∨ row.status = .quarantined) ∧
    ∃ filename, parseSettlementFilename settlementV1 "VCB" "settlement_VCB_2026-07-22_002.csv" =
      .ok filename := by
  obtain ⟨row, known, processed⟩ := lenientAttempt_processed
  refine ⟨row, processed, ?_, ⟨"VCB", ⟨2026, 7, 22⟩, 2, "settlement_VCB_2026-07-22_002.csv"⟩,
    by decide +kernel⟩
  exact redelivery_ignored_iff localDeployment lenientAttempt
    ⟨sampleFile "settlement_VCB_2026-07-22_002.csv" sampleRejectedRow, "VCB", false, true⟩ row rfl
    known (Or.inl processed)

end Settlement
