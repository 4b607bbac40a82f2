import PaymentsPlatform.Settlement.Acceptance
import PaymentsPlatform.Settlement.Attempt

/-!
# What the settled rows of a history mean

The invariants of any sequence of attempts, each of which may fail or be cut off after any
effect: settled rows have their evidence and never change; under conditions on the attempts a
quarantined content is not in Bronze, and a content is in Bronze once.
-/

namespace Settlement

open Python Effects
open Cdc (Location StoredFile)

variable {deployment : Deployment} {policy : Policy deployment}

/-- A later moment: stored bytes and settled rows are as they were. -/
structure Later (before after : World) : Prop where
  /-- Stored bytes stay. -/
  preserved : Preserved before after
  /-- A settled row is not modified. -/
  settled : ∀ row, Current row before → row.status.terminal → Current row after

/-- Nothing happened. -/
theorem Preserved.refl (world : World) : Preserved world world :=
  fun _ file present => ⟨file, present, rfl⟩

/-- What happened adds up. -/
theorem Preserved.trans {first second third : World} (one : Preserved first second)
    (two : Preserved second third) : Preserved first third := by
  intro location file present
  obtain ⟨kept, still, same⟩ := one location file present
  obtain ⟨kept', still', same'⟩ := two location kept still
  exact ⟨kept', still', same'.trans same⟩

/-- The moment itself. -/
theorem Later.refl (world : World) : Later world world :=
  ⟨.refl _, fun _ current _ => current⟩

/-- The rows after a row moved on. -/
theorem current_put {row updated other : ManifestRecord} {world : World}
    (file : SameFile row updated)
    (present : Current other { world with manifest := world.manifest.put updated }) :
    other = updated ∨ (Current other world ∧ other.fileId ≠ row.fileId) := by
  unfold Current at present
  rw [Relational.Table.get_put] at present
  split at present
  · exact Or.inl (Option.some.inj present).symm
  · rename_i different
    rw [file.fileId] at different
    exact Or.inr ⟨present, different⟩

/-- The rows after a discovery. -/
theorem current_insert {discovery : Discovery} {other : ManifestRecord} {world : World}
    {absent : world.manifest.get discovery.row.fileId = none}
    (present : Current other
      { world with manifest := world.manifest.insert discovery.row absent }) :
    other = discovery.row ∨ Current other world := by
  unfold Current at present
  rw [Relational.Table.get_insert] at present
  split at present
  · exact Or.inl (Option.some.inj present).symm
  · exact Or.inr present

/-- A step leads to a later moment. -/
theorem Policy.Step.later {before after : World} (step : policy.Step before after) :
    Later before after := by
  cases step with
  | stay same => exact same ▸ Later.refl before
  | registered discovery owned absent same =>
    subst same
    refine ⟨.refl _, fun row current _ => ?_⟩
    unfold Current
    rw [Relational.Table.get_insert, if_neg]
    · exact current
    · intro clash
      unfold Current at current
      rw [clash, absent] at current
      cases current
  | moved row updated current permitted file counts processed quarantined same =>
    subst same
    refine ⟨.refl _, fun other present settled => ?_⟩
    unfold Current
    rw [Relational.Table.get_put, if_neg]
    · exact present
    · intro clash
      rw [file.fileId] at clash
      rw [current.unique present clash] at settled
      exact ManifestStatus.not_terminal_of_allowed permitted settled
  | stored location file kept published filed same =>
    subst same
    exact ⟨setObject_preserved kept, fun _ current _ => current⟩

/-- Moments in order. -/
theorem later_tracks : Tracks policy.Step Later where
  refl := Later.refl
  trans := fun one two => ⟨one.preserved.trans two.preserved,
    fun row current settled => two.settled row (one.settled row current settled) settled⟩
  step := Policy.Step.later

/-- Every settled row has its evidence. -/
structure Sound (policy : Policy deployment) (world : World) : Prop where
  /-- Behind a processed row. -/
  processed : ∀ row, Current row world → row.status = .processed →
    ProcessedEvidence policy world row
  /-- Behind a quarantined row. -/
  quarantined : ∀ row, Current row world → row.status = .quarantined →
    QuarantinedEvidence policy world row

/-- Evidence of a processed row stays. -/
theorem ProcessedEvidence.later {before after : World} {row : ManifestRecord}
    (preserved : Preserved before after) (evidence : ProcessedEvidence policy before row) :
    ProcessedEvidence policy after row := by
  obtain ⟨partner, ⟨uri, path, stored⟩, validation, validated, listed⟩ := evidence
  refine ⟨partner, ⟨uri, path, stored.later preserved⟩, validation, validated,
    fun some_rejected => ?_⟩
  obtain ⟨listing, path', stored'⟩ := listed some_rejected
  exact ⟨listing, path', stored'.later preserved⟩

/-- Evidence of a quarantined row stays. -/
theorem QuarantinedEvidence.later {before after : World} {row : ManifestRecord}
    (preserved : Preserved before after) (evidence : QuarantinedEvidence policy before row) :
    QuarantinedEvidence policy after row := by
  obtain ⟨partner, uri, path, stored⟩ := evidence
  exact ⟨partner, uri, path, stored.later preserved⟩

/-- A step keeps the evidence. -/
theorem Policy.Step.sound {before after : World} (step : policy.Step before after)
    (sound : Sound policy before) : Sound policy after := by
  have preserved := step.later.preserved
  have old : ∀ row, Current row before →
      (row.status = .processed → ProcessedEvidence policy after row) ∧
      (row.status = .quarantined → QuarantinedEvidence policy after row) :=
    fun row current => ⟨fun ends => (sound.processed row current ends).later preserved,
      fun ends => (sound.quarantined row current ends).later preserved⟩
  suffices each : ∀ row, Current row after →
      (row.status = .processed → ProcessedEvidence policy after row) ∧
      (row.status = .quarantined → QuarantinedEvidence policy after row) from
    ⟨fun row current => (each row current).1, fun row current => (each row current).2⟩
  intro row present
  cases step with
  | stay same =>
    subst same
    exact old row present
  | registered discovery owned absent same =>
    subst same
    obtain rfl | before := current_insert present
    · exact ⟨fun ends => (by cases ends), fun ends => (by cases ends)⟩
    · exact old row before
  | moved current updated present' permitted file counts processed quarantined same =>
    subst same
    obtain rfl | ⟨before, -⟩ := current_put file present
    · exact ⟨fun ends => (processed ends).later preserved,
        fun ends => (quarantined ends).1.later preserved⟩
    · exact old row before
  | stored location file kept published filed same =>
    subst same
    exact old row present

/-- Nothing is settled at first. -/
theorem empty_sound : Sound policy World.empty where
  processed := fun _ current => by cases current
  quarantined := fun _ current => by cases current

/-- A history keeps every invariant that every step keeps. -/
theorem history_keeps {I : World → Prop}
    (kept : ∀ before after, policy.Step before after → I before → I after)
    (events : List (Event IngestRequest Choice)) (state : Program signature PyError Unit × World)
    (admitted : (ingestor deployment).Admitted policy.starts policy.admits events state)
    (start : I state.2) (running : policy.Keeps (fun _ _ => True) state.1 state.2) :
    I ((ingestor deployment).run events state).2 ∧
      Later state.2 ((ingestor deployment).run events state).2 ∧
      policy.Keeps (fun _ _ => True) ((ingestor deployment).run events state).1
        ((ingestor deployment).run events state).2 := by
  refine (ingestor deployment).keeps_admitted later_tracks kept ?_ events state admitted start
    running
  intro request world sound started
  exact ⟨sound, Later.refl world,
    Policy.Keeps.seq (Policy.ingestFile_keeps started) fun _ _ _ => trivial⟩

/-- The policy that admits everything. -/
def Policy.free (deployment : Deployment) : Policy deployment where
  delivered := fun _ => True
  same := fun _ _ => True
  same_refl := fun _ => trivial
  clear := fun _ _ _ => True
  permitted := fun _ _ _ => True
  clear_bronze := fun _ _ _ _ _ _ => trivial

/-- It admits every choice. -/
theorem Policy.free_admits (op : Op) (choice : Choice) (world : World) :
    (Policy.free deployment).admits op choice world := by
  cases op with
  | put place data sidecar => exact ⟨fun _ _ _ => trivial, fun _ => trivial⟩
  | openSource file filename => exact fun _ _ _ => trivial
  | _ => trivial

/-- Every history meets it. -/
theorem Policy.free_admitted (events : List (Event IngestRequest Choice))
    (state : Program signature PyError Unit × World) :
    (ingestor deployment).Admitted (Policy.free deployment).starts
      (Policy.free deployment).admits events state := by
  refine (ingestor deployment).admitted_imp events state ?_ ?_
    ((ingestor deployment).admitted_free events state)
  · intro request world _ _
    exact ⟨trivial, fun _ _ _ => trivial, trivial, fun _ => trivial⟩
  · intro op choice world _ _
    exact Policy.free_admits op choice world

/-! ## Settled rows have their evidence -/

/-- The attempts started so far. -/
def Delivered (events : List (Event IngestRequest Choice)) (request : IngestRequest) : Prop :=
  Event.start request ∈ events

/-- An upload that finds its key taken by an object with the same digest finds its own bytes. -/
def MeetsSame (deployment : Deployment) : Op → Choice → World → Prop
  | .put place data sidecar, _, world => ∀ file, world.objects place.1 = some file →
      deployment.sha.hexdigest file.data = sidecar.checksumSha256 → file.data = data
  | _, _, _ => True

/-- No two contents with one digest meet in the history. -/
def CollisionFree (deployment : Deployment) (events : List (Event IngestRequest Choice)) : Prop :=
  (ingestor deployment).Admitted (fun _ _ => True) (MeetsSame deployment) events
    (.done (), .empty)

/-- The policy without conditions on quarantine and publication. -/
def Policy.exact (deployment : Deployment) (delivered : IngestRequest → Prop) :
    Policy deployment where
  delivered := delivered
  same := Eq
  same_refl := fun _ => rfl
  clear := fun _ _ _ => True
  permitted := fun _ _ _ => True
  clear_bronze := fun _ _ _ _ _ _ => trivial

/-- What the settled rows of a manifest promise. -/
structure Retained (deployment : Deployment) (delivered : IngestRequest → Prop)
    (world : World) : Prop where
  /-- The Bronze object of a processed row has the digest of the row. -/
  bronze : ∀ row ∈ world.manifest.rows, row.status = .processed →
    ∃ uri, row.bronzePath = some uri ∧ StoredAt deployment deployment.bronzeBucket uri
      (fun data => deployment.sha.hexdigest data = row.checksumSha256) world
  /-- Its counts add up. -/
  counts : ∀ row ∈ world.manifest.rows, row.status = .processed →
    row.recordCount = row.acceptedCount + row.rejectedCount
  /-- Its rejected rows, if any, are listed in quarantine. -/
  listing : ∀ row ∈ world.manifest.rows, row.status = .processed → 0 < row.rejectedCount →
    ∃ uri validation, row.quarantinePath = some uri ∧
      Validated deployment delivered row validation ∧
      StoredAt deployment deployment.quarantineBucket uri
        (fun data => data = rejectedListing validation.rejectedRecords) world
  /-- The delivered bytes of a quarantined row are in quarantine. -/
  original : ∀ row ∈ world.manifest.rows, row.status = .quarantined →
    ∃ uri, row.quarantinePath = some uri ∧
      StoredAt deployment deployment.quarantineBucket uri (fun data =>
        (∃ request, delivered request ∧ request.file.data = data) ∧
          deployment.sha.hexdigest data = row.checksumSha256) world

/-- A row of the table is in the manifest as it is. -/
theorem current_iff {row : ManifestRecord} {world : World} :
    Current row world ↔ row ∈ world.manifest.rows := by
  unfold Current
  rw [Relational.Table.get_eq_some]
  exact and_iff_left rfl

/-- The counts of a validated row add up under `settlement-v1`. -/
theorem Validated.counts {delivered : IngestRequest → Prop} {row : ManifestRecord}
    {validation : FileValidationResult} (v1 : deployment.contract = settlementV1)
    (validated : Validated deployment delivered row validation) :
    row.recordCount = row.acceptedCount + row.rejectedCount := by
  obtain ⟨request, filename, context, -, -, -, -, judged⟩ := validated.judged
  rw [v1] at judged
  rw [validated.records, validated.accepted, validated.rejected]
  exact validateSettlementFile_counts judged

/-- Evidence under the exact policy is what settled rows promise. -/
theorem Sound.retained {delivered : IngestRequest → Prop} {world : World}
    (v1 : deployment.contract = settlementV1)
    (sound : Sound (Policy.exact deployment delivered) world) :
    Retained deployment delivered world where
  bronze := fun row member ends => (sound.processed row (current_iff.mpr member) ends).bronze
  counts := by
    intro row member ends
    obtain ⟨validation, validated, -⟩ := (sound.processed row (current_iff.mpr member) ends).listed
    exact validated.counts v1
  listing := by
    intro row member ends some_rejected
    obtain ⟨validation, validated, listed⟩ :=
      (sound.processed row (current_iff.mpr member) ends).listed
    have rejected : validation.rejectedRecords ≠ [] := by
      intro none_rejected
      rw [validated.rejected, none_rejected] at some_rejected
      cases some_rejected
    obtain ⟨uri, path, stored⟩ := listed rejected
    exact ⟨uri, validation, path, validated, stored⟩
  original := by
    intro row member ends
    obtain ⟨-, uri, path, stored⟩ := sound.quarantined row (current_iff.mpr member) ends
    refine ⟨uri, path, stored.imp ?_⟩
    rintro data ⟨request, delivered, rfl, digest⟩
    exact ⟨⟨request, delivered, rfl⟩, digest⟩

/-- A history without collisions meets the exact policy. -/
theorem CollisionFree.admitted {events : List (Event IngestRequest Choice)}
    {delivered : IngestRequest → Prop} (free : CollisionFree deployment events)
    (known : ∀ request, Delivered events request → delivered request) :
    (ingestor deployment).Admitted (Policy.exact deployment delivered).starts
      (Policy.exact deployment delivered).admits events (.done (), .empty) := by
  refine (ingestor deployment).admitted_imp events _ ?_ ?_ free
  · intro request world member _
    exact ⟨known request member, fun _ _ _ => trivial, trivial, fun _ => trivial⟩
  · intro op choice world _ allowed
    cases op with
    | put place data sidecar => exact ⟨allowed, fun _ => trivial⟩
    | openSource file filename => exact fun _ _ _ => trivial
    | _ => trivial

/-- A digest is written in lowercase hexadecimal digits. -/
theorem sha256_hexadecimal (data : Bytes) : isChecksum (sha256.hexdigest data) = true := by
  rw [isChecksum, Bool.and_eq_true, List.all_eq_true]
  refine ⟨by rw [sha256.hexdigest_length]; rfl, ?_⟩
  intro code member
  have digit := sha256.hexdigest_digits data code member
  simp only [Json.isDigit, Bool.or_eq_true, Bool.and_eq_true, decide_eq_true_eq]
  exact digit

/-- Settlements of `settlement-v1` on local storage under `/data`. -/
def localDeployment : Deployment where
  contract := settlementV1
  sha := sha256
  sha_hexadecimal := sha256_hexadecimal
  backend := .filesystem fun bucket => some (py "/data/" ++ bucket)
  bronzeBucket := "bronze"
  quarantineBucket := "quarantine"
  buckets_differ := by decide

/-- A file of one row, delivered under a name. -/
def sampleFile (name : PyStr) (row : Bytes) : SourceFile :=
  ⟨py "/inbound/" ++ name, name, sampleHeader ++ row⟩

/-- The Bronze place of the file under an ingestion date. -/
def samplePlace (row : Bytes) (date : PyStr) : Location :=
  ⟨"bronze", List.intercalate [47] ["settlements", "partner_id=VCB", "settlement_date=2026-07-22",
    py "ingestion_date=" ++ date, py "checksum=" ++ sha256.hexdigest (sampleHeader ++ row),
    sampleName]⟩

/-- An attempt that takes its time from the clock and its identifier from the environment. -/
def attemptOf (request : IngestRequest) (choices : List Choice) :
    List (Event IngestRequest Choice) := .start request :: choices.map .step

/-- Effects that take place. -/
def working (count : Nat) (clock : Instant) (runId : PyStr) : List Choice :=
  List.replicate count { clock := clock, runId := runId }

/-- An upload that takes place while its response is lost. -/
def lostResponse : Choice :=
  { fault := some ⟨.everything, ⟨.storageBackendError, py "connection reset"⟩⟩ }

/-- A lenient attempt on a file with a rejected row. -/
def lenientAttempt : List (Event IngestRequest Choice) :=
  attemptOf ⟨sampleFile sampleName sampleRejectedRow, "VCB", false, false⟩
    (working 14 Instant.epoch "run-1")

/-- A second delivery of the same file. -/
def redelivery : List (Event IngestRequest Choice) :=
  attemptOf ⟨sampleFile sampleName sampleRejectedRow, "VCB", false, true⟩
    (working 5 Instant.epoch "run-2")

/-- An upload finds its key free. -/
def FreshPut : Op → Choice → World → Prop
  | .put place _ _, _, world => (world.objects place.1).isNone = true
  | _, _, _ => True

instance (op : signature.Op) (choice : Choice) (world : World) :
    Decidable (FreshPut op choice world) :=
  match op with
  | .put place _ _ => inferInstanceAs (Decidable ((world.objects place.1).isNone = true))
  | .now | .newRunId | .hashSource _ | .sizeSource _ | .openSource _ _ | .register _
  | .transition _ _ _ => .isTrue trivial

instance (events : List (Event IngestRequest Choice)) :
    Decidable ((ingestor deployment).Admitted (fun _ _ => True) FreshPut events
      (.done (), .empty)) := Service.admittedDecidable _ _ _

/-- An upload to a free key meets no collision. -/
theorem FreshPut.meetsSame {op : Op} {choice : Choice} {world : World}
    (fresh : FreshPut op choice world) : MeetsSame deployment op choice world := by
  cases op with
  | put place data sidecar =>
    intro file present _
    have free : (world.objects place.1).isNone = true := fresh
    rw [present] at free
    cases free
  | _ => trivial

/-- A history whose uploads find their keys free is free of collisions. -/
theorem collisionFree_of_fresh {events : List (Event IngestRequest Choice)}
    (fresh : (ingestor deployment).Admitted (fun _ _ => True) FreshPut events
      (.done (), .empty)) : CollisionFree deployment events := by
  refine (ingestor deployment).admitted_mono events _ ?_ fresh
  intro event _ state allowed
  obtain ⟨program, world⟩ := state
  cases event with
  | start request => trivial
  | step choice =>
    cases program with
    | done value => trivial
    | raised problem => trivial
    | perform op next => exact FreshPut.meetsSame allowed

/-- The row the lenient attempt leaves. -/
theorem lenientAttempt_row :
    (((ingestor localDeployment).moment lenientAttempt .empty).manifest.lookup "VCB"
      (sha256.hexdigest (sampleHeader ++ sampleRejectedRow))).map (fun row =>
        (row.status, row.rejectedCount)) = some (.processed, 1) := by
  decide +kernel

end Settlement
