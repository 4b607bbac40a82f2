import PaymentsPlatform.Cdc.Replay

/-!
# Convergence of replays

The steps of an attempt on the manifest, the attempt as a whole, and what a list of attempts
leaves behind. After any attempts, cut off or failed anywhere, one attempt without failures ends
with the row committed, the object of an uninterrupted attempt, and the offset of the batch.
-/

namespace Cdc

open Python Effects

section

variable {deployment : Deployment} {batch : CdcBatch}

namespace Replayable

variable {plan : Replayable deployment batch} {faulty : Prop} {G : View → View → Prop}
  {world : World}

/-! ## Manifest -/

/-- One row was changed, and nothing else. -/
structure Updated (_plan : Replayable deployment batch) (before : View)
    (row : BatchManifestRecord) (after : View) : Prop where
  /-- The row. -/
  found : after.manifest.get batch.batchId = some row
  /-- The object stays. -/
  file : after.file = before.file
  /-- The commits stay. -/
  commits : after.commits = before.commits

/-- A change of the row that keeps its identity and has evidence for a durable status. -/
structure Lawful (plan : Replayable deployment batch) (before : View)
    (record row : BatchManifestRecord) : Prop where
  /-- The coordinates stay. -/
  coordinates : row.coordinates = record.coordinates
  /-- The creation time stays. -/
  createdAt : row.createdAt = record.createdAt
  /-- A durable row has its evidence. -/
  evidence : ∀ created, plan.Row created before record → row.Durable →
    row.checksumSha256 = some (plan.checksum created) ∧ row.objectUri = some plan.place.2 ∧
      before.file ≠ none

/-- A lawful change keeps the track. -/
theorem Updated.moves {before after : View} {record row : BatchManifestRecord}
    (updated : plan.Updated before row after)
    (found : before.manifest.get batch.batchId = some record)
    (lawful : plan.Lawful before record row) : plan.Moves before after := by
  refine ⟨?_, ?_⟩
  · intro created track
    obtain ⟨record', known⟩ := track.row
    obtain rfl := Option.some.inj (found.symm.trans known.found)
    refine ⟨⟨row, updated.found, lawful.coordinates.trans known.coordinates,
      lawful.createdAt.trans known.createdAt, ?_⟩, ?_⟩
    · intro durable
      rw [updated.file]
      exact lawful.evidence created known durable
    · rw [updated.file]
      exact track.object
  · intro fresh
    cases fresh.row.symm.trans found

/-- A lawful change to a higher stage. -/
theorem Updated.climbs {top : Nat} {before after : View} {record row : BatchManifestRecord}
    (updated : plan.Updated before row after)
    (found : before.manifest.get batch.batchId = some record)
    (lawful : plan.Lawful before record row) (low : stage record.status ≤ stage row.status)
    (high : stage row.status ≤ top) : plan.Climbs top before after := by
  refine ⟨updated.moves found lawful, fun present => updated.file ▸ present, updated.commits, ?_⟩
  intro record' found'
  obtain rfl := Option.some.inj (found.symm.trans found')
  exact ⟨row, updated.found, low, le_trans high (Nat.le_max_right _ _)⟩

/-- Reading the row. -/
theorem selectRow_ends [IsPreorder View G] :
    plan.Ends faulty G (fun answer view => view = plan.see world ∧
      answer = view.manifest.get batch.batchId) never (perform (.selectRow batch.batchId))
      world := by
  refine ends_observe (.selectRow batch.batchId) (fun _ _ => rfl) ?_
  intro start choice seen
  refine ⟨_, rfl, rfl, ?_⟩
  rw [← seen]
  rfl

/-- Reading a row that is there. -/
theorem requireRow_ends [IsPreorder View G] {record : BatchManifestRecord}
    (found : (plan.see world).manifest.get batch.batchId = some record) :
    plan.Ends faulty G (fun answer view => view = plan.see world ∧ answer = record) never
      (requireRow batch.batchId) world := by
  refine Ends.seq selectRow_ends ?_
  rintro answer end' - ⟨same, rfl⟩
  rw [same, found]
  exact Ends.done ⟨same, rfl⟩

/-- Reading the clock. -/
theorem now_ends [IsPreorder View G] :
    plan.Ends faulty G (fun _ view => view = plan.see world) never (perform .now) world := by
  refine ends_observe .now (fun _ _ => rfl) ?_
  intro start choice _
  exact ⟨_, rfl, rfl⟩

/-- Changing a row that was read. -/
theorem updateRow_ends [IsPreorder View G] {record : BatchManifestRecord}
    {assignments : List Assignment}
    (found : (plan.see world).manifest.get batch.batchId = some record)
    (legal : ∀ after, plan.Updated (plan.see world) (assign assignments record) after →
      G (plan.see world) after) :
    plan.Ends faulty G (fun (count : Nat) view => count = 1 ∧
      plan.Updated (plan.see world) (assign assignments record) view) never
      (perform (.updateRow batch.batchId record.status assignments)) world := by
  refine ends_perform (.updateRow batch.batchId record.status assignments)
    fun start choice seen => ?_
  have held : start.manifest.get batch.batchId = some record := by
    have inView : (plan.see start).manifest.get batch.batchId = some record := by
      rw [seen]
      exact found
    exact inView
  have changed := updateWhere_matching held assignments
  have after : plan.Updated (plan.see world) (assign assignments record)
      (plan.see (effect deployment (.updateRow batch.batchId record.status assignments) choice
        start).2) := by
    refine ⟨changed.2, ?_, ?_⟩
    · rw [← seen]
      rfl
    · rw [← seen]
      rfl
  refine ⟨legal _ after, ?_, fun _ outcome => (by cases outcome)⟩
  intro count outcome
  obtain rfl := Except.ok.inj outcome
  exact ⟨changed.1, after⟩

/-- A transition from the status that was read. -/
theorem transition_ends [IsPreorder View G] {record : BatchManifestRecord}
    {target : BatchStatus} {updates : List Assignment}
    (found : (plan.see world).manifest.get batch.batchId = some record)
    (allowed : record.status.allowed target = true)
    (legal : ∀ after, plan.Updated (plan.see world) (assign (.status target :: updates) record)
      after → G (plan.see world) after) :
    plan.Ends faulty G (fun _ view =>
      plan.Updated (plan.see world) (assign (.status target :: updates) record) view) never
      (transition batch.batchId target updates) world := by
  refine Ends.seq (requireRow_ends found) ?_
  rintro current read - ⟨same, rfl⟩
  rw [if_pos allowed]
  refine Ends.seq (updateRow_ends (same ▸ found) fun after updated =>
    same ▸ legal after (same ▸ updated)) ?_
  rintro count changed - ⟨one, updated⟩
  rw [same] at updated
  rw [if_pos (by rw [one]; rfl)]
  refine Ends.weaken (requireRow_ends updated.found) ?_ fun _ _ _ ended => ended
  rintro row end' - ⟨still, -⟩
  exact still ▸ updated

/-- A row that is not durable may take any status that is not durable. -/
theorem lawful_of_not_durable {before : View} {record : BatchManifestRecord}
    {assignments : List Assignment} (open' : ¬ (assign assignments record).Durable) :
    plan.Lawful before record (assign assignments record) where
  coordinates := (assign_identity assignments record).2.1
  createdAt := (assign_identity assignments record).2.2
  evidence := fun _ _ durable => absurd durable open'

/-- A transition to a higher stage. -/
theorem transition_climbs {top least : Nat} {record : BatchManifestRecord}
    (target : BatchStatus) (updates : List Assignment) (rank : stage target = least)
    (found : (plan.see world).manifest.get batch.batchId = some record)
    (allowed : record.status.allowed target = true)
    (status : (assign (.status target :: updates) record).status = target)
    (lawful : plan.Lawful (plan.see world) record (assign (.status target :: updates) record))
    (low : stage record.status ≤ least) (high : least ≤ top) :
    plan.Ends faulty (plan.Climbs top) (fun _ => plan.AtLeast least) never
      (transition batch.batchId target updates) world := by
  refine Ends.weaken (transition_ends found allowed ?_) ?_ fun _ _ _ ended => ended
  · intro after updated
    exact updated.climbs found lawful (by rw [status, rank]; exact low)
      (by rw [status, rank]; exact high)
  · intro _ end' _ updated
    exact ⟨_, updated.found, by rw [status, rank]⟩

/-- `mark_serializing` takes the row to its first stage. -/
theorem markSerializing_ends {created : Instant} (track : plan.OnTrack created (plan.see world)) :
    plan.Ends faulty (plan.Climbs 3) (fun _ => plan.AtLeast 1) never
      (markSerializing batch.batchId) world := by
  obtain ⟨record, row⟩ := track.row
  refine Ends.seq (requireRow_ends row.found) ?_
  rintro current read - ⟨same, rfl⟩
  have found : (plan.see read).manifest.get batch.batchId = some current := same ▸ row.found
  split
  · rename_i started
    refine Ends.done ⟨current, found, ?_⟩
    rcases started with status | status | status | status <;> rw [status] <;> decide
  · rename_i unstarted
    have low : current.status = .collecting ∨ current.status = .failed := by
      unfold BatchManifestRecord.Durable at unstarted
      cases status : current.status <;> simp [status] at unstarted ⊢
    refine transition_climbs .serializing [] rfl found ?_ rfl
      (lawful_of_not_durable (by rintro (durable | durable) <;> cases durable)) ?_ (by decide)
    · rcases low with status | status <;> rw [status] <;> rfl
    · rcases low with status | status <;> rw [status] <;> decide

/-- `mark_uploading` takes a row of the first stage to the second. -/
theorem markUploading_ends (reached : plan.AtLeast 1 (plan.see world)) :
    plan.Ends faulty (plan.Climbs 3) (fun _ => plan.AtLeast 2) never
      (markUploading batch.batchId) world := by
  obtain ⟨record, found, least⟩ := reached
  refine Ends.seq (requireRow_ends found) ?_
  rintro current read - ⟨same, rfl⟩
  split
  · rename_i started
    refine Ends.done ⟨current, same ▸ found, ?_⟩
    rcases started with status | status | status <;> rw [status] <;> decide
  · rename_i unstarted
    have status : current.status = .serializing := by
      unfold BatchManifestRecord.Durable at unstarted
      cases status : current.status <;> simp [status, stage] at unstarted least ⊢
    refine Ends.seq now_ends ?_
    intro now end' _ still
    exact transition_climbs .uploading [.uploadStartedAt now] rfl (still ▸ same ▸ found)
      (by rw [status]; rfl) rfl
      (lawful_of_not_durable (by rintro (durable | durable) <;> cases durable))
      (by rw [status]; decide) (by decide)

/-- `mark_uploaded` takes a row of the second stage to the third, with the evidence of the
copy. -/
theorem markUploaded_ends {created : Instant} (track : plan.OnTrack created (plan.see world))
    (reached : plan.AtLeast 2 (plan.see world)) (present : (plan.see world).file ≠ none) :
    plan.Ends faulty (plan.Climbs 3) (fun _ => plan.AtLeast 3) never
      (markUploaded batch.batchId (plan.checksum created) plan.place.2) world := by
  have length : (plan.checksum created).length = 64 := deployment.sha.hexdigest_length _
  unfold markUploaded
  rw [if_neg (not_not.mpr length)]
  obtain ⟨record, row⟩ := track.row
  obtain ⟨record', found, least⟩ := reached
  obtain rfl := Option.some.inj (row.found.symm.trans found)
  refine Ends.seq (requireRow_ends found) ?_
  rintro current read - ⟨same, rfl⟩
  split
  · rename_i durable
    obtain ⟨checksum, uri, -⟩ := row.evidence durable
    rw [if_neg (by rw [checksum, uri]; simp)]
    refine Ends.done ⟨current, same ▸ found, ?_⟩
    rcases durable with status | status <;> rw [status] <;> decide
  · rename_i unfinished
    have status : current.status = .uploading := by
      unfold BatchManifestRecord.Durable at unfinished
      cases status : current.status <;> simp [status, stage] at unfinished least ⊢
    refine Ends.seq now_ends ?_
    intro now end' _ still
    have start : plan.see end' = plan.see world := still.trans same
    refine transition_climbs .uploaded _ rfl (start ▸ found) (by rw [status]; rfl) rfl
      ⟨rfl, rfl, ?_⟩ (by rw [status]; decide) (by decide)
    intro other known _
    obtain rfl : created = other := row.createdAt.symm.trans known.createdAt
    exact ⟨rfl, rfl, start ▸ present⟩

/-- `mark_committed` takes a durable row to the last stage. -/
theorem markCommitted_ends {created : Instant} (track : plan.OnTrack created (plan.see world))
    (reached : plan.AtLeast 3 (plan.see world)) :
    plan.Ends faulty (plan.Climbs 4) (fun _ => plan.AtLeast 4) never
      (markCommitted batch.batchId) world := by
  obtain ⟨record, row⟩ := track.row
  obtain ⟨record', found, least⟩ := reached
  obtain rfl := Option.some.inj (row.found.symm.trans found)
  refine Ends.seq (requireRow_ends found) ?_
  rintro current read - ⟨same, rfl⟩
  split
  · rename_i status
    exact Ends.done ⟨current, same ▸ found, by rw [status]; decide⟩
  · rename_i uncommitted
    have status : current.status = .uploaded := by
      cases status : current.status <;> simp [status, stage] at uncommitted least ⊢
    refine Ends.seq now_ends ?_
    intro now end' _ still
    have start : plan.see end' = plan.see world := still.trans same
    exact transition_climbs .committed _ rfl (start ▸ found) (by rw [status]; rfl) rfl
      ⟨rfl, rfl, fun other known _ => known.evidence (Or.inl status)⟩ (by rw [status]; decide)
      (by decide)

/-! ## One attempt -/

/-- The ingestion time of the copy, when its object states one. -/
theorem statedIngestion_copy {created : Instant} {answer : Option StoredObject}
    (copies : ∀ stored, answer = some stored → ∃ file, plan.Copy created file ∧
      stored = describe deployment plan.place file) :
    statedIngestion answer = none ∨ statedIngestion answer = some created.utcIso := by
  cases answer with
  | none => exact Or.inl rfl
  | some stored =>
    obtain ⟨file, copy, rfl⟩ := copies stored rfl
    cases recorded : file.sidecar with
    | none =>
      left
      simp only [statedIngestion, describe, recorded, Option.bind_some]
      rfl
    | some sidecar =>
      right
      have stated := (copy.recorded sidecar recorded).2
      have nonempty := created.utcIso_plain.2.2
      simp only [statedIngestion, describe, recorded, Option.bind_some, Option.map_some,
        Option.getD_some, stated]
      exact Option.filter_eq_some_iff.mpr ⟨rfl, by simpa using nonempty⟩

/-- The stated ingestion time is read back. -/
theorem readIngestion_created (created : Instant) :
    readIngestion created.utcIso = .ok created := by
  unfold readIngestion
  rw [parseTimestamp_utcIso]

/-- Serializing at the creation time. -/
theorem serializeBatch_ends [IsPreorder View G] (created : Instant) :
    plan.Ends faulty G (fun serialized view => serialized = plan.parquet created ∧
      view = plan.see world) never (serializeBatch deployment batch created) world := by
  refine Ends.seq (M := fun (data : Bytes) view => data = plan.bytes created ∧
    view = plan.see world) ?_ ?_
  · refine ends_observe (.serialize batch created) (fun _ _ => rfl) ?_
    intro start choice _
    exact ⟨_, plan.serializes created, rfl, rfl⟩
  · rintro data end' - ⟨rfl, same⟩
    exact Ends.done ⟨rfl, same⟩

/-- What `stat_batch` finds is the copy. -/
theorem statBatch_copies {top : Nat} {created : Instant}
    (track : plan.OnTrack created (plan.see world)) :
    plan.Ends faulty (plan.Climbs top) (fun answer _ => ∀ stored, answer = some stored →
      ∃ file, plan.Copy created file ∧ stored = describe deployment plan.place file) never
      (statBatch deployment batch) world := by
  refine Ends.weaken statBatch_ends ?_ fun _ _ _ ended => ended
  rintro answer end' - ⟨same, found, -⟩ stored answered
  obtain ⟨file, there, described⟩ := found stored answered
  exact ⟨file, track.object file (same ▸ there), described⟩

/-- Retrying an operation that can start from every view on track. -/
theorem retryCall_onTrack {α : Type} {top : Nat} {created : Instant} {post : α → View → Prop}
    {operation : Action α} (track : plan.OnTrack created (plan.see world))
    (each : ∀ start, plan.OnTrack created (plan.see start) →
      plan.Climbs top (plan.see world) (plan.see start) →
      plan.Ends faulty (plan.Climbs top) post never operation start) :
    plan.Ends faulty (plan.Climbs top) post never (retryCall deployment operation) world :=
  Ends.retryCall (fun _ _ climbed onTrack => climbed.moves.tracked created onTrack) each track

/-- The part of the upload before the temporary file exists. -/
theorem prepare_ends {created : Instant} (track : plan.OnTrack created (plan.see world)) :
    plan.Ends faulty (plan.Climbs 3) (fun prepared view =>
      prepared = (plan.parquet created, created) ∧ plan.AtLeast 1 view) never
      (prepare deployment batch) world := by
  refine Ends.seq (retryCall_onTrack track fun _ onTrack _ => markSerializing_ends onTrack) ?_
  intro _ marked climbed reached
  have track' := climbed.moves.tracked created track
  obtain ⟨record, row⟩ := track'.row
  refine Ends.seq selectRow_ends ?_
  rintro answer read - ⟨same, rfl⟩
  rw [same, row.found]
  have onTrack : plan.OnTrack created (plan.see read) := same ▸ track'
  refine Ends.seq (retryCall_onTrack onTrack fun _ again _ => statBatch_copies again) ?_
  intro existing seen climbed' copies
  have chosen : ingestionTime existing record.createdAt = .ok created := by
    unfold ingestionTime
    rcases statedIngestion_copy copies with none | stated
    · rw [none, row.createdAt]
    · rw [stated]
      exact readIngestion_created created
  refine Ends.seq (M := fun ingestedAt view => ingestedAt = created ∧ view = plan.see seen)
    (Ends.ofExcept created chosen ⟨rfl, rfl⟩) ?_
  rintro _ timed - ⟨rfl, same'⟩
  refine Ends.seq (serializeBatch_ends _) ?_
  rintro _ end' - ⟨rfl, same''⟩
  refine Ends.done ⟨rfl, ?_⟩
  rw [same'', same']
  exact AtLeast.climb (same ▸ reached) climbed'

/-- The upload of the serialized batch. -/
theorem uploadSerialized_ends {created : Instant}
    (track : plan.OnTrack created (plan.see world)) :
    plan.Ends faulty (plan.Climbs 3) (fun uploaded view => uploaded.1 = plan.parquet created ∧
      plan.Good created uploaded.2 ∧ view.file ≠ none) never
      (uploadSerialized deployment batch (plan.parquet created) created) world := by
  refine Ends.seq (retryCall_onTrack track fun _ onTrack _ => putBatch_ends onTrack) ?_
  rintro stored end' - ⟨good, there⟩
  exact Ends.done ⟨rfl, good, there⟩

/-- Removing the temporary file. -/
theorem cleanupSerialized_ends [IsPreorder View G] :
    plan.Ends faulty G (fun _ view => view = plan.see world) never cleanupSerialized world := by
  refine ends_observe .unlinkTemporary (fun _ _ => rfl) ?_
  intro start choice _
  exact ⟨_, rfl, rfl⟩

/-- The rebuild after a collision, which takes a failure to happen. -/
theorem rebuild_ends {created : Instant} (needs : faulty)
    (track : plan.OnTrack created (plan.see world)) (collision : PyError) :
    plan.Ends faulty (plan.Climbs 3) (fun uploaded view => uploaded.1 = plan.parquet created ∧
      plan.Good created uploaded.2 ∧ view.file ≠ none) never
      (rebuild deployment batch collision) world := by
  refine Ends.seq (statBatch_copies track) ?_
  intro winner seen climbed copies
  have track' := climbed.moves.tracked created track
  rcases statedIngestion_copy copies with none | stated
  · simp only [none]
    exact Ends.failed needs
  · simp only [stated]
    -- The unifier would otherwise evaluate the parser on the text.
    have read := readIngestion_created created
    generalize readIngestion created.utcIso = outcome at read ⊢
    refine Ends.seq (M := fun ingestedAt view => ingestedAt = created ∧ view = plan.see seen)
      (Ends.ofExcept created read ⟨rfl, rfl⟩) ?_
    rintro _ timed - ⟨rfl, same⟩
    refine Ends.seq cleanupSerialized_ends ?_
    intro _ cleaned _ same'
    refine Ends.seq (serializeBatch_ends _) ?_
    rintro _ end' - ⟨rfl, same''⟩
    refine uploadSerialized_ends ?_
    rw [same'', same', same]
    exact track'

/-- The upload takes the row to the third stage. -/
theorem upload_ends {created : Instant} (track : plan.OnTrack created (plan.see world))
    (reached : plan.AtLeast 1 (plan.see world)) :
    plan.Ends faulty (plan.Climbs 3) (fun _ => plan.AtLeast 3) never
      (upload deployment batch (plan.parquet created) created) world := by
  refine Ends.seq (retryCall_onTrack track fun _ _ climbed =>
    markUploading_ends (reached.climb climbed)) ?_
  intro _ marked climbed reached'
  have track' := climbed.moves.tracked created track
  refine Ends.seq (Ends.recover (uploadSerialized_ends track') ?_) ?_
  · rintro problem failed climbed' (needs | no)
    · split
      · exact rebuild_ends needs (climbed'.moves.tracked created track') problem
      · exact Ends.failed needs
    · exact no.elim
  · rintro ⟨serialized, stored⟩ uploaded climbed' ⟨same, good, present⟩
    simp only at same good
    subst same
    simp only [good.uri]
    refine Ends.seq (retryCall_onTrack (climbed'.moves.tracked created track')
      fun _ onTrack since => markUploaded_ends onTrack
        (reached'.climb (climbed'.trans since)) (since.object present)) ?_
    intro _ end' _ done
    exact Ends.done done

/-- A program that climbs, among programs that keep the track. -/
theorem Ends.within {α : Type} {top : Nat} {post : α → View → Prop} {program : Action α}
    (climbing : plan.Ends faulty (plan.Climbs top) post never program world) :
    plan.Ends faulty plan.Moves (fun value view => plan.Climbs top (plan.see world) view ∧
      post value view) never program world :=
  (Ends.weaken climbing (fun _ _ climbed ends => ⟨climbed, ends⟩) fun _ _ _ ended =>
    ended).widen fun _ _ climbed => climbed.moves

/-- A cleanup that changes nothing. -/
theorem Ends.ensure [IsPreorder View G] {α : Type} {post : α → View → Prop}
    {program : Action α} {cleanup : Action Unit}
    (first : plan.Ends faulty G post never program world)
    (clean : ∀ start, plan.Ends faulty G (fun _ view => view = plan.see start) never cleanup
      start) : plan.Ends faulty G post never (program.ensure cleanup) world := by
  refine Meets.ensure (Meets.mono first ?_ ?_)
  · intro value start ends
    refine Ends.weaken (clean start) ?_ fun _ _ _ ended => ended
    intro _ end' _ same
    exact same ▸ ends
  · intro problem start ended
    refine Meets.mono (clean start) ?_ fun _ _ failed => failed
    intro _ end' same
    rcases ended with needs | no
    · exact Or.inl needs
    · exact no.elim

/-- A note in the row, which takes a failure to happen. -/
theorem noteRetryableError_ends {created : Instant} (errorCode errorMessage : PyStr)
    (track : plan.OnTrack created (plan.see world)) :
    plan.Ends faulty plan.Moves (fun _ _ => True) never
      (noteRetryableError batch.batchId errorCode errorMessage) world := by
  obtain ⟨record, row⟩ := track.row
  refine Ends.seq (requireRow_ends row.found) ?_
  rintro current read - ⟨same, rfl⟩
  have found : (plan.see read).manifest.get batch.batchId = some current := same ▸ row.found
  refine Ends.seq (updateRow_ends found ?_) ?_
  · intro after updated
    exact updated.moves found ⟨rfl, rfl, fun _ known durable => known.evidence durable⟩
  · rintro count changed - ⟨-, updated⟩
    exact Ends.weaken (requireRow_ends updated.found) (fun _ _ _ _ => trivial)
      fun _ _ _ ended => ended

/-- Marking a failed upload, which takes a failure to happen. -/
theorem markFailed_ends {created : Instant} (needs : faulty) (errorCode errorMessage : PyStr)
    (track : plan.OnTrack created (plan.see world)) :
    plan.Ends faulty plan.Moves (fun _ _ => True) never
      (markFailed batch.batchId errorCode errorMessage) world := by
  obtain ⟨record, row⟩ := track.row
  refine Ends.seq (requireRow_ends row.found) ?_
  rintro current read - ⟨same, rfl⟩
  have found : (plan.see read).manifest.get batch.batchId = some current := same ▸ row.found
  split
  · exact Ends.failed needs
  · rename_i unfinished
    split
    · exact noteRetryableError_ends _ _ (same ▸ track)
    · rename_i unfailed
      refine Ends.weaken (transition_ends found ?_ ?_) (fun _ _ _ _ => trivial)
        fun _ _ _ ended => ended
      · unfold BatchManifestRecord.Durable at unfinished
        cases status : current.status <;> simp [status] at unfinished unfailed ⊢ <;> rfl
      · intro after updated
        exact updated.moves found (lawful_of_not_durable
          (by rintro (durable | durable) <;> cases durable))

/-- The failure handler of the upload, which takes a failure to happen. -/
theorem uploadFailed_ends {α : Type} {created : Instant} {post : α → View → Prop}
    (needs : faulty) (track : plan.OnTrack created (plan.see world)) (error : PyError) :
    plan.Ends faulty plan.Moves post never (uploadFailed batch error) world := by
  refine Ends.seq selectRow_ends ?_
  rintro answer read - ⟨same, rfl⟩
  cases (plan.see read).manifest.get batch.batchId with
  | none => exact Ends.failed needs
  | some current =>
    simp only
    split
    · exact Ends.failed needs
    · refine Ends.seq (markFailed_ends needs _ _ (same ▸ track)) ?_
      intro _ end' _ _
      exact Ends.failed needs

/-- The upload of a batch that is not durable leaves its row uploaded. -/
theorem publishBatch_ends {created : Instant} {record : BatchManifestRecord}
    (track : plan.OnTrack created (plan.see world))
    (row : plan.Row created (plan.see world) record) (unfinished : ¬ record.Durable) :
    plan.Ends faulty plan.Moves (fun _ view => ∃ uploaded,
      view.manifest.get batch.batchId = some uploaded ∧ uploaded.status = .uploaded) never
      (publishBatch deployment batch) world := by
  refine Ends.seq (Ends.recover (prepare_ends track).within ?_) ?_
  · rintro problem failed moved (needs | no)
    · exact uploadFailed_ends needs (moved.tracked created track) problem
    · exact no.elim
  · rintro _ ready - ⟨climbed, rfl, reached⟩
    have track' := climbed.moves.tracked created track
    refine Ends.ensure ?_ fun _ => cleanupSerialized_ends
    refine Ends.recover (Ends.weaken (upload_ends track' reached).within ?_
      fun _ _ _ ended => ended) ?_
    · rintro _ end' - ⟨climbed', uploaded, found, least⟩
      obtain ⟨row', found', -, most⟩ := (climbed.trans climbed').climbs record row.found
      obtain rfl := Option.some.inj (found'.symm.trans found)
      refine ⟨row', found, ?_⟩
      have low : stage record.status ≤ 2 := by
        unfold BatchManifestRecord.Durable at unfinished
        cases status : record.status <;> simp [status, stage] at unfinished ⊢
      have third : stage row'.status = 3 := by omega
      cases status : row'.status <;> simp [status, stage] at third ⊢
    · rintro problem failed moved (needs | no)
      · exact uploadFailed_ends needs (moved.tracked created track') problem
      · exact no.elim

/-- Object and manifest stay. -/
structure Stays (before after : View) : Prop where
  /-- The object. -/
  file : after.file = before.file
  /-- The manifest. -/
  manifest : after.manifest = before.manifest

instance : IsPreorder View Stays where
  refl := fun _ => ⟨rfl, rfl⟩
  trans := fun _ _ _ one two => ⟨two.file.trans one.file, two.manifest.trans one.manifest⟩

/-- A commit keeps the track. -/
theorem Stays.moves {before after : View} (stays : Stays before after) :
    plan.Moves before after := by
  refine ⟨?_, ?_⟩
  · intro created track
    obtain ⟨record, row⟩ := track.row
    refine ⟨⟨record, stays.manifest ▸ row.found, row.coordinates, row.createdAt, ?_⟩, ?_⟩
    · rw [stays.file]
      exact row.evidence
    · rw [stays.file]
      exact track.object
  · intro fresh
    refine Or.inl ⟨?_, ?_, ?_⟩
    · rw [stays.manifest]
      exact fresh.row
    · rw [stays.manifest]
      exact fresh.range
    · rw [stays.file]
      exact fresh.object

/-- The latest commit is that of the batch. -/
def Committed (_plan : Replayable deployment batch) (view : View) : Prop :=
  view.commits.head? = some (batch.topicPartition, batch.nextOffset)

/-- The commit of the batch. -/
theorem commitBatch_ends :
    plan.Ends faulty plan.Moves (fun _ view => Stays (plan.see world) view ∧
      plan.Committed view) never (commitBatch deployment batch) world := by
  have staying : plan.Ends faulty Stays (fun _ view => plan.Committed view) never
      (commitBatch deployment batch) world := by
    refine Ends.retryCall (R := fun _ => True) (fun _ _ _ _ => trivial) ?_ trivial
    intro start _ _
    refine Ends.recover (E := never) ?_ ?_
    · refine ends_perform (.commitOffset batch.topicPartition batch.nextOffset)
        fun begin choice seen => ⟨?_, fun _ _ => rfl, fun _ outcome => (by cases outcome)⟩
      rw [← seen]
      exact ⟨rfl, rfl⟩
    · rintro problem end' - (needs | no)
      · split
        · exact Ends.failed needs
        · exact Ends.failed needs
      · exact no.elim
  exact (Ends.weaken staying (fun _ _ stays ends => ⟨stays, ends⟩) fun _ _ _ ended =>
    ended).widen fun _ _ stays => stays.moves

/-- The protocol is complete: the row of the track is committed, and so is the offset. -/
structure Complete (plan : Replayable deployment batch) (created : Instant) (view : View) :
    Prop where
  /-- The batch is on track. -/
  track : plan.OnTrack created view
  /-- The row is committed. -/
  row : plan.AtLeast 4 view
  /-- The offset is committed. -/
  commit : plan.Committed view

/-- Marking the row after the commit completes the protocol. -/
theorem Ends.completes {α : Type} {created : Instant} {program : Action α}
    (marking : plan.Ends faulty (plan.Climbs 4) (fun _ => plan.AtLeast 4) never program world)
    (track : plan.OnTrack created (plan.see world)) (commit : plan.Committed (plan.see world)) :
    plan.Ends faulty plan.Moves (fun _ => plan.Complete created) never program world := by
  refine Ends.weaken marking.within ?_ fun _ _ _ ended => ended
  rintro _ end' - ⟨climbed, last⟩
  refine ⟨climbed.moves.tracked created track, last, ?_⟩
  unfold Committed
  rw [climbed.commits]
  exact commit

/-- The end of a first upload. -/
theorem finish_ends {created : Instant} {uploaded : BatchManifestRecord}
    (track : plan.OnTrack created (plan.see world))
    (found : (plan.see world).manifest.get batch.batchId = some uploaded)
    (status : uploaded.status = .uploaded) :
    plan.Ends faulty plan.Moves (fun _ => plan.Complete created) never
      (finish deployment batch) world := by
  obtain ⟨record, row⟩ := track.row
  obtain rfl := Option.some.inj (row.found.symm.trans found)
  obtain ⟨checksum, uri, -⟩ := row.evidence (Or.inl status)
  refine Ends.seq selectRow_ends ?_
  rintro answer read - ⟨same, rfl⟩
  rw [same, found]
  simp only [status, checksum, uri]
  have track' : plan.OnTrack created (plan.see read) := same ▸ track
  refine Ends.seq (Ends.recover commitBatch_ends ?_) ?_
  · rintro problem failed moved (needs | no)
    · refine Ends.seq (noteRetryableError_ends _ _ (moved.tracked created track')) ?_
      intro _ end' _ _
      exact Ends.failed needs
    · exact no.elim
  · rintro _ committed - ⟨stays, commit⟩
    have onTrack := stays.moves.tracked created track'
    have reached : plan.AtLeast 3 (plan.see committed) := by
      refine ⟨record, ?_, by rw [status]; decide⟩
      rw [stays.manifest, same]
      exact found
    refine Ends.seq (Ends.completes (retryCall_onTrack onTrack fun _ again climbed =>
      markCommitted_ends again (reached.climb climbed)) onTrack commit) ?_
    intro _ end' _ complete
    exact Ends.done complete

/-- A batch that is already durable is verified and committed again. -/
theorem replay_ends {created : Instant} {record : BatchManifestRecord}
    (track : plan.OnTrack created (plan.see world))
    (row : plan.Row created (plan.see world) record) (durable : record.Durable) :
    plan.Ends faulty plan.Moves (fun _ => plan.Complete created) never
      (replay deployment batch record) world := by
  obtain ⟨checksum, uri, present⟩ := row.evidence durable
  have verified : plan.Ends faulty Eq (fun _ view => view = plan.see world) never
      (retryCall deployment (verifyBatch deployment batch (plan.checksum created) plan.place.2))
      world := by
    refine Ends.retryCall (R := fun view => view = plan.see world)
      (fun _ _ same start => same ▸ start) ?_ rfl
    intro start same _
    rw [← same]
    exact verifyBatch_ends (same ▸ track) (same ▸ present)
  unfold replay
  rw [checksum, uri]
  refine Ends.seq (verified.widen fun before _ same => same ▸ Moves.refl before) ?_
  intro _ checked _ same
  refine Ends.seq commitBatch_ends ?_
  rintro _ committed - ⟨stays, commit⟩
  have onTrack := stays.moves.tracked created (same ▸ track)
  have found : (plan.see committed).manifest.get batch.batchId = some record := by
    rw [stays.manifest, same]
    exact row.found
  split
  · rename_i status
    refine Ends.seq (Ends.completes (markCommitted_ends onTrack
      ⟨record, found, by rw [status]; decide⟩) onTrack commit) ?_
    intro _ end' _ complete
    exact Ends.done complete
  · rename_i other
    refine Ends.done ⟨onTrack, ⟨record, found, ?_⟩, commit⟩
    rw [durable.resolve_left other]
    decide

/-- Attempts keep what is expected of the batch. -/
theorem Expected.moves {before after : View} (expected : plan.Expected before)
    (moves : plan.Moves before after) : plan.Expected after := by
  rcases expected with fresh | ⟨created, track⟩
  · exact moves.entered fresh
  · exact Or.inr ⟨created, moves.tracked created track⟩

/-- Registration of a batch that has no row. -/
theorem register_fresh {view : View} (fresh : plan.Unregistered view) (now : Instant) :
    (register view.manifest batch deployment.settings.groupId now).1 =
        .ok (freshRecord batch deployment.settings.groupId now) ∧
      (register view.manifest batch deployment.settings.groupId now).2.get batch.batchId =
        some (freshRecord batch deployment.settings.groupId now) := by
  have returned : (register view.manifest batch deployment.settings.groupId now).1 =
      .ok (freshRecord batch deployment.settings.groupId now) := by
    obtain ⟨partition, first, last⟩ := plan.fits
    unfold register
    split
    · rename_i record found
      cases fresh.row.symm.trans found
    · rw [if_neg (by simp [partition, first, last]),
        if_neg (by simp [plan.insertable, fresh.range])]
  exact ⟨returned, ((register_spec _ _ _ now).2.2 _ returned).1⟩

/-- Registration of a batch that is on track returns its row. -/
theorem register_known {view : View} {created : Instant} {record : BatchManifestRecord}
    (row : plan.Row created view record) (now : Instant) :
    register view.manifest batch deployment.settings.groupId now = (.ok record, view.manifest) := by
  unfold register
  split
  · rename_i record' found
    obtain rfl : record = record' := Option.some.inj (row.found.symm.trans found)
    rw [if_pos row.coordinates]
  · rename_i absent
    cases absent.symm.trans row.found

/-- Registration puts the batch on track. -/
theorem registerBatch_ends (expected : plan.Expected (plan.see world)) :
    plan.Ends faulty plan.Moves (fun record view => ∃ created, plan.OnTrack created view ∧
      plan.Row created view record) never (registerBatch deployment batch) world := by
  refine Ends.seq now_ends ?_
  intro now clock _ same
  refine ends_perform (.registerRow batch deployment.settings.groupId now)
    fun start choice seen => ?_
  have whole : plan.see start = plan.see world := seen.trans same
  rw [← seen]
  rcases expected with fresh | ⟨created, track⟩
  · obtain ⟨returned, found⟩ := register_fresh (whole ▸ fresh : plan.Unregistered _) now
    have row : plan.Row now (plan.see (effect deployment
        (.registerRow batch deployment.settings.groupId now) choice start).2)
        (freshRecord batch deployment.settings.groupId now) :=
      ⟨found, rfl, rfl, by rintro (durable | durable) <;> cases durable⟩
    have track : plan.OnTrack now (plan.see (effect deployment
        (.registerRow batch deployment.settings.groupId now) choice start).2) := by
      refine ⟨⟨_, row⟩, ?_⟩
      intro file present
      cases (fresh.object.symm.trans (congrArg View.file whole).symm).trans present
    refine ⟨⟨?_, fun _ => Or.inr ⟨now, track⟩⟩, ?_, ?_⟩
    · intro created track'
      exact absurd (whole ▸ fresh) track'.registered
    · intro record outcome
      obtain rfl := Except.ok.inj (returned.symm.trans outcome)
      exact ⟨now, track, row⟩
    · intro problem outcome
      cases returned.symm.trans outcome
  · obtain ⟨record, row⟩ := track.row
    have known := register_known (whole ▸ row : plan.Row created (plan.see start) record) now
    have still : plan.see (effect deployment
        (.registerRow batch deployment.settings.groupId now) choice start).2 =
        plan.see start := by
      simp only [effect]
      change View.mk _ (register (plan.see start).manifest batch _ now).2 _ = _
      rw [known]
      rfl
    rw [still, whole]
    refine ⟨Moves.refl _, ?_, ?_⟩
    · intro returned outcome
      obtain rfl : record = returned := Except.ok.inj ((congrArg Prod.fst known).symm.trans outcome)
      exact ⟨created, track, row⟩
    · intro problem outcome
      cases (congrArg Prod.fst known).symm.trans outcome

/-- An attempt keeps the track, and one that nothing fails completes the protocol. -/
theorem process_ends (expected : plan.Expected (plan.see world)) :
    plan.Ends faulty plan.Moves (fun _ view => ∃ created, plan.Complete created view) never
      (process deployment batch) world := by
  refine Ends.seq (Ends.retryCall (R := plan.Expected)
    (fun _ _ moves start => start.moves moves) (fun _ start _ => registerBatch_ends start)
    expected) ?_
  rintro record registered - ⟨created, track, row⟩
  split
  · rename_i durable
    refine Ends.weaken (replay_ends track row durable) ?_ fun _ _ _ ended => ended
    intro _ end' _ complete
    exact ⟨created, complete⟩
  · rename_i unfinished
    refine Ends.seq (publishBatch_ends track row unfinished) ?_
    rintro _ published moved ⟨uploaded, found, status⟩
    refine Ends.weaken (finish_ends (moved.tracked created track) found status) ?_
      fun _ _ _ ended => ended
    intro _ end' _ complete
    exact ⟨created, complete⟩

/-! ## Attempts -/

/-- The world after an attempt that is cut off after its last choice. -/
def attempt (deployment : Deployment) (batch : CdcBatch) (world : World)
    (choices : List Choice) : World :=
  ((machine deployment).run choices (process deployment batch, world)).2

/-- Other writers leave the key of the batch alone. -/
def Alone (plan : Replayable deployment batch) (choice : Choice) : Prop :=
  ∀ publication ∈ choice.published, publication.location ≠ plan.place.1

/-- An attempt, wherever it is cut off, keeps what is expected of the batch. -/
theorem attempt_expected (choices : List Choice)
    (alone : ∀ choice ∈ choices, plan.Alone choice) (expected : plan.Expected (plan.see world)) :
    plan.Expected (plan.see (attempt deployment batch world choices)) := by
  have admitted : Admitted (machine deployment) (plan.admits True) choices
      (process deployment batch, world) :=
    Admitted.of_forall choices _ fun choice member _ _ => ⟨alone choice member, fun _ => trivial⟩
  obtain ⟨-, path⟩ := Meets.run choices (process_ends expected) admitted
  have moved : plan.Moves (plan.see world) (plan.see (attempt deployment batch world choices)) := by
    unfold attempt
    generalize ((machine deployment).run choices (process deployment batch, world)).2 = end'
      at path
    induction path with
    | refl => exact Moves.refl _
    | tail _ step ih => exact ih.trans step
  exact expected.moves moved

/-- Any number of attempts keeps what is expected of the batch. -/
theorem attempts_expected (attempts : List (List Choice))
    (alone : ∀ choices ∈ attempts, ∀ choice ∈ choices, plan.Alone choice)
    (expected : plan.Expected (plan.see world)) :
    plan.Expected (plan.see (attempts.foldl (attempt deployment batch) world)) := by
  induction attempts generalizing world with
  | nil => exact expected
  | cons choices attempts ih =>
    exact ih (fun other member => alone other (List.mem_cons_of_mem _ member))
      (attempt_expected choices (alone choices (List.mem_cons_self ..)) expected)

/-- A choice under which every dependency succeeds. -/
structure Healthy (plan : Replayable deployment batch) (choice : Choice) : Prop where
  /-- The effect does not fail. -/
  fault : choice.fault = none
  /-- The key of the batch is left alone. -/
  alone : plan.Alone choice

/-- An attempt in which every dependency succeeds completes the protocol. -/
theorem process_completes (stream : Nat → Choice) (healthy : ∀ index, plan.Healthy (stream index))
    (expected : plan.Expected (plan.see world)) :
    ∃ count result end' created, (machine deployment).run ((List.range count).map stream)
        (process deployment batch, world) = (.done result, end') ∧
      plan.Complete created (plan.see end') ∧ plan.Moves (plan.see world) (plan.see end') := by
  have admitted : ∀ index op world, plan.admits False op (stream index) world := by
    intro index _ _
    exact ⟨(healthy index).alone, fun failing => failing (healthy index).fault⟩
  have meets : plan.Ends False plan.Moves (fun _ view => (∃ created, plan.Complete created view) ∧
      plan.Moves (plan.see world) view) never (process deployment batch) world :=
    Ends.weaken (process_ends expected) (fun _ _ moved ends => ⟨ends, moved⟩)
      fun _ _ _ ended => ended
  obtain ⟨count, ends⟩ := Meets.completes stream admitted meets
  rcases ends with ⟨result, end', ran, ⟨created, complete⟩, moved⟩ | ⟨problem, end', -, no | no⟩
  · exact ⟨count, result, end', created, ran, complete, moved⟩
  · exact no.elim
  · exact no.elim

/-- What a completed protocol means for the world. -/
theorem Complete.outcome {created : Instant} {end' : World}
    (complete : plan.Complete created (plan.see end')) :
    ∃ record file, end'.manifest.get batch.batchId = some record ∧
      record.status = .committed ∧ record.createdAt = created
      ∧ end'.objects plan.place.1 = some file ∧ file.data = plan.bytes created
      ∧ end'.committed batch.topicPartition = some (batch.offsetEnd + 1) := by
  obtain ⟨record, row⟩ := complete.track.row
  obtain ⟨record', found, last⟩ := complete.row
  obtain rfl := Option.some.inj (row.found.symm.trans found)
  have status : record.status = .committed := by
    cases status : record.status <;> simp [status, stage] at last ⊢
  obtain ⟨-, -, present⟩ := row.evidence (Or.inr status)
  obtain ⟨file, there⟩ := Option.ne_none_iff_exists'.mp present
  refine ⟨record, file, found, status, row.createdAt, there,
    (complete.track.object file there).data, ?_⟩
  obtain ⟨rest, commits⟩ := List.head?_eq_some_iff.mp complete.commit
  have commits' : end'.commits = (batch.topicPartition, batch.nextOffset) :: rest := commits
  simp [World.committed, commits', CdcBatch.nextOffset]

end Replayable

/-- Attempts that are cut off or fail anywhere do not matter: a following attempt in which every
dependency succeeds ends with the row committed, the object under the key of the batch and the
offset behind the batch committed, and the bytes of the object are those that every uninterrupted
attempt from the same registered row writes. -/
theorem replay_converges (plan : Replayable deployment batch) (world : World)
    (fresh : plan.Unregistered (plan.see world)) (attempts : List (List Choice))
    (alone : ∀ choices ∈ attempts, ∀ choice ∈ choices, plan.Alone choice)
    (stream : Nat → Choice) (healthy : ∀ index, plan.Healthy (stream index)) :
    ∃ count result end' record file, (machine deployment).run ((List.range count).map stream)
        (process deployment batch, attempts.foldl (Replayable.attempt deployment batch) world) =
          (.done result, end')
      ∧ end'.manifest.get batch.batchId = some record ∧ record.status = .committed
      ∧ end'.objects plan.place.1 = some file
      ∧ end'.committed batch.topicPartition = some (batch.offsetEnd + 1) ∧
      ∀ (clean : World) (calm : Nat → Choice),
        clean.manifest.get batch.batchId =
          some (freshRecord batch deployment.settings.groupId record.createdAt) →
        clean.objects plan.place.1 = none → (∀ index, plan.Healthy (calm index)) →
        ∃ count result end' copy, (machine deployment).run ((List.range count).map calm)
            (process deployment batch, clean) = (.done result, end')
          ∧ end'.objects plan.place.1 = some copy ∧ file.data = copy.data := by
  obtain ⟨count, result, end', created, ran, complete, -⟩ :=
    Replayable.process_completes stream healthy
      (Replayable.attempts_expected attempts alone (Or.inl fresh))
  obtain ⟨record, file, found, status, createdAt, there, data, commit⟩ := complete.outcome
  refine ⟨count, result, end', record, file, ran, found, status, there, commit, ?_⟩
  intro clean calm registered absent healthy'
  have track : plan.OnTrack created (plan.see clean) := by
    refine ⟨⟨_, registered, rfl, createdAt, ?_⟩, ?_⟩
    · rintro (durable | durable) <;> cases durable
    · intro file present
      cases absent.symm.trans present
  obtain ⟨count', result', end'', created', ran', complete', moved⟩ :=
    Replayable.process_completes calm healthy' (Or.inr ⟨created, track⟩)
  obtain ⟨-, copy, -, -, -, there', data', -⟩ := complete'.outcome
  obtain rfl := (moved.tracked created track).created_unique complete'.track
  exact ⟨count', result', end'', copy, ran', there', data.trans data'.symm⟩

end

/-! ## A concrete batch -/

/-- An update of a customer at offset 7. -/
def customerEvent : BronzeEvent where
  eventId := deterministicEventId sha256 "fintech.public.customers" 0 7
  entityName := "customers"
  operation := "u"
  isSnapshot := false
  isDeleted := false
  isTombstone := false
  eventKeyJson := none
  beforeJson := none
  afterJson := none
  sourceMetadataJson := none
  sourceLsn := none
  sourceTxId := none
  sourceTsMs := none
  connectorTsMs := none
  kafkaTopic := "fintech.public.customers"
  kafkaPartition := 0
  kafkaOffset := 7
  kafkaMessageTsMs := none
  ingestedAt := Instant.epoch
  eventDate := "1970-01-01"
  schemaVersion := "1"
  rawEventJson := none

/-- The batch of that event. -/
def customerBatch : CdcBatch where
  batchId := deterministicBatchId sha256 "fintech.public.customers" 0 7 7 "1"
  topic := "fintech.public.customers"
  partition := 0
  offsetStart := 7
  offsetEnd := 7
  entityName := "customers"
  eventDate := "1970-01-01"
  schemaVersion := "1"
  events := [customerEvent]

/-- The batch can be processed. -/
def customerPlan : Replayable (localDeployment .empty) customerBatch where
  place := (batchPlace (localDeployment .empty) customerBatch).toOption.getD (⟨[], []⟩, [])
  bytes := fun ingestedAt => utf8 (py "7-7@" ++ ingestedAt.utcIso)
  placed := by decide +kernel
  serializes := fun _ => rfl
  insertable := by decide
  fits := by decide

/-- An attempt cut off before its first effect and one that loses the answer of every effect do
not keep the next attempt from completing. -/
theorem customer_replay_converges :
    customerPlan.Unregistered (customerPlan.see (newWorld (localDeployment .empty) [])) ∧
    ∃ count result end' record,
      (machine (localDeployment .empty)).run ((List.range count).map fun _ => {})
        (process (localDeployment .empty) customerBatch,
          [[], List.replicate 9 { fault := some ⟨true, ⟨.osError, []⟩⟩ }].foldl
            (Replayable.attempt (localDeployment .empty) customerBatch)
            (newWorld (localDeployment .empty) [])) =
          (.done result, end')
      ∧ end'.manifest.get customerBatch.batchId = some record ∧ record.status = .committed := by
  have fresh : customerPlan.Unregistered
      (customerPlan.see (newWorld (localDeployment .empty) [])) := ⟨rfl, rfl, rfl⟩
  refine ⟨fresh, ?_⟩
  obtain ⟨count, result, end', record, -, ran, found, status, -⟩ :=
    replay_converges customerPlan (newWorld (localDeployment .empty) []) fresh
      [[], List.replicate 9 { fault := some ⟨true, ⟨.osError, []⟩⟩ }]
      (by
        intro choices member choice inside publication published
        rcases List.mem_cons.mp member with rfl | later
        · cases inside
        · rw [List.mem_singleton.mp later] at inside
          rw [List.eq_of_mem_replicate inside] at published
          cases published)
      (fun _ => {}) (fun _ => ⟨rfl, fun _ published => (by cases published)⟩)
  exact ⟨count, result, end', record, ran, found, status⟩

end Cdc
