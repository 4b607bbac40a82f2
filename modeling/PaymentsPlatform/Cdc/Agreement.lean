import PaymentsPlatform.Cdc.Evidence

/-!
# Agreement of manifest, store and broker

Every operation of the storage layer, of the manifest and of the processor keeps `Sound`,
whatever fails and wherever it stops. The order of the argument is that of the protocol: an
upload that returned holds the content, a row becomes uploaded only with that evidence, an
offset is committed only for a durable row, and a row is marked committed only after that.
-/

namespace Cdc

open Python Effects

section

variable {deployment : Deployment} {fits : CdcBatch → Prop}
  {acks : TopicPartitionKey → Int → World → Prop} {world : World}

/-! ## Storage -/

/-- The store holds content with this digest at the location. -/
def Holds (deployment : Deployment) (world : World) (location : Location) (checksum : PyStr) :
    Prop :=
  ∃ file, world.objects location = some file ∧ deployment.sha.hexdigest file.data = checksum

/-- Content stays. -/
theorem Holds.later {before after : World} {location : Location} {checksum : PyStr}
    (holds : Holds deployment before location checksum) (advances : Advances before after) :
    Holds deployment after location checksum := by
  obtain ⟨file, found, digest⟩ := holds
  obtain ⟨file', found', data, -⟩ := advances.objects location file found
  exact ⟨file', found', by rw [data, digest]⟩

/-- A description of an object states its address and, if any, its digest. -/
theorem describe_spec (sound : Sound deployment fits world) {place : Location × PyStr}
    {file : StoredFile} (found : world.objects place.1 = some file) :
    (describe deployment place file).uri = place.2 ∧
      ((describe deployment place file).checksumSha256 ≠ [] →
        Holds deployment world place.1 (describe deployment place file).checksumSha256) := by
  refine ⟨rfl, fun declared => ⟨file, found, ?_⟩⟩
  unfold describe at declared ⊢
  simp only at declared ⊢
  split
  · rfl
  · rename_i maxAttempts minio
    cases recorded : file.sidecar with
    | none => simp [minio, recorded] at declared
    | some sidecar => exact (sound.honest place.1 file sidecar found recorded).symm

/-- The retries of the MinIO backend. -/
theorem minioRetry_keeps {α : Type} {P : α → World → Prop} {operation : Action α}
    {maxAttempts : Nat} {name : PyStr} {allowNotFound : Bool}
    (each : ∀ start, Later deployment fits world start →
      Keeps deployment fits acks P operation start) :
    Keeps deployment fits acks P (minioRetry maxAttempts name allowNotFound operation)
      world := by
  unfold minioRetry
  generalize maxAttempts - 1 = left
  generalize 1 = attempt
  induction left generalizing world attempt with
  | zero =>
    refine Keeps.recover (each world (Later.refl world)) fun problem end' _ => ?_
    split
    · exact Keeps.raised
    · exact Keeps.raised
  | succ left ih =>
    refine Keeps.recover (each world (Later.refl world)) fun problem end' later => ?_
    split
    · exact Keeps.raised
    · exact ih (fun start since => each start (later.trans since)) _

/-- `stat` reports what is there. -/
theorem stat_keeps (sound : Sound deployment fits world) (place : Location × PyStr) :
    Keeps deployment fits acks (fun answer end' => ∀ stored, answer = some stored →
      stored.uri = place.2 ∧ (stored.checksumSha256 ≠ [] →
        Holds deployment end' place.1 stored.checksumSha256)) (stat deployment place) world := by
  unfold stat
  split
  · refine Keeps.seq (M := fun answer end' => ∀ file, answer = some file
      → end'.objects place.1 = some file) ?_ ?_
    · refine keeps_observe (fun _ _ => rfl) ?_
      intro start choice answer _ outcome file same
      obtain rfl : start.objects place.1 = answer := Except.ok.inj outcome
      exact same
    · intro answer end' later read
      refine Keeps.done ?_
      intro stored same
      obtain ⟨file, present, rfl⟩ := Option.map_eq_some_iff.mp same
      exact describe_spec (later.sound sound) (read file present)
  · refine Keeps.recover ?_ ?_
    · refine Keeps.seq (minioRetry_keeps (P := fun file end'
        => end'.objects place.1 = some file) ?_) ?_
      · intro start _
        refine keeps_observe ?_ ?_
        · intro choice start
          simp only [effect]
          split <;> rfl
        · intro start choice answer _ outcome
          simp only [effect] at outcome
          split at outcome
          · simp at outcome
          · rename_i file found
            obtain rfl : file = answer := Except.ok.inj outcome
            exact found
      · intro file end' later found
        refine Keeps.done ?_
        intro stored same
        obtain rfl := Option.some.inj same
        exact describe_spec (later.sound sound) found
    · intro problem end' _
      split
      · refine Keeps.done ?_
        intro stored absent
        cases absent
      · exact Keeps.raised

/-- The object that must be there. -/
theorem statPresent_keeps (sound : Sound deployment fits world) (place : Location × PyStr)
    (missing : PyStr) :
    Keeps deployment fits acks (fun stored end' => stored.uri = place.2 ∧
      (stored.checksumSha256 ≠ [] → Holds deployment end' place.1 stored.checksumSha256))
      (statPresent deployment place missing) world := by
  refine Keeps.seq (stat_keeps sound place) ?_
  intro answer end' _ read
  cases answer with
  | none => exact Keeps.raised
  | some stored => exact Keeps.done (read stored rfl)

/-- Accepted existing content has the digest. -/
theorem resolveExisting_spec {existing stored : StoredObject} {checksum : PyStr}
    (resolved : resolveExisting existing checksum = .ok stored) :
    existing.checksumSha256 = checksum ∧ existing.checksumSha256 ≠ [] ∧
      stored.uri = existing.uri := by
  unfold resolveExisting at resolved
  split at resolved
  · cases resolved
  · rename_i same
    rw [not_or, not_not] at same
    obtain rfl := Except.ok.inj resolved
    exact ⟨same.2, same.1, rfl⟩

/-- Writing the sidecar of content that has the digest. -/
theorem writeMetadata_keeps (place : Location × PyStr) (sidecar : Sidecar)
    (holds : Holds deployment world place.1 sidecar.checksumSha256) :
    Keeps deployment fits acks (fun _ _ => True) (writeMetadata place sidecar) world := by
  refine Keeps.seq (M := fun _ _ => True)
    (keeps_observe (fun _ _ => rfl) fun _ _ _ _ _ => trivial) ?_
  intro existing end' later _
  split
  · exact Keeps.ofExcept fun _ _ => trivial
  · refine Keeps.recover ?_ ?_
    · refine keeps_perform fun start choice published => ⟨?_, fun _ _ => trivial⟩
      have since : Later deployment fits end' start := published.later
      obtain ⟨file, found, digest⟩ := (holds.later later.advances).later since.advances
      simp only [effect, found]
      split
      · exact ⟨Later.refl start, Or.inl rfl⟩
      · rename_i free
        have advances : Advances start
            (start.setObject place.1 { file with sidecar := some sidecar }) := {
          objects := by
            intro location other present
            by_cases here : location = place.1
            · subst here
              rw [found] at present
              obtain rfl := Option.some.inj present
              refine ⟨_, Function.update_self .., rfl, ?_⟩
              intro record recorded
              simp [recorded] at free
            · exact ⟨other, (Function.update_of_ne here ..).trans present, rfl, fun _ same => same⟩
          rows := fun _ record present => ⟨record, present, RowKept.refl record⟩
          commits := List.suffix_refl _ }
        refine ⟨⟨?_, advances, ⟨rfl, rfl, rfl, rfl⟩⟩, Or.inl rfl⟩
        intro sound
        refine ⟨?_, sound.ranged, fun id record present durable =>
            (sound.durable id record present durable).later advances,
          fun id record present committed =>
            (sound.acknowledged id record present committed).later advances⟩
        intro location other record present recorded
        simp only [World.setObject] at present
        by_cases here : location = place.1
        · subst here
          rw [Function.update_self] at present
          obtain rfl := Option.some.inj present
          obtain rfl := Option.some.inj recorded
          exact digest.symm
        · rw [Function.update_of_ne here] at present
          exact sound.honest location other record present recorded
    · intro problem end'' _
      split
      · refine Keeps.seq (M := fun _ _ => True)
          (keeps_observe (fun _ _ => rfl) fun _ _ _ _ _ => trivial) ?_
        intro again end''' _ _
        split
        · exact Keeps.ofExcept fun _ _ => trivial
        · exact Keeps.raised
      · exact Keeps.raised

/-- Creating an object under a free key. -/
theorem create_processes (start : World) (location : Location) (file : StoredFile)
    (honest : ∀ sidecar, file.sidecar = some sidecar →
      sidecar.checksumSha256 = deployment.sha.hexdigest file.data)
    (free : ¬ (start.objects location).isSome = true) :
    Processes deployment fits acks start (start.setObject location file) := by
  have created := create_published deployment.sha start location file honest
  rw [World.create, if_neg free] at created
  exact created.processes

/-- Whether publishing found the key taken. -/
theorem taken_keeps {kind : ErrorKind} {publish : Action Unit} {H : World → Prop}
    (published : Keeps deployment fits acks (fun _ end' => H end') publish world) :
    Keeps deployment fits acks (fun answer end' => answer = false → H end')
      (taken kind publish) world := by
  refine Keeps.recover (Keeps.seq published fun _ end' _ done => Keeps.done fun _ => done) ?_
  intro problem end' _
  split
  · refine Keeps.done ?_
    intro isFalse
    cases isFalse
  · exact Keeps.raised

/-- A local upload that returned holds the content. -/
theorem putLocal_keeps (sound : Sound deployment fits world) (place : Location × PyStr)
    (sidecar : Sidecar) {data : Bytes}
    (digest : deployment.sha.hexdigest data = sidecar.checksumSha256) :
    Keeps deployment fits acks (fun stored end' => stored.uri = place.2 ∧
      Holds deployment end' place.1 sidecar.checksumSha256)
      (putLocal deployment place data sidecar) world := by
  refine Keeps.seq (stat_keeps sound place) ?_
  intro answer seen later read
  have sound' := later.sound sound
  cases answer with
  | some existing =>
    refine Keeps.seq (M := fun _ end' => Holds deployment end' place.1 sidecar.checksumSha256)
      (Keeps.ofExcept ?_) ?_
    · intro stored resolved
      obtain ⟨same, declared, -⟩ := resolveExisting_spec resolved
      rw [← same]
      exact (read existing rfl).2 declared
    · intro _ checked later' holds
      refine Keeps.seq (writeMetadata_keeps place sidecar holds) ?_
      intro _ written later'' _
      have sound'' := later''.sound (later'.sound sound')
      refine Keeps.seq (statPresent_keeps sound'' place _) ?_
      intro stored end' later''' described
      exact Keeps.done ⟨described.1, (holds.later later''.advances).later later'''.advances⟩
  | none =>
    refine Keeps.seq (taken_keeps (H := fun end' =>
      Holds deployment end' place.1 sidecar.checksumSha256) ?_) ?_
    · refine keeps_perform fun start choice _ => ?_
      simp only [effect]
      split
      · exact ⟨⟨Later.refl start, Or.inl rfl⟩, by simp⟩
      · rename_i free
        refine ⟨create_processes start place.1 _ (by simp) free, ?_⟩
        intro _ _
        exact ⟨_, Function.update_self .., digest⟩
    · intro raced end' later' fresh
      have sound'' := later'.sound sound'
      split
      · refine Keeps.seq (statPresent_keeps sound'' place _) ?_
        intro existing end'' _ described
        refine Keeps.ofExcept ?_
        intro stored resolved
        obtain ⟨same, declared, address⟩ := resolveExisting_spec resolved
        rw [← same, address]
        exact ⟨described.1, described.2 declared⟩
      · rename_i unraced
        have holds := fresh (Bool.eq_false_iff.mpr unraced)
        refine Keeps.seq (writeMetadata_keeps place sidecar holds) ?_
        intro _ written later'' _
        refine Keeps.weaken (statPresent_keeps (later''.sound sound'') place _) ?_
        intro stored end''' later''' described
        exact ⟨described.1, (holds.later later''.advances).later later'''.advances⟩

/-- A MinIO upload that returned holds the content. -/
theorem putMinio_keeps (sound : Sound deployment fits world) (maxAttempts : Nat)
    (place : Location × PyStr) (sidecar : Sidecar) {data : Bytes}
    (digest : deployment.sha.hexdigest data = sidecar.checksumSha256) :
    Keeps deployment fits acks (fun stored end' => stored.uri = place.2 ∧
      Holds deployment end' place.1 sidecar.checksumSha256)
      (putMinio deployment maxAttempts place data sidecar) world := by
  refine Keeps.seq (stat_keeps sound place) ?_
  intro answer seen later read
  have sound' := later.sound sound
  cases answer with
  | some existing =>
    refine Keeps.ofExcept ?_
    intro stored resolved
    obtain ⟨same, declared, address⟩ := resolveExisting_spec resolved
    rw [← same, address]
    exact ⟨(read existing rfl).1, (read existing rfl).2 declared⟩
  | none =>
    refine Keeps.seq (taken_keeps (H := fun end' =>
      Holds deployment end' place.1 sidecar.checksumSha256) (minioRetry_keeps ?_)) ?_
    · intro start _
      refine keeps_perform fun start choice _ => ?_
      simp only [effect]
      split
      · exact ⟨⟨Later.refl start, Or.inl rfl⟩, by simp⟩
      · rename_i free
        refine ⟨create_processes start place.1 _ ?_ free, ?_⟩
        · intro record recorded
          obtain rfl := Option.some.inj recorded
          exact digest.symm
        · intro _ _
          exact ⟨_, Function.update_self .., digest⟩
    · intro raced end' later' fresh
      have sound'' := later'.sound sound'
      split
      · refine Keeps.seq (statPresent_keeps sound'' place _) ?_
        intro existing end'' _ described
        refine Keeps.ofExcept ?_
        intro stored resolved
        obtain ⟨same, declared, address⟩ := resolveExisting_spec resolved
        rw [← same, address]
        exact ⟨described.1, described.2 declared⟩
      · rename_i unraced
        have holds := fresh (Bool.eq_false_iff.mpr unraced)
        refine Keeps.seq (statPresent_keeps sound'' place _) ?_
        intro stored end'' later'' described
        split
        · exact Keeps.raised
        · exact Keeps.done ⟨described.1, holds.later later''.advances⟩

/-- An upload that returned holds the content, on either backend. -/
theorem putContent_keeps (sound : Sound deployment fits world) {bucket key : PyStr}
    {data : Bytes} {checksum contentType : PyStr} {metadata : Metadata}
    (digest : deployment.sha.hexdigest data = checksum) :
    Keeps deployment fits acks (fun stored end' => ∃ place,
      deployment.backend.locate bucket key = .ok place ∧ stored.uri = place.2 ∧
      Holds deployment end' place.1 checksum)
      (putContent deployment bucket key data checksum contentType metadata) world := by
  refine Keeps.seq (M := fun place end' => deployment.backend.locate bucket key = .ok place ∧
    Sound deployment fits end') (Keeps.ofExcept fun place located => ⟨located, sound⟩) ?_
  rintro place end' - ⟨located, sound'⟩
  split
  · exact Keeps.weaken (putLocal_keeps sound' place (sidecarFor checksum contentType metadata)
      digest) fun stored _ _ ends => ⟨place, located, ends.1, ends.2⟩
  · exact Keeps.weaken (putMinio_keeps sound' _ place (sidecarFor checksum contentType metadata)
      digest) fun stored _ _ ends => ⟨place, located, ends.1, ends.2⟩

/-- An upload of a batch that returned holds its serialized content. -/
theorem putBatch_keeps (sound : Sound deployment fits world) (batch : CdcBatch)
    (serialized : SerializedParquet) (group : PyStr) (ingestedAt : Instant) :
    Keeps deployment fits acks (fun stored end' => ∃ place,
      batchPlace deployment batch = .ok place ∧ stored.uri = place.2 ∧
      Holds deployment end' place.1 serialized.checksumSha256)
      (putBatch deployment batch serialized group ingestedAt) world := by
  refine Keeps.seq (M := fun key end' => buildCdcObjectKey batch = .ok key ∧
    Sound deployment fits end') (Keeps.ofExcept fun key built => ⟨built, sound⟩) ?_
  rintro key end' - ⟨built, sound'⟩
  refine Keeps.seq (M := fun stored end' => ∃ place,
      batchPlace deployment batch = .ok place ∧ stored.uri = place.2 ∧
      Holds deployment end' place.1 serialized.checksumSha256) ?_ ?_
  · unfold putImmutable
    split
    · exact Keeps.raised
    · rename_i digest
      refine Keeps.weaken (putContent_keeps sound' (not_not.mp digest)) ?_
      rintro stored end'' - ⟨place, located, address, holds⟩
      refine ⟨place, ?_, address, holds⟩
      unfold batchPlace
      rw [built]
      exact located
  · rintro stored end'' - ⟨place, placed, address, holds⟩
    refine Keeps.seq (M := fun _ end' => Holds deployment end' place.1
      serialized.checksumSha256) (Keeps.ofExcept fun _ _ => holds) ?_
    intro _ end''' _ holds'
    exact Keeps.done ⟨place, placed, address, holds'⟩

/-- The quarantine holds the evidence of a poison record once it was written. -/
theorem writePoison_keeps (sound : Sound deployment fits world) (event : PoisonEvent) :
    Keeps deployment fits acks (fun _ end' => ∃ place, poisonPlace deployment event = .ok place ∧
      Holds deployment end' place.1 (deployment.sha.hexdigest (poisonData deployment event)))
      (writePoison deployment event) world := by
  refine Keeps.seq (M := fun key end' => buildDlqObjectKey deployment.settings.dlqTopic
    deployment.settings.groupId event = .ok key ∧ Sound deployment fits end')
    (Keeps.ofExcept fun key built => ⟨built, sound⟩) ?_
  rintro key end' - ⟨built, sound'⟩
  refine Keeps.weaken (Keeps.retryCall fun start since =>
    putContent_keeps (since.sound sound') rfl) ?_
  rintro stored end'' - ⟨place, located, -, holds⟩
  refine ⟨place, ?_, holds⟩
  unfold poisonPlace
  rw [built]
  exact located

/-- `stat_batch` keeps the world. -/
theorem statBatch_keeps (sound : Sound deployment fits world) (batch : CdcBatch) :
    Keeps deployment fits acks (fun _ _ => True) (statBatch deployment batch) world := by
  refine Keeps.seq (M := fun _ end' => Sound deployment fits end')
    (Keeps.ofExcept fun _ _ => sound) ?_
  intro place end' _ sound'
  exact Keeps.weaken (stat_keeps sound' place) fun _ _ _ _ => trivial

/-- `verify_batch` keeps the world. -/
theorem verifyBatch_keeps (sound : Sound deployment fits world) (batch : CdcBatch)
    (checksum uri : PyStr) :
    Keeps deployment fits acks (fun _ _ => True) (verifyBatch deployment batch checksum uri)
      world := by
  refine Keeps.seq (statBatch_keeps sound batch) ?_
  intro answer end' _ _
  cases answer with
  | none => exact Keeps.raised
  | some stored =>
    simp only
    split
    · exact Keeps.raised
    · exact Keeps.seq (M := fun _ _ => True) (Keeps.ofExcept fun _ _ => trivial)
        fun _ _ _ _ => Keeps.done trivial

/-- The bytes of a serialized batch and their digest. -/
theorem serializeBatch_keeps (batch : CdcBatch) (ingestedAt : Instant) :
    Keeps deployment fits acks (fun serialized _ =>
      deployment.serializeBatch batch ingestedAt = .ok serialized.data ∧
      deployment.sha.hexdigest serialized.data = serialized.checksumSha256)
      (serializeBatch deployment batch ingestedAt) world := by
  refine Keeps.seq (M := fun data _ =>
    deployment.serializeBatch batch ingestedAt = .ok data) ?_ ?_
  · exact keeps_observe (fun _ _ => rfl) fun _ _ _ _ outcome => outcome
  · intro data end' _ written
    exact Keeps.done ⟨written, rfl⟩

/-- Removing the temporary file changes nothing. -/
theorem cleanupSerialized_keeps :
    Keeps deployment fits acks (fun _ _ => True) cleanupSerialized world :=
  keeps_observe (fun _ _ => rfl) fun _ _ _ _ _ => trivial

/-! ## Manifest -/

/-- A change of a row that keeps `Sound`. -/
structure RowUpdate (deployment : Deployment) (fits : CdcBatch → Prop) (world : World)
    (before after : BatchManifestRecord) : Prop where
  /-- The row is kept. -/
  kept : RowKept before after
  /-- A durable status has its object. -/
  durable : after.Durable → HasObject deployment fits world after
  /-- A committed status has been acknowledged. -/
  committed : after.status = .committed → Acknowledged world after

/-- A guarded update of the manifest. -/
theorem update_processes {start : World} {batchId : PyStr} {status : BatchStatus}
    {assignments : List Assignment}
    (legal : ∀ record, start.manifest.get batchId = some record → record.status = status →
      RowUpdate deployment fits start record (assign assignments record)) :
    Processes deployment fits acks start
      { start with manifest := (updateWhere start.manifest batchId status assignments).2 } := by
  generalize updated : updateWhere start.manifest batchId status assignments = result
  obtain ⟨count, manifest⟩ := result
  rcases updateWhere_spec updated with ⟨-, rfl⟩ | ⟨record, found, same, -, rows⟩
  · exact ⟨Later.refl start, Or.inl rfl⟩
  have lawful := legal record found same
  have advances : Advances start { start with manifest } := {
    objects := fun _ file present => ⟨file, present, rfl, fun _ recorded => recorded⟩
    rows := by
      intro other row present
      by_cases here : other = batchId
      · subst here
        rw [found] at present
        obtain rfl := Option.some.inj present
        exact ⟨_, (rows other).trans (if_pos rfl), lawful.kept⟩
      · exact ⟨row, (rows other).trans ((if_neg here).trans present), RowKept.refl row⟩
    commits := List.suffix_refl _ }
  refine ⟨⟨?_, advances, ⟨rfl, rfl, rfl, rfl⟩⟩, Or.inl rfl⟩
  intro sound
  refine ⟨sound.honest, ?_, ?_, ?_⟩
  · intro other row present
    rw [rows other] at present
    split at present
    · obtain rfl := Option.some.inj present
      have place := lawful.kept.coordinates
      simp only [BatchManifestRecord.coordinates, Prod.mk.injEq] at place
      rw [place.2.2.2.2.1]
      exact sound.ranged batchId record found
    · exact sound.ranged other row present
  · intro other row present durable
    rw [rows other] at present
    split at present
    · obtain rfl := Option.some.inj present
      exact (lawful.durable durable).later advances
    · exact (sound.durable other row present durable).later advances
  · intro other row present committed
    rw [rows other] at present
    split at present
    · obtain rfl := Option.some.inj present
      exact (lawful.committed committed).later advances
    · exact (sound.acknowledged other row present committed).later advances

/-- An `UPDATE` whose change is legal wherever the row has the status. -/
theorem updateRow_keeps {batchId : PyStr} {status : BatchStatus} {assignments : List Assignment}
    (legal : ∀ start record, Later deployment fits world start →
      start.manifest.get batchId = some record → record.status = status →
      RowUpdate deployment fits start record (assign assignments record)) :
    Keeps deployment fits acks (fun _ _ => True)
      (perform (.updateRow batchId status assignments)) world := by
  refine keeps_perform fun start choice published => ⟨?_, fun _ _ => trivial⟩
  exact update_processes fun record found same => legal start record published.later found same

/-- Reading a row. -/
theorem selectRow_keeps (batchId : PyStr) :
    Keeps deployment fits acks (fun answer end' => end'.manifest.get batchId = answer)
      (perform (.selectRow batchId)) world :=
  keeps_observe (fun _ _ => rfl) fun _ _ _ _ outcome => Except.ok.inj outcome

/-- `_require` returns the row. -/
theorem requireRow_keeps (batchId : PyStr) :
    Keeps deployment fits acks (fun record end' => end'.manifest.get batchId = some record)
      (requireRow batchId) world := by
  refine Keeps.seq (selectRow_keeps batchId) ?_
  intro answer end' _ read
  cases answer with
  | none => exact Keeps.raised
  | some record => exact Keeps.done read

/-- `_transition` with an update that is legal from every status it is allowed from. -/
theorem transition_keeps {batchId : PyStr} {target : BatchStatus} {updates : List Assignment}
    (legal : ∀ start record, Later deployment fits world start →
      start.manifest.get batchId = some record → record.status.allowed target = true →
      RowUpdate deployment fits start record (assign (.status target :: updates) record)) :
    Keeps deployment fits acks (fun _ _ => True) (transition batchId target updates) world := by
  refine Keeps.seq (requireRow_keeps batchId) ?_
  intro current end' later found
  split
  · rename_i allowed
    refine Keeps.seq (updateRow_keeps ?_) ?_
    · intro start record since present same
      exact legal start record (later.trans since) present (by rw [same]; exact allowed)
    · intro count end'' _ _
      split
      · exact Keeps.weaken (requireRow_keeps batchId) fun _ _ _ _ => trivial
      · exact Keeps.raised
  · exact Keeps.raised

/-- A row leaves a durable status only for `COMMITTED`. -/
theorem allowed_of_durable {status target : BatchStatus} (allowed : status.allowed target = true)
    (durable : status = .uploaded ∨ status = .committed) :
    status = .uploaded ∧ target = .committed := by
  rcases durable with rfl | rfl
  · cases target with
    | committed => exact ⟨rfl, rfl⟩
    | _ => cases allowed
  · cases target with
    | _ => cases allowed

/-- A transition to a status before the upload is legal. -/
theorem pending_update {start : World} {record after : BatchManifestRecord}
    {target : BatchStatus} (allowed : record.status.allowed target = true)
    (identity : after.coordinates = record.coordinates ∧ after.createdAt = record.createdAt)
    (status : after.status = target) (pending : target ≠ .uploaded ∧ target ≠ .committed) :
    RowUpdate deployment fits start record after := by
  have undurable : ¬ record.Durable := fun durable =>
    pending.2 (allowed_of_durable allowed durable).2
  refine ⟨⟨identity.1, identity.2, ?_, ?_, ?_⟩, ?_, ?_⟩
  · exact fun uploaded => absurd (Or.inl uploaded) undurable
  · exact fun committed => absurd (Or.inr committed) undurable
  · exact fun durable => absurd durable undurable
  · rintro (uploaded | committed)
    · exact absurd (status.symm.trans uploaded) pending.1
    · exact absurd (status.symm.trans committed) pending.2
  · exact fun committed => absurd (status.symm.trans committed) pending.2

/-- The part of `assign_identity` a row keeps. -/
theorem assign_kept (assignments : List Assignment) (record : BatchManifestRecord) :
    (assign assignments record).coordinates = record.coordinates ∧
      (assign assignments record).createdAt = record.createdAt :=
  ⟨(assign_identity assignments record).2.1, (assign_identity assignments record).2.2⟩

/-- `mark_serializing`. -/
theorem markSerializing_keeps (batchId : PyStr) :
    Keeps deployment fits acks (fun _ _ => True) (markSerializing batchId) world := by
  refine Keeps.seq (requireRow_keeps batchId) ?_
  intro current end' _ _
  split
  · exact Keeps.done trivial
  · exact transition_keeps fun start record _ _ allowed =>
      pending_update allowed (assign_kept _ _) rfl (by decide)

/-- `mark_uploading`. -/
theorem markUploading_keeps (batchId : PyStr) :
    Keeps deployment fits acks (fun _ _ => True) (markUploading batchId) world := by
  refine Keeps.seq (requireRow_keeps batchId) ?_
  intro current end' _ _
  split
  · exact Keeps.done trivial
  · refine Keeps.seq (M := fun _ _ => True)
      (keeps_observe (fun _ _ => rfl) fun _ _ _ _ _ => trivial) ?_
    intro now end'' _ _
    exact transition_keeps fun start record _ _ allowed =>
      pending_update allowed (assign_kept _ _) rfl (by decide)

/-- A row has the object of another when they share identity, range, group and evidence. -/
theorem HasObject.congr {record other : BatchManifestRecord}
    (object : HasObject deployment fits world record) (identity : other.batchId = record.batchId)
    (place : other.coordinates = record.coordinates)
    (checksum : other.checksumSha256 = record.checksumSha256)
    (uri : other.objectUri = record.objectUri) : HasObject deployment fits world other := by
  obtain ⟨batch, digest, address, fit, same, range, known, known', evidence⟩ := object
  have group : other.consumerGroup = record.consumerGroup := congrArg Prod.fst place
  exact ⟨batch, digest, address, fit, identity.trans same, by rw [place, group, range],
    checksum.trans known, uri.trans known', evidence⟩

/-- `note_retryable_error`. -/
theorem noteRetryableError_keeps (sound : Sound deployment fits world)
    (batchId errorCode errorMessage : PyStr) :
    Keeps deployment fits acks (fun _ _ => True)
      (noteRetryableError batchId errorCode errorMessage) world := by
  refine Keeps.seq (requireRow_keeps batchId) ?_
  intro current end' later _
  refine Keeps.seq (updateRow_keeps ?_) ?_
  · intro start record since found _
    have sound' := since.sound (later.sound sound)
    refine ⟨⟨rfl, rfl, Or.inl, fun same => same, fun _ => ⟨rfl, rfl⟩⟩, ?_, ?_⟩
    · intro durable
      exact (sound'.durable batchId record found durable).congr rfl rfl rfl rfl
    · intro committed
      exact sound'.acknowledged batchId record found committed
  · intro _ end'' _ _
    exact Keeps.weaken (requireRow_keeps batchId) fun _ _ _ _ => trivial

/-- `mark_failed`. -/
theorem markFailed_keeps (sound : Sound deployment fits world)
    (batchId errorCode errorMessage : PyStr) :
    Keeps deployment fits acks (fun _ _ => True) (markFailed batchId errorCode errorMessage)
      world := by
  refine Keeps.seq (requireRow_keeps batchId) ?_
  intro current end' later _
  split
  · exact Keeps.raised
  split
  · exact noteRetryableError_keeps (later.sound sound) batchId errorCode errorMessage
  · exact transition_keeps fun start record _ _ allowed =>
      pending_update allowed (assign_kept _ _) rfl (by decide)

/-- The row of a batch is registered. -/
def Registered (deployment : Deployment) (world : World) (batch : CdcBatch) : Prop :=
  ∃ record, world.manifest.get batch.batchId = some record ∧
    record.coordinates = batch.coordinates deployment.settings.groupId

/-- A registered row stays. -/
theorem Registered.later {before after : World} {batch : CdcBatch}
    (registered : Registered deployment before batch) (advances : Advances before after) :
    Registered deployment after batch := by
  obtain ⟨record, found, place⟩ := registered
  obtain ⟨record', found', kept⟩ := advances.rows batch.batchId record found
  exact ⟨record', found', kept.coordinates.trans place⟩

/-- `mark_uploaded` with the object in the store. -/
theorem markUploaded_keeps {batch : CdcBatch} {checksum uri : PyStr} (fit : fits batch)
    (registered : Registered deployment world batch)
    (evidence : ObjectEvidence deployment world batch checksum uri) :
    Keeps deployment fits acks (fun _ _ => True) (markUploaded batch.batchId checksum uri)
      world := by
  unfold markUploaded
  split
  · exact Keeps.raised
  refine Keeps.seq (requireRow_keeps batch.batchId) ?_
  intro current end' later _
  split
  · split
    · exact Keeps.raised
    · exact Keeps.done trivial
  refine Keeps.seq (M := fun _ _ => True)
    (keeps_observe (fun _ _ => rfl) fun _ _ _ _ _ => trivial) ?_
  intro now end'' later' _
  refine transition_keeps fun start record later'' found allowed => ?_
  have since := (later.trans later').trans later''
  obtain ⟨row, present, place⟩ := registered.later since.advances
  rw [found] at present
  obtain rfl := Option.some.inj present
  have identity : record.batchId = batch.batchId := Relational.Table.key_of_get found
  have undurable : ¬ record.Durable := fun durable =>
    absurd (allowed_of_durable allowed durable).2 (by decide)
  obtain ⟨sameId, sameRange, sameCreated⟩ := assign_identity
    [.status .uploaded, .checksumSha256 checksum, .objectUri uri, .uploadedAt now,
      .errorCode none, .errorMessage none] record
  refine ⟨⟨sameRange, sameCreated, ?_, ?_, ?_⟩, ?_, ?_⟩
  · exact fun uploaded => absurd (Or.inl uploaded) undurable
  · exact fun committed => absurd (Or.inr committed) undurable
  · exact fun durable => absurd durable undurable
  · intro _
    have group : record.consumerGroup = deployment.settings.groupId := congrArg Prod.fst place
    have group' := congrArg Prod.fst sameRange
    refine ⟨batch, checksum, uri, fit, sameId.trans identity, ?_, rfl, rfl,
      evidence.later since.advances⟩
    rw [sameRange, place, ← group]
    exact congrArg batch.coordinates group'.symm
  · intro committed
    cases committed

/-- `mark_committed` of a range the broker has acknowledged. -/
theorem markCommitted_keeps {batchId : PyStr} (sound : Sound deployment fits world)
    (acknowledged : ∀ start record, Later deployment fits world start →
      start.manifest.get batchId = some record → Acknowledged start record) :
    Keeps deployment fits acks (fun _ _ => True) (markCommitted batchId) world := by
  refine Keeps.seq (requireRow_keeps batchId) ?_
  intro current end' later _
  split
  · exact Keeps.done trivial
  refine Keeps.seq (M := fun _ _ => True)
    (keeps_observe (fun _ _ => rfl) fun _ _ _ _ _ => trivial) ?_
  intro now end'' later' _
  refine transition_keeps fun start record later'' found allowed => ?_
  have since := (later.trans later').trans later''
  have uploaded : record.status = .uploaded := by
    cases status : record.status with
    | uploaded => rfl
    | _ =>
      rw [status] at allowed
      cases allowed
  refine ⟨⟨rfl, rfl, fun _ => Or.inr rfl, fun _ => rfl, fun _ => ⟨rfl, rfl⟩⟩, ?_, ?_⟩
  · intro _
    exact ((since.sound sound).durable batchId record found (Or.inl uploaded)).congr
      rfl rfl rfl rfl
  · intro _
    exact acknowledged start record since found

/-! ## Processing -/

/-- The row of a batch is durable. -/
def DurableRow (deployment : Deployment) (world : World) (batch : CdcBatch) : Prop :=
  ∃ record, world.manifest.get batch.batchId = some record ∧
    record.coordinates = batch.coordinates deployment.settings.groupId ∧ record.Durable

/-- A durable row stays durable. -/
theorem DurableRow.later {before after : World} {batch : CdcBatch}
    (durable : DurableRow deployment before batch) (advances : Advances before after) :
    DurableRow deployment after batch := by
  obtain ⟨record, found, place, status⟩ := durable
  obtain ⟨record', found', kept⟩ := advances.rows batch.batchId record found
  exact ⟨record', found', kept.coordinates.trans place, kept.durable status⟩

/-- Registration leaves the row of the batch. -/
theorem registerBatch_keeps (batch : CdcBatch) :
    Keeps deployment fits acks (fun record end'
      => end'.manifest.get batch.batchId = some record ∧
      record.coordinates = batch.coordinates deployment.settings.groupId)
      (registerBatch deployment batch) world := by
  refine Keeps.seq (M := fun _ _ => True)
    (keeps_observe (fun _ _ => rfl) fun _ _ _ _ _ => trivial) ?_
  intro now end' _ _
  refine keeps_perform fun start choice published => ?_
  obtain ⟨stays, comes, returns⟩ :=
    register_spec start.manifest batch deployment.settings.groupId now
  refine ⟨⟨?_, Or.inl rfl⟩, fun record outcome => returns record outcome⟩
  have advances : Advances start { start with
      manifest := (register start.manifest batch deployment.settings.groupId now).2 } := {
    objects := fun _ file present => ⟨file, present, rfl, fun _ recorded => recorded⟩
    rows := fun batchId record found =>
      ⟨record, stays batchId record found, RowKept.refl record⟩
    commits := List.suffix_refl _ }
  refine ⟨?_, advances, ⟨rfl, rfl, rfl, rfl⟩⟩
  intro sound
  refine ⟨sound.honest, ?_, ?_, ?_⟩
  · intro batchId record found
    rcases comes batchId record found with old | ⟨rfl, -, low, order, -⟩
    · exact sound.ranged batchId record old
    · exact Int.le_trans low order
  · intro batchId record found durable
    rcases comes batchId record found with old | ⟨rfl, -⟩
    · exact (sound.durable batchId record old durable).later advances
    · rcases durable with collecting | collecting <;> cases collecting
  · intro batchId record found committed
    rcases comes batchId record found with old | ⟨rfl, -⟩
    · exact (sound.acknowledged batchId record old committed).later advances
    · cases committed

/-- The committed offset of a batch is on the broker. -/
def CommitRecorded (world : World) (batch : CdcBatch) : Prop :=
  (batch.topicPartition, batch.nextOffset) ∈ world.commits

/-- Adding a commit. -/
theorem commit_later (start : World) (key : TopicPartitionKey) (next : Int) :
    Later deployment fits start { start with commits := (key, next) :: start.commits } := by
  have advances : Advances start { start with commits := (key, next) :: start.commits } := {
    objects := fun _ file present => ⟨file, present, rfl, fun _ recorded => recorded⟩
    rows := fun _ record found => ⟨record, found, RowKept.refl record⟩
    commits := List.suffix_cons _ _ }
  refine ⟨?_, advances, ⟨rfl, rfl, rfl, rfl⟩⟩
  intro sound
  exact ⟨sound.honest, sound.ranged,
    fun id record found durable => (sound.durable id record found durable).later advances,
    fun id record found committed =>
      (sound.acknowledged id record found committed).later advances⟩

/-- Committing an offset that may be committed in every later world. -/
theorem commitNext_keeps {key : TopicPartitionKey} {next : Int}
    (allowed : ∀ end', Later deployment fits world end' → acks key next end') :
    Keeps deployment fits acks (fun _ end' => (key, next) ∈ end'.commits) (commitNext key next)
      world := by
  refine Keeps.recover ?_ ?_
  · refine keeps_perform fun start choice published => ⟨?_, fun _ _ => List.mem_cons_self ..⟩
    have later : Later deployment fits start { start with
        commits := (key, next) :: start.commits } := commit_later start key next
    exact ⟨later, Or.inr ⟨_, _, rfl, allowed _ (published.later.trans later)⟩⟩
  · intro problem end' _
    split
    · exact Keeps.raised
    · exact Keeps.raised

/-- Committing the offset behind a durable batch. -/
theorem commitBatch_keeps {batch : CdcBatch} (sound : Sound deployment fits world)
    (durable : DurableRow deployment world batch)
    (allowed : ∀ end', Later deployment fits world end' → Sound deployment fits end' →
      DurableRow deployment end' batch → acks batch.topicPartition batch.nextOffset end') :
    Keeps deployment fits acks (fun _ end' => CommitRecorded end' batch)
      (commitBatch deployment batch) world := by
  refine Keeps.retryCall fun start since => commitNext_keeps fun end' later => ?_
  have whole := since.trans later
  exact allowed end' whole (whole.sound sound) (durable.later whole.advances)

/-- Marking the row of a batch after its commit. -/
theorem markCommitted_batch {batch : CdcBatch} (sound : Sound deployment fits world)
    (registered : Registered deployment world batch) (recorded : CommitRecorded world batch) :
    Keeps deployment fits acks (fun _ _ => True) (markCommitted batch.batchId) world := by
  refine markCommitted_keeps sound fun start record later found => ?_
  obtain ⟨row, present, place⟩ := registered.later later.advances
  rw [found] at present
  obtain rfl := Option.some.inj present
  simp only [BatchManifestRecord.coordinates, CdcBatch.coordinates, Prod.mk.injEq] at place
  obtain ⟨-, topic, partition, -, offsetEnd, -, -⟩ := place
  refine ⟨batch.nextOffset, ?_, ?_⟩
  · have same : record.topicPartition = batch.topicPartition := by
      simp only [BatchManifestRecord.topicPartition, CdcBatch.topicPartition, topic, partition]
    rw [same]
    exact later.advances.commits.subset recorded
  · rw [offsetEnd]
    exact Int.le_refl _

/-- The failure handler. -/
theorem uploadFailed_keeps {α : Type} {post : α → World → Prop} {batch : CdcBatch}
    (sound : Sound deployment fits world) (error : PyError) :
    Keeps deployment fits acks post (uploadFailed batch error) world := by
  refine Keeps.seq (selectRow_keeps batch.batchId) ?_
  intro answer end' later _
  cases answer with
  | none => exact Keeps.raised
  | some current =>
    simp only
    split
    · exact Keeps.raised
    · refine Keeps.seq (markFailed_keeps (later.sound sound) _ _ _) ?_
      intro _ end'' _ _
      exact Keeps.raised

/-- The part of the upload before the temporary file exists. -/
theorem prepare_keeps {batch : CdcBatch} (sound : Sound deployment fits world) :
    Keeps deployment fits acks (fun prepared _ =>
      deployment.serializeBatch batch prepared.2 = .ok prepared.1.data ∧
      deployment.sha.hexdigest prepared.1.data = prepared.1.checksumSha256)
      (prepare deployment batch) world := by
  refine Keeps.seq (Keeps.retryCall fun _ _ => markSerializing_keeps batch.batchId) ?_
  intro _ marked later _
  refine Keeps.seq (selectRow_keeps batch.batchId) ?_
  intro answer read later' _
  cases answer with
  | none => exact Keeps.raised
  | some stable =>
    have sound' := later'.sound (later.sound sound)
    refine Keeps.seq (Keeps.retryCall fun start since =>
      statBatch_keeps (since.sound sound') batch) ?_
    intro existing seen _ _
    refine Keeps.seq (M := fun _ _ => True) (Keeps.ofExcept fun _ _ => trivial) ?_
    intro ingestedAt chosen _ _
    refine Keeps.seq (serializeBatch_keeps batch ingestedAt) ?_
    intro serialized end' _ written
    exact Keeps.done written

/-- An upload, with its evidence. -/
theorem uploadSerialized_keeps {batch : CdcBatch} {serialized : SerializedParquet}
    {ingestedAt : Instant} (sound : Sound deployment fits world)
    (written : deployment.serializeBatch batch ingestedAt = .ok serialized.data ∧
      deployment.sha.hexdigest serialized.data = serialized.checksumSha256) :
    Keeps deployment fits acks (fun uploaded end' =>
      ObjectEvidence deployment end' batch uploaded.1.checksumSha256 uploaded.2.uri)
      (uploadSerialized deployment batch serialized ingestedAt) world := by
  refine Keeps.seq (Keeps.retryCall fun start since =>
    putBatch_keeps (since.sound sound) batch serialized deployment.settings.groupId ingestedAt) ?_
  rintro stored end' - ⟨place, placed, address, file, found, digest⟩
  exact Keeps.done ⟨ingestedAt, serialized.data, place, file, written.1, placed, written.2,
    address.symm, found, digest⟩

/-- The rebuild after a collision. -/
theorem rebuild_keeps {batch : CdcBatch} (sound : Sound deployment fits world)
    (collision : PyError) :
    Keeps deployment fits acks (fun uploaded end' =>
      ObjectEvidence deployment end' batch uploaded.1.checksumSha256 uploaded.2.uri)
      (rebuild deployment batch collision) world := by
  refine Keeps.seq (statBatch_keeps sound batch) ?_
  intro winner seen later _
  split
  · exact Keeps.raised
  · refine Keeps.seq (M := fun _ _ => True) (Keeps.ofExcept fun _ _ => trivial) ?_
    intro ingestedAt read later' _
    refine Keeps.seq cleanupSerialized_keeps ?_
    intro _ cleaned later'' _
    refine Keeps.seq (serializeBatch_keeps batch ingestedAt) ?_
    intro serialized end' ready written
    have since := (later.trans later').trans (later''.trans ready)
    exact uploadSerialized_keeps (since.sound sound) written

/-- The upload of a prepared batch. -/
theorem upload_keeps {batch : CdcBatch} {serialized : SerializedParquet} {ingestedAt : Instant}
    (sound : Sound deployment fits world) (fit : fits batch)
    (registered : Registered deployment world batch)
    (written : deployment.serializeBatch batch ingestedAt = .ok serialized.data ∧
      deployment.sha.hexdigest serialized.data = serialized.checksumSha256) :
    Keeps deployment fits acks (fun _ _ => True) (upload deployment batch serialized ingestedAt)
      world := by
  refine Keeps.seq (Keeps.retryCall fun _ _ => markUploading_keeps batch.batchId) ?_
  intro _ marked later _
  have sound' := later.sound sound
  refine Keeps.seq (Keeps.recover (uploadSerialized_keeps sound' written) ?_) ?_
  · intro problem failed later'
    split
    · exact rebuild_keeps (later'.sound sound') problem
    · exact Keeps.raised
  · intro uploaded stored later' evidence
    refine Keeps.seq (Keeps.retryCall fun start since => markUploaded_keeps fit
      (registered.later ((later.trans later').trans since).advances)
      (evidence.later since.advances)) ?_
    intro _ end' _ _
    exact Keeps.done trivial

/-- The upload of a batch. -/
theorem publishBatch_keeps {batch : CdcBatch} (sound : Sound deployment fits world)
    (fit : fits batch) (registered : Registered deployment world batch) :
    Keeps deployment fits acks (fun _ _ => True) (publishBatch deployment batch) world := by
  refine Keeps.seq (Keeps.recover (prepare_keeps sound) fun problem end' later =>
    uploadFailed_keeps (later.sound sound) problem) ?_
  intro prepared ready later written
  have sound' := later.sound sound
  refine Meets.ensure (Meets.mono (Keeps.recover
    (upload_keeps sound' fit (registered.later later.advances) written)
    fun problem end' later' => uploadFailed_keeps (later'.sound sound') problem) ?_ ?_)
  · intro _ end' _
    exact cleanupSerialized_keeps
  · intro _ end' _
    exact cleanupSerialized_keeps

/-- The end of a first upload. -/
theorem finish_keeps {batch : CdcBatch} (sound : Sound deployment fits world)
    (registered : Registered deployment world batch)
    (allowed : ∀ end', Later deployment fits world end' → Sound deployment fits end' →
      DurableRow deployment end' batch → acks batch.topicPartition batch.nextOffset end') :
    Keeps deployment fits acks (fun _ end' => DurableRow deployment end' batch ∧
      CommitRecorded end' batch) (finish deployment batch) world := by
  refine Keeps.seq (selectRow_keeps batch.batchId) ?_
  intro answer read later found
  cases answer with
  | none => exact Keeps.raised
  | some uploaded =>
    simp only
    split
    · rename_i uri checksum status _ _
      have sound' := later.sound sound
      have registered' := registered.later later.advances
      have durable : DurableRow deployment read batch := by
        obtain ⟨row, present, place⟩ := registered'
        rw [found] at present
        obtain rfl := Option.some.inj present
        exact ⟨uploaded, found, place, Or.inl status⟩
      refine Keeps.seq (Keeps.recover (commitBatch_keeps sound' durable
        fun end' since => allowed end' (later.trans since)) ?_) ?_
      · intro problem failed later'
        refine Keeps.seq (noteRetryableError_keeps (later'.sound sound') _ _ _) ?_
        intro _ end' _ _
        exact Keeps.raised
      · intro _ committed later' recorded
        refine Keeps.seq (M := fun _ _ => True) (Keeps.retryCall fun start since =>
          markCommitted_batch (since.sound (later'.sound sound'))
            (registered'.later (later'.trans since).advances)
            (since.advances.commits.subset recorded)) ?_
        intro _ end' later'' _
        exact Keeps.done ⟨durable.later (later'.trans later'').advances,
          later''.advances.commits.subset recorded⟩
    · exact Keeps.raised

/-- A batch that is already durable. -/
theorem replay_keeps {batch : CdcBatch} {record : BatchManifestRecord}
    (sound : Sound deployment fits world) (durable : DurableRow deployment world batch)
    (allowed : ∀ end', Later deployment fits world end' → Sound deployment fits end' →
      DurableRow deployment end' batch → acks batch.topicPartition batch.nextOffset end') :
    Keeps deployment fits acks (fun _ end' => DurableRow deployment end' batch ∧
      CommitRecorded end' batch) (replay deployment batch record) world := by
  unfold replay
  split
  · rename_i checksum uri _ _
    refine Keeps.seq (Keeps.retryCall fun start since =>
      verifyBatch_keeps (since.sound sound) batch checksum uri) ?_
    intro _ verified later _
    have sound' := later.sound sound
    have durable' := durable.later later.advances
    refine Keeps.seq (commitBatch_keeps sound' durable'
      fun end' since => allowed end' (later.trans since)) ?_
    intro _ committed later' recorded
    have ends := durable'.later later'.advances
    split
    · obtain ⟨row, found, place, -⟩ := ends
      refine Keeps.seq (markCommitted_batch (later'.sound sound') ⟨row, found, place⟩ recorded) ?_
      intro _ end' later'' _
      exact Keeps.done ⟨durable'.later (later'.trans later'').advances,
        later''.advances.commits.subset recorded⟩
    · exact Keeps.done ⟨ends, recorded⟩
  · exact Keeps.raised

/-- Every run of `process` keeps the agreement, commits only when allowed, and returns with a
durable row and its offset committed. -/
theorem process_keeps {batch : CdcBatch} (sound : Sound deployment fits world) (fit : fits batch)
    (allowed : ∀ end', Later deployment fits world end' → Sound deployment fits end' →
      DurableRow deployment end' batch → acks batch.topicPartition batch.nextOffset end') :
    Keeps deployment fits acks (fun _ end' => DurableRow deployment end' batch ∧
      CommitRecorded end' batch) (process deployment batch) world := by
  refine Keeps.seq (Keeps.retryCall fun _ _ => registerBatch_keeps batch) ?_
  rintro record registered later ⟨found, place⟩
  have sound' := later.sound sound
  split
  · rename_i durable
    exact replay_keeps sound' ⟨record, found, place, durable⟩
      fun end' since => allowed end' (later.trans since)
  · refine Keeps.seq (publishBatch_keeps sound' fit ⟨record, found, place⟩) ?_
    intro _ published later' _
    exact finish_keeps (later'.sound sound') (Registered.later ⟨record, found, place⟩
      later'.advances) fun end' since => allowed end' ((later.trans later').trans since)

/-! ## Repair -/

/-- The row repair read, as it is now. -/
def RowStays (world : World) (record : BatchManifestRecord) : Prop :=
  ∃ row, world.manifest.get record.batchId = some row ∧ row.coordinates = record.coordinates

/-- A row that was read stays. -/
theorem RowStays.later {before after : World} {record : BatchManifestRecord}
    (stays : RowStays before record) (advances : Advances before after) :
    RowStays after record := by
  obtain ⟨row, found, place⟩ := stays
  obtain ⟨row', found', kept⟩ := advances.rows record.batchId row found
  exact ⟨row', found', kept.coordinates.trans place⟩

/-- The rows repair promotes have been acknowledged: their offsets were read from the broker. -/
theorem reconcileRows_keeps (sound : Sound deployment fits world)
    {offsets : List (TopicPartitionKey × Int)} (held : ∀ entry ∈ offsets, entry ∈ world.commits)
    (records : List BatchManifestRecord) (repaired : Nat)
    (stay : ∀ record ∈ records, RowStays world record) :
    Keeps deployment fits acks (fun _ _ => True) (reconcileRows offsets records repaired)
      world := by
  induction records generalizing world repaired with
  | nil => exact Keeps.done trivial
  | cons record records ih =>
    have rest : ∀ end', Later deployment fits world end' → ∀ next,
        Keeps deployment fits acks (fun _ _ => True)
          (reconcileRows offsets records next) end' := by
      intro end' later next
      exact ih (later.sound sound)
        (fun entry member => later.advances.commits.subset (held entry member)) next
        fun other member => (stay other (List.mem_cons_of_mem _ member)).later later.advances
    unfold reconcileRows
    split
    · rename_i due
      refine Keeps.seq (markCommitted_keeps sound ?_) fun _ end' later _ => rest end' later _
      intro start row later found
      obtain ⟨row', found', place⟩ :=
        (stay record (List.mem_cons_self ..)).later later.advances
      rw [found] at found'
      obtain rfl := Option.some.inj found'
      have bound := (later.sound sound).ranged record.batchId row found
      simp only [BatchManifestRecord.coordinates, Prod.mk.injEq] at place
      obtain ⟨-, topic, partition, -, offsetEnd, -, -⟩ := place
      have same : row.topicPartition = record.topicPartition := by
        simp only [BatchManifestRecord.topicPartition, topic, partition]
      unfold offsetOf at due
      cases seen : offsets.find? fun entry => entry.1 = record.topicPartition with
      | none =>
        rw [seen] at due
        simp only [Option.map_none, Option.getD_none] at due
        omega
      | some entry =>
        rw [seen] at due
        simp only [Option.map_some, Option.getD_some] at due
        have key : entry.1 = record.topicPartition := by simpa using List.find?_some seen
        refine ⟨entry.2, ?_, ?_⟩
        · rw [same, ← key]
          exact later.advances.commits.subset (held entry (List.mem_of_find?_eq_some seen))
        · rw [offsetEnd]
          exact due.2
    · exact rest world (Later.refl world) repaired

/-- Repair with offsets the broker has held. -/
theorem reconcileCommittedOffsets_keeps (sound : Sound deployment fits world)
    {offsets : List (TopicPartitionKey × Int)} (held : ∀ entry ∈ offsets, entry ∈ world.commits) :
    Keeps deployment fits acks (fun _ _ => True) (reconcileCommittedOffsets deployment offsets)
      world := by
  refine Keeps.seq (M := fun (records : List BatchManifestRecord) end' =>
    ∀ record ∈ records, RowStays end' record) ?_ ?_
  · refine keeps_observe (fun _ _ => rfl) ?_
    intro start choice records _ outcome record member
    obtain rfl : recoverable start.manifest deployment.settings.groupId = records :=
      Except.ok.inj outcome
    exact ⟨record, get_of_recoverable member, rfl⟩
  · intro records end' later stay
    exact reconcileRows_keeps (later.sound sound)
      (fun entry member => later.advances.commits.subset (held entry member)) records 0 stay

/-- A committed offset the broker reports is a commit it accepted. -/
theorem committed_mem {key : TopicPartitionKey} {next : Int}
    (committed : world.committed key = some next) : (key, next) ∈ world.commits := by
  unfold World.committed at committed
  obtain ⟨entry, found, rfl⟩ := Option.map_eq_some_iff.mp committed
  have same : entry.1 = key := by simpa using List.find?_some found
  rw [← same]
  exact List.mem_of_find?_eq_some found

/-- Repair on assignment. -/
theorem reconcileAssigned_keeps (sound : Sound deployment fits world)
    (keys : List TopicPartitionKey) :
    Keeps deployment fits acks (fun _ _ => True) (reconcileAssigned deployment keys) world := by
  refine Keeps.seq (M := fun (answer : List (TopicPartitionKey × Int)) end' =>
    ∀ entry ∈ answer, 0 ≤ entry.2 → entry ∈ end'.commits) (Keeps.recover ?_ ?_) ?_
  · refine keeps_observe (fun _ _ => rfl) ?_
    intro start choice answer _ outcome entry member bound
    obtain rfl : keys.map (fun key => (key, (start.committed key).getD offsetInvalid)) = answer :=
      Except.ok.inj outcome
    obtain ⟨key, -, rfl⟩ := List.mem_map.mp member
    cases committed : start.committed key with
    | none =>
      rw [committed] at bound
      exact absurd bound (show ¬ (0 : Int) ≤ offsetInvalid by decide)
    | some next => exact committed_mem committed
  · intro problem end' _
    split
    · exact Keeps.raised
    · exact Keeps.raised
  · intro answer end' later held
    refine Keeps.seq (reconcileCommittedOffsets_keeps (later.sound sound) ?_) ?_
    · intro entry member
      rw [List.mem_filter] at member
      exact held entry member.1 (by simpa using member.2)
    · intro _ end'' _ _
      exact Keeps.done trivial

end

end Cdc
