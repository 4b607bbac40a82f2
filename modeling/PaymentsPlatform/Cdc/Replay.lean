import PaymentsPlatform.Cdc.Track

/-!
# Replay after a crash

Every operation of an attempt keeps the track and, as long as nothing fails, takes the row one
stage further. So the next attempt rebuilds the same bytes, and one attempt without failures
completes the protocol, whatever the attempts before it left behind.
-/

namespace Cdc

open Python Effects

section

variable {deployment : Deployment} {batch : CdcBatch}

namespace Replayable

variable {plan : Replayable deployment batch} {faulty : Prop} {G : View → View → Prop}
  {world : World}

/-! ## Storage -/

/-- What an upload reports of the copy. -/
structure Good (plan : Replayable deployment batch) (created : Instant) (stored : StoredObject) :
    Prop where
  /-- The address. -/
  uri : stored.uri = plan.place.2
  /-- The checksum. -/
  checksum : stored.checksumSha256 = plan.checksum created
  /-- The size. -/
  size : stored.sizeBytes = (plan.bytes created).length

/-- A copy is described as the upload expects it. -/
theorem describe_copy {created : Instant} {file : StoredFile} (copy : plan.Copy created file) :
    plan.Good created (describe deployment plan.place file) := by
  refine ⟨rfl, ?_, by simp only [describe, copy.data]⟩
  unfold describe
  simp only
  split
  · rw [copy.data]
    rfl
  · rename_i maxAttempts minio
    obtain ⟨sidecar, recorded⟩ := Option.ne_none_iff_exists'.mp (copy.whole maxAttempts minio)
    rw [recorded]
    exact (copy.recorded sidecar recorded).1

/-- A checksum is not empty. -/
theorem checksum_ne_nil (created : Instant) : plan.checksum created ≠ [] := by
  intro empty
  have length := deployment.sha.hexdigest_length (plan.bytes created)
  unfold checksum at empty
  rw [empty] at length
  cases length

/-- The same content is accepted. -/
theorem resolveExisting_good {created : Instant} {stored : StoredObject}
    (good : plan.Good created stored) :
    ∃ resolved, resolveExisting stored (plan.checksum created) = .ok resolved ∧
      plan.Good created resolved := by
  refine ⟨{ stored with alreadyExists := true }, ?_, ⟨good.uri, good.checksum, good.size⟩⟩
  unfold resolveExisting
  rw [if_neg]
  rw [not_or, not_not, good.checksum]
  exact ⟨checksum_ne_nil created, rfl⟩

/-- The retries of the MinIO backend: an exception the backend turns into one of `raises` is
not retried, and every other one needs a failure. -/
theorem minioRetry_ends [IsPreorder View G] {α : Type} {P : α → View → Prop} {operation : Action α}
    {maxAttempts : Nat} {name : PyStr} {allowNotFound : Bool} {R : View → Prop}
    {raises E : PyError → View → Prop}
    (stays : ∀ before after, G before after → R before → R after)
    (each : ∀ start, R (plan.see start) →
      plan.Ends faulty G P E operation start)
    (classified : ∀ problem view last attempt, E problem view →
      ∃ final, classifyS3 name allowNotFound last attempt problem = some final ∧
        raises final view)
    (start : R (plan.see world)) :
    plan.Ends faulty G P raises (minioRetry maxAttempts name allowNotFound operation)
      world := by
  unfold minioRetry
  generalize maxAttempts - 1 = left
  generalize 1 = attempt
  induction left generalizing world attempt with
  | zero =>
    refine Ends.recover (each world start) ?_
    rintro problem end' - (needs | known)
    · split
      · exact Ends.failed needs
      · exact Ends.failed needs
    · obtain ⟨final, same, named⟩ := classified problem (plan.see end') true attempt known
      rw [same]
      exact Or.inr named
  | succ left ih =>
    refine Ends.recover (each world start) ?_
    rintro problem end' later (needs | known)
    · split
      · exact Ends.failed needs
      · exact ih (stays _ _ later start) (attempt + 1)
    · obtain ⟨final, same, named⟩ := classified problem (plan.see end') false attempt known
      rw [same]
      exact Or.inr named

/-- `stat` reports the object that is there; it misses one only after a failure. -/
theorem stat_ends :
    plan.Ends faulty Eq (fun answer view =>
      (∀ stored, answer = some stored → ∃ file, view.file = some file ∧
        stored = describe deployment plan.place file) ∧
      (answer = none → view.file = none ∨ faulty)) never (stat deployment plan.place) world := by
  unfold stat
  split
  · refine Ends.seq (M := fun answer view => view.file = answer) ?_ ?_
    · refine ends_observe (.readFile plan.place.1) (fun _ _ => rfl) ?_
      intro start choice seen
      exact ⟨_, rfl, by rw [← seen]; rfl⟩
    · intro answer end' _ read
      refine Ends.done ⟨?_, ?_⟩
      · intro stored same
        obtain ⟨file, present, rfl⟩ := Option.map_eq_some_iff.mp same
        exact ⟨file, read.trans present, rfl⟩
      · intro absent
        exact Or.inl (read.trans (Option.map_eq_none_iff.mp absent))
  · rename_i maxAttempts minio
    refine Ends.recover (E := fun problem view =>
      problem.kind = .objectNotFound ∧ view.file = none) ?_ ?_
    · refine Ends.seq (minioRetry_ends (P := fun file view =>
        view.file = some file) (R := fun view => view = plan.see world)
        (E := fun problem view => problem.kind = .s3Error "NoSuchKey" ∧ view.file = none)
        (fun before after same set => same ▸ set) ?_ ?_ rfl) ?_
      · intro start _
        refine ends_perform (.statObject plan.place.1) fun begin choice seen => ?_
        simp only [effect]
        split
        · rename_i absent
          refine ⟨seen.symm, fun _ outcome => (by cases outcome), ?_⟩
          intro problem outcome
          obtain rfl := Except.error.inj outcome
          exact ⟨rfl, absent⟩
        · rename_i file present
          refine ⟨seen.symm, ?_, fun _ outcome => (by cases outcome)⟩
          intro answer outcome
          obtain rfl : file = answer := Except.ok.inj outcome
          exact present
      · rintro problem view last attempt ⟨kind, absent⟩
        refine ⟨⟨.objectNotFound, []⟩, ?_, rfl, absent⟩
        unfold classifyS3
        rw [kind]
        simp only
        rw [if_pos ⟨trivial, by decide⟩]
      · intro file end' _ found
        refine Ends.done ⟨?_, fun absent => (by cases absent)⟩
        intro stored same
        exact ⟨file, found, (Option.some.inj same).symm⟩
    · rintro problem end' - ended
      split
      · refine Ends.done ⟨fun _ absent => (by cases absent), fun _ => ?_⟩
        rcases ended with needs | ⟨-, absent⟩
        · exact Or.inr needs
        · exact Or.inl absent
      · rename_i other
        rcases ended with needs | ⟨kind, -⟩
        · exact Ends.failed needs
        · exact absurd kind other

/-- The same under a wider G, with the view that stayed. -/
theorem stat_ends_within [IsPreorder View G] :
    plan.Ends faulty G (fun answer view => view = plan.see world ∧
      (∀ stored, answer = some stored → ∃ file, view.file = some file ∧
        stored = describe deployment plan.place file) ∧
      (answer = none → view.file = none ∨ faulty)) never (stat deployment plan.place) world :=
  (stat_ends.weaken (fun _ _ same ends => ⟨same.symm, ends⟩)
    fun _ _ _ ended => ended).widen fun before _ same => same ▸ Std.Refl.refl before

/-- An object that is there is reported. -/
theorem statPresent_ends [IsPreorder View G] {created : Instant}
    (track : plan.OnTrack created (plan.see world))
    (present : (plan.see world).file ≠ none ∨ faulty) (missing : PyStr) :
    plan.Ends faulty G (fun stored view => view = plan.see world ∧ view.file ≠ none ∧
      plan.Good created stored) never (statPresent deployment plan.place missing) world := by
  refine Ends.seq stat_ends_within ?_
  rintro answer end' - ⟨same, found, absent⟩
  cases answer with
  | none =>
    refine Ends.failed ?_
    rcases absent rfl with none | needs
    · rcases present with there | needs
      · exact absurd (same ▸ none) there
      · exact needs
    · exact needs
  | some stored =>
    obtain ⟨file, there, rfl⟩ := found stored rfl
    exact Ends.done ⟨same, there ▸ Option.some_ne_none file,
      describe_copy (track.object file (same ▸ there))⟩

/-- The sidecar of the copy. -/
def sidecar (plan : Replayable deployment batch) (created : Instant) : Sidecar :=
  sidecarFor (plan.checksum created) "application/vnd.apache.parquet"
    (batchMetadata batch deployment.settings.groupId created)

/-- The sidecar states the ingestion time. -/
theorem sidecar_states (created : Instant) :
    Metadata.get? (plan.sidecar created).metadata "ingested_at" = some created.utcIso := by
  obtain ⟨plain, short, nonempty⟩ := created.utcIso_plain
  have kept : sanitizeValue created.utcIso = created.utcIso :=
    sanitizeValue_plain plain (by omega)
  have listed : (batchMetadata batch deployment.settings.groupId created ++
      [(py "checksum_sha256", plan.checksum created)]).find?
        (fun entry => entry.1 = py "ingested_at") = some (py "ingested_at", created.utcIso) := rfl
  have found := get?_sanitizeMetadata listed (by decide) (by rw [kept]; exact nonempty)
  rw [kept] at found
  exact found

/-- A new object or sidecar keeps the track. -/
theorem set_climbs {top : Nat} {before : View} {file : StoredFile}
    (copy : ∀ created, plan.OnTrack created before → plan.Copy created file)
    (entered : ¬ plan.Unregistered before) :
    plan.Climbs top before { before with file := some file } := by
  refine ⟨⟨?_, fun fresh => absurd fresh entered⟩, fun _ => Option.some_ne_none file, rfl,
    fun record found => ⟨record, found, Nat.le_refl _, Nat.le_max_left _ _⟩⟩
  intro created track
  obtain ⟨record, row⟩ := track.row
  refine ⟨⟨record, row.found, row.coordinates, row.createdAt, ?_⟩, ?_⟩
  · intro durable
    obtain ⟨checksum, uri, -⟩ := row.evidence durable
    exact ⟨checksum, uri, Option.some_ne_none file⟩
  · intro other same
    obtain rfl := Option.some.inj same
    exact copy created track

/-- The creation time of the row of a view on track is unique. -/
theorem OnTrack.created_unique {view : View} {one two : Instant} (first : plan.OnTrack one view)
    (second : plan.OnTrack two view) : one = two := by
  obtain ⟨record, row⟩ := first.row
  obtain ⟨record', row'⟩ := second.row
  have same := row.found.symm.trans row'.found
  obtain rfl := Option.some.inj same
  exact row.createdAt.symm.trans row'.createdAt

/-- A registered batch is not unregistered. -/
theorem OnTrack.registered {view : View} {created : Instant} (track : plan.OnTrack created view) :
    ¬ plan.Unregistered view := by
  intro fresh
  obtain ⟨record, row⟩ := track.row
  cases fresh.row.symm.trans row.found

/-- Writing the sidecar of the copy. -/
theorem writeMetadata_ends {top : Nat} {created : Instant}
    (track : plan.OnTrack created (plan.see world)) (present : (plan.see world).file ≠ none)
    (filesystem : ∀ maxAttempts, deployment.backend ≠ .minio maxAttempts) :
    plan.Ends faulty (plan.Climbs top) (fun _ _ => True) never
      (writeMetadata plan.place (plan.sidecar created)) world := by
  obtain ⟨file, there⟩ := Option.ne_none_iff_exists'.mp present
  have copy := track.object file there
  refine Ends.seq (M := fun answer view => view = plan.see world ∧
    answer = some file) ?_ ?_
  · refine ends_observe (.readFile plan.place.1) (fun _ _ => rfl) ?_
    intro start choice seen
    have same : (plan.see start).file = (plan.see world).file := by rw [seen]
    exact ⟨_, rfl, rfl, same.trans there⟩
  rintro answer end' - ⟨same, rfl⟩
  simp only [Option.bind_some]
  split
  · rename_i other recorded
    refine Ends.ofExcept () ?_ trivial
    unfold checkSidecar
    rw [if_pos]
    exact (copy.recorded other recorded).1
  · rename_i unrecorded
    refine Ends.recover (E := never) ?_ ?_
    · refine ends_perform (.linkSidecar plan.place.1 (plan.sidecar created))
        fun start choice seen => ?_
      have there' : start.objects plan.place.1 = some file := by
        have inView : (plan.see start).file = some file := by rw [seen, same]; exact there
        exact inView
      simp only [effect, there', unrecorded, Option.isSome_none, Bool.false_eq_true, if_false]
      refine ⟨?_, fun _ _ => trivial, fun _ outcome => (by cases outcome)⟩
      have changed : plan.see (start.setObject plan.place.1
          { file with sidecar := some (plan.sidecar created) }) =
          { plan.see end' with
            file := some { file with sidecar := some (plan.sidecar created) } } := by
        rw [← seen]
        simp only [see, World.setObject, Function.update_self]
      rw [changed]
      refine set_climbs ?_ (same ▸ track.registered)
      intro other track'
      obtain rfl := track.created_unique (same ▸ track')
      refine ⟨copy.data, ?_, fun maxAttempts minio => absurd minio (filesystem maxAttempts)⟩
      intro record stated
      obtain rfl := Option.some.inj stated
      exact ⟨rfl, sidecar_states created⟩
    · rintro problem end'' - (needs | no)
      · split
        · refine Ends.seq (M := fun _ _ => True) ?_ ?_
          · refine ends_observe (.readFile plan.place.1) (fun _ _ => rfl) ?_
            intro start choice _
            exact ⟨_, rfl, trivial⟩
          · intro again end''' _ _
            split
            · exact Ends.ofExcept_failed needs fun _ _ => trivial
            · exact Ends.failed needs
        · exact Ends.failed needs
      · exact no.elim

/-- Whether publishing found the key taken. -/
theorem taken_ends [IsPreorder View G] {kind : ErrorKind} {publish : Action Unit} {W : View → Prop}
    {E : PyError → View → Prop}
    (published : plan.Ends faulty G (fun _ view => W view) E publish world)
    (known : ∀ problem view, E problem view → problem.kind = kind ∧ view.file ≠ none) :
    plan.Ends faulty G (fun answer view => (answer = false → W view) ∧
      (answer = true → view.file ≠ none ∨ faulty)) never (taken kind publish) world := by
  refine Ends.recover (Ends.seq published fun _ end' _ done =>
    Ends.done ⟨fun _ => done, fun isTrue => (by cases isTrue)⟩) ?_
  intro problem end' _ ended
  split
  · refine Ends.done ⟨fun isFalse => (by cases isFalse), fun _ => ?_⟩
    rcases ended with needs | named
    · exact Or.inr needs
    · exact Or.inl (known problem _ named).2
  · rename_i other
    rcases ended with needs | named
    · exact Ends.failed needs
    · exact absurd (known problem _ named).1 other

/-- A local upload of the copy. -/
theorem putLocal_ends {top : Nat} {created : Instant}
    (track : plan.OnTrack created (plan.see world))
    (filesystem : ∀ maxAttempts, deployment.backend ≠ .minio maxAttempts) :
    plan.Ends faulty (plan.Climbs top) (fun stored view => plan.Good created stored ∧
      view.file ≠ none) never
      (putLocal deployment plan.place (plan.bytes created) (plan.sidecar created)) world := by
  refine Ends.seq stat_ends_within ?_
  rintro answer seen - ⟨same, found, absent⟩
  have track' : plan.OnTrack created (plan.see seen) := same ▸ track
  cases answer with
  | some existing =>
    obtain ⟨file, there, rfl⟩ := found existing rfl
    obtain ⟨resolved, accepted, -⟩ := resolveExisting_good
      (describe_copy (track'.object file there))
    refine Ends.seq (M := fun _ view => view = plan.see seen)
      (Ends.ofExcept resolved accepted rfl) ?_
    rintro _ checked - still
    have present : (plan.see checked).file ≠ none := still ▸ there ▸ Option.some_ne_none file
    refine Ends.seq (writeMetadata_ends (still ▸ track') present filesystem) ?_
    intro _ written climbed _
    refine Ends.seq (statPresent_ends (climbed.moves.tracked created (still ▸ track'))
      (Or.inl (climbed.object present)) _) ?_
    rintro stored end' - ⟨-, there', good⟩
    exact Ends.done ⟨⟨good.uri, good.checksum, good.size⟩, there'⟩
  | none =>
    refine Ends.seq (taken_ends (E := fun problem view =>
      problem.kind = .fileExistsError ∧ view.file ≠ none) (W := fun view =>
      view.file ≠ none) ?_ fun _ _ named => named) ?_
    · refine ends_perform (.linkObject plan.place.1 (plan.bytes created))
        fun start choice begun => ?_
      simp only [effect]
      split
      · rename_i occupied
        refine ⟨begun ▸ Climbs.refl _, fun _ outcome => (by cases outcome), ?_⟩
        intro problem outcome
        obtain rfl := Except.error.inj outcome
        refine ⟨rfl, ?_⟩
        obtain ⟨file, there⟩ := Option.isSome_iff_exists.mp occupied
        simp only [see, there]
        exact Option.some_ne_none file
      · have changed : plan.see (start.setObject plan.place.1 ⟨plan.bytes created, none⟩) =
            { plan.see seen with file := some ⟨plan.bytes created, none⟩ } := by
          rw [← begun]
          simp only [see, World.setObject, Function.update_self]
        rw [changed]
        refine ⟨set_climbs ?_ track'.registered, fun _ _ => Option.some_ne_none _,
          fun _ outcome => (by cases outcome)⟩
        intro other onTrack
        obtain rfl := track'.created_unique onTrack
        exact ⟨rfl, fun _ none => (by cases none),
          fun maxAttempts minio => absurd minio (filesystem maxAttempts)⟩
    · rintro raced end' climbed ⟨fresh, stale⟩
      have onTrack := climbed.moves.tracked created track'
      split
      · rename_i isRaced
        refine Ends.seq (statPresent_ends onTrack
          (stale isRaced) _) ?_
        rintro existing end'' - ⟨-, there, good⟩
        obtain ⟨resolved, accepted, fine⟩ := resolveExisting_good good
        exact Ends.ofExcept resolved accepted ⟨fine, there⟩
      · rename_i unraced
        have present := fresh (Bool.eq_false_iff.mpr unraced)
        refine Ends.seq (writeMetadata_ends onTrack present filesystem) ?_
        intro _ written climbed' _
        refine Ends.weaken (statPresent_ends (climbed'.moves.tracked created onTrack)
          (Or.inl (climbed'.object present)) _) ?_ fun _ _ _ ended => ended
        rintro stored end'' - ⟨-, there, good⟩
        exact ⟨good, there⟩

/-- A MinIO upload of the copy. -/
theorem putMinio_ends {top : Nat} {created : Instant}
    (track : plan.OnTrack created (plan.see world)) (maxAttempts : Nat) :
    plan.Ends faulty (plan.Climbs top) (fun stored view => plan.Good created stored ∧
      view.file ≠ none) never
      (putMinio deployment maxAttempts plan.place (plan.bytes created) (plan.sidecar created))
      world := by
  refine Ends.seq stat_ends_within ?_
  rintro answer seen - ⟨same, found, absent⟩
  have track' : plan.OnTrack created (plan.see seen) := same ▸ track
  cases answer with
  | some existing =>
    obtain ⟨file, there, rfl⟩ := found existing rfl
    obtain ⟨resolved, accepted, fine⟩ := resolveExisting_good
      (describe_copy (track'.object file there))
    exact Ends.ofExcept resolved accepted ⟨fine, there ▸ Option.some_ne_none file⟩
  | none =>
    refine Ends.seq (taken_ends (E := fun problem view =>
      problem.kind = .conditionalWriteConflict ∧ view.file ≠ none) (W := fun view =>
      view.file ≠ none) ?_ fun _ _ named => named) ?_
    · refine minioRetry_ends (R := plan.OnTrack created) (E := fun problem view =>
        problem.kind = .s3Error "PreconditionFailed" ∧ view.file ≠ none)
        (fun _ _ climbed onTrack => climbed.moves.tracked created onTrack) ?_ ?_ track'
      · intro begin onTrack
        refine ends_perform (.putObjectIfAbsent plan.place.1 (plan.bytes created)
          (plan.sidecar created)) fun start choice begun => ?_
        simp only [effect]
        split
        · rename_i occupied
          refine ⟨begun ▸ Climbs.refl _, fun _ outcome => (by cases outcome), ?_⟩
          intro problem outcome
          obtain rfl := Except.error.inj outcome
          obtain ⟨file, there⟩ := Option.isSome_iff_exists.mp occupied
          refine ⟨rfl, ?_⟩
          simp only [see, there]
          exact Option.some_ne_none file
        · have changed : plan.see (start.setObject plan.place.1
              ⟨plan.bytes created, some (plan.sidecar created)⟩) =
              { plan.see begin with
                file := some ⟨plan.bytes created, some (plan.sidecar created)⟩ } := by
            rw [← begun]
            simp only [see, World.setObject, Function.update_self]
          rw [changed]
          refine ⟨set_climbs ?_ onTrack.registered, fun _ _ => Option.some_ne_none _,
            fun _ outcome => (by cases outcome)⟩
          intro other onTrack'
          obtain rfl := onTrack.created_unique onTrack'
          refine ⟨rfl, ?_, fun _ _ => Option.some_ne_none _⟩
          intro record stated
          obtain rfl := Option.some.inj stated
          exact ⟨rfl, sidecar_states created⟩
      · rintro problem view last attempt ⟨kind, present⟩
        refine ⟨⟨.conditionalWriteConflict, []⟩, ?_, rfl, present⟩
        unfold classifyS3
        rw [kind]
        simp only
        rw [if_neg (by decide), if_pos (by decide)]
    · rintro raced end' climbed ⟨fresh, stale⟩
      have onTrack := climbed.moves.tracked created track'
      split
      · rename_i isRaced
        refine Ends.seq (statPresent_ends onTrack (stale isRaced) _) ?_
        rintro existing end'' - ⟨-, there, good⟩
        obtain ⟨resolved, accepted, fine⟩ := resolveExisting_good good
        exact Ends.ofExcept resolved accepted ⟨fine, there⟩
      · rename_i unraced
        have present := fresh (Bool.eq_false_iff.mpr unraced)
        refine Ends.seq (statPresent_ends onTrack (Or.inl present) _) ?_
        rintro stored end'' - ⟨-, there, good⟩
        rw [if_neg]
        · exact Ends.done ⟨good, there⟩
        · rw [not_or, not_not, not_not]
          exact ⟨good.checksum, good.size⟩

/-- The key of the batch and its place. -/
theorem key_placed (plan : Replayable deployment batch) : ∃ key,
    buildCdcObjectKey batch = .ok key ∧
      deployment.backend.locate deployment.settings.bronzeBucket key = .ok plan.place := by
  have placed := plan.placed
  unfold batchPlace at placed
  cases built : buildCdcObjectKey batch with
  | error problem =>
    rw [built] at placed
    cases placed
  | ok key =>
    rw [built] at placed
    exact ⟨key, rfl, placed⟩

/-- The serialization of the batch at its creation time. -/
def parquet (plan : Replayable deployment batch) (created : Instant) : SerializedParquet where
  data := plan.bytes created
  checksumSha256 := plan.checksum created
  sizeBytes := (plan.bytes created).length

/-- What an upload reports passes the checks that follow it. -/
theorem Good.verified {created : Instant} {stored : StoredObject}
    (good : plan.Good created stored) {size : Option Nat}
    (stated : size = none ∨ size = some (plan.bytes created).length) :
    verifyStored stored (plan.checksum created) size = .ok () := by
  unfold verifyStored
  rw [if_neg (not_not.mpr good.checksum), if_neg]
  rcases stated with rfl | rfl
  · simp
  · simp [good.size]

/-- The upload of the batch serialized at its creation time. -/
theorem putBatch_ends {top : Nat} {created : Instant}
    (track : plan.OnTrack created (plan.see world)) :
    plan.Ends faulty (plan.Climbs top) (fun stored view => plan.Good created stored ∧
      view.file ≠ none) never
      (putBatch deployment batch (plan.parquet created) deployment.settings.groupId created)
      world := by
  obtain ⟨key, built, located⟩ := plan.key_placed
  refine Ends.seq (M := fun value view => value = key ∧ view = plan.see world)
    (Ends.ofExcept key built ⟨rfl, rfl⟩) ?_
  rintro _ keyed - ⟨rfl, same⟩
  refine Ends.seq (M := fun stored view => plan.Good created stored ∧ view.file ≠ none) ?_ ?_
  · unfold putImmutable
    rw [if_neg fun differs => differs rfl]
    refine Ends.seq (M := fun value view => value = plan.place ∧ view = plan.see world)
      (Ends.ofExcept plan.place located ⟨rfl, same⟩) ?_
    rintro _ placed - ⟨rfl, same'⟩
    have onTrack : plan.OnTrack created (plan.see placed) := same' ▸ track
    split
    · rename_i roots filesystem
      exact putLocal_ends onTrack fun maxAttempts minio => by cases filesystem.symm.trans minio
    · exact putMinio_ends onTrack _
  · rintro stored end' - ⟨good, there⟩
    refine Ends.seq (M := fun _ view => view = plan.see end')
      (Ends.ofExcept () (good.verified (Or.inr rfl)) rfl) ?_
    rintro _ checked - still
    exact Ends.done ⟨good, still ▸ there⟩

/-- `stat_batch` reports the object that is there; it misses one only after a failure. -/
theorem statBatch_ends [IsPreorder View G] :
    plan.Ends faulty G (fun answer view => view = plan.see world ∧
      (∀ stored, answer = some stored → ∃ file, view.file = some file ∧
        stored = describe deployment plan.place file) ∧
      (answer = none → view.file = none ∨ faulty)) never (statBatch deployment batch) world := by
  refine Ends.seq (M := fun value view => value = plan.place ∧ view = plan.see world)
    (Ends.ofExcept plan.place plan.placed ⟨rfl, rfl⟩) ?_
  rintro _ placed - ⟨rfl, same⟩
  rw [← same]
  exact stat_ends_within

/-- The object of a durable row is verified. -/
theorem verifyBatch_ends [IsPreorder View G] {created : Instant}
    (track : plan.OnTrack created (plan.see world)) (present : (plan.see world).file ≠ none) :
    plan.Ends faulty G (fun _ view => view = plan.see world) never
      (verifyBatch deployment batch (plan.checksum created) plan.place.2) world := by
  refine Ends.seq statBatch_ends ?_
  rintro answer seen - ⟨same, found, absent⟩
  cases answer with
  | none =>
    refine Ends.failed ?_
    rcases absent rfl with none | needs
    · exact absurd (same ▸ none) present
    · exact needs
  | some stored =>
    obtain ⟨file, there, rfl⟩ := found stored rfl
    have good := describe_copy (track.object file (same ▸ there))
    simp only
    rw [if_neg (not_not.mpr good.uri)]
    refine Ends.seq (M := fun _ view => view = plan.see seen)
      (Ends.ofExcept () (good.verified (Or.inl rfl)) rfl) ?_
    rintro _ checked - still
    exact Ends.done (still.trans same)

end Replayable

end

end Cdc
