import PaymentsPlatform.Cdc.Recovery

/-!
# Durable evidence

What the manifest promises about the object store and the broker (`Sound`), and how the world
may change while a batch is processed (`Later`): objects stay, rows keep their identity and
never fall back from a durable status, commits are only added, and the consumer itself does
not move. `fits` says which batches are processed, `acks` what a commit must have waited for;
both are parameters, so that the same argument serves arbitrary batches and the consumer's.
-/

namespace Cdc

open Python Effects

/-- The digests recorded with the objects are theirs. -/
def Honest (sha : Sha256) (world : World) : Prop :=
  ∀ location file sidecar, world.objects location = some file → file.sidecar = some sidecar →
    sidecar.checksumSha256 = sha.hexdigest file.data

/-- The store holds, at the address, an object with the checksum, which is the checksum of the
serialized batch. -/
def ObjectEvidence (deployment : Deployment) (world : World) (batch : CdcBatch)
    (checksum uri : PyStr) : Prop :=
  ∃ ingestedAt data place file, deployment.serializeBatch batch ingestedAt = .ok data ∧
    batchPlace deployment batch = .ok place ∧ deployment.sha.hexdigest data = checksum ∧
    place.2 = uri ∧ world.objects place.1 = some file ∧
    deployment.sha.hexdigest file.data = checksum

/-- The object of a row: the row describes a batch and has the checksum and address of its
object. -/
def HasObject (deployment : Deployment) (fits : CdcBatch → Prop) (world : World)
    (record : BatchManifestRecord) : Prop :=
  ∃ batch checksum uri, fits batch ∧ record.batchId = batch.batchId ∧
    record.coordinates = batch.coordinates record.consumerGroup ∧
    record.checksumSha256 = some checksum ∧ record.objectUri = some uri ∧
    ObjectEvidence deployment world batch checksum uri

/-- The broker has acknowledged the range of a row. -/
def Acknowledged (world : World) (record : BatchManifestRecord) : Prop :=
  ∃ next, (record.topicPartition, next) ∈ world.commits ∧ record.offsetEnd + 1 ≤ next

/-- Manifest, object store and broker agree. -/
structure Sound (deployment : Deployment) (fits : CdcBatch → Prop) (world : World) : Prop where
  /-- Recorded digests are right. -/
  honest : Honest deployment.sha world
  /-- Rows satisfy the `CHECK` on their range. -/
  ranged : ∀ batchId record, world.manifest.get batchId = some record → 0 ≤ record.offsetEnd
  /-- A durable row has its object. -/
  durable : ∀ batchId record, world.manifest.get batchId = some record → record.Durable →
    HasObject deployment fits world record
  /-- A committed row has been acknowledged. -/
  acknowledged : ∀ batchId record, world.manifest.get batchId = some record →
    record.status = .committed → Acknowledged world record

/-- How a row may change: its identity stays, a durable status never falls back and its
evidence stays. -/
structure RowKept (before after : BatchManifestRecord) : Prop where
  /-- Same range, group and schema. -/
  coordinates : after.coordinates = before.coordinates
  /-- Same creation time. -/
  createdAt : after.createdAt = before.createdAt
  /-- An uploaded row stays uploaded or is committed. -/
  uploaded : before.status = .uploaded → after.status = .uploaded ∨ after.status = .committed
  /-- A committed row stays committed. -/
  committed : before.status = .committed → after.status = .committed
  /-- Evidence stays. -/
  evidence : before.Durable → after.checksumSha256 = before.checksumSha256 ∧
    after.objectUri = before.objectUri

/-- How the world may change: objects and rows stay, commits are added. -/
structure Advances (before after : World) : Prop where
  /-- Objects stay, and so do their sidecars. -/
  objects : ∀ location file, before.objects location = some file →
    ∃ later, after.objects location = some later ∧ later.data = file.data ∧
      ∀ sidecar, file.sidecar = some sidecar → later.sidecar = some sidecar
  /-- Rows stay. -/
  rows : ∀ batchId record, before.manifest.get batchId = some record →
    ∃ later, after.manifest.get batchId = some later ∧ RowKept record later
  /-- Commits are added. -/
  commits : before.commits <:+ after.commits

/-- The consumer process and its client did not move. -/
structure Framed (before after : World) : Prop where
  /-- Same memory. -/
  memory : after.memory = before.memory
  /-- Same positions. -/
  positions : after.positions = before.positions
  /-- Same records. -/
  delivered : after.delivered = before.delivered
  /-- Same stop flag. -/
  stopSet : after.stopSet = before.stopSet

/-- The world some effects of the processor later. -/
structure Later (deployment : Deployment) (fits : CdcBatch → Prop) (before after : World) :
    Prop where
  /-- Agreement is kept. -/
  sound : Sound deployment fits before → Sound deployment fits after
  /-- Nothing durable is lost. -/
  advances : Advances before after
  /-- The consumer did not move. -/
  framed : Framed before after

/-- One effect of the processor: a commit is allowed where `acks` holds. -/
structure Processes (deployment : Deployment) (fits : CdcBatch → Prop)
    (acks : TopicPartitionKey → Int → World → Prop) (before after : World) : Prop where
  /-- Agreement is kept and nothing is lost. -/
  later : Later deployment fits before after
  /-- At most one commit, and only an allowed one. -/
  commits : after.commits = before.commits ∨ ∃ key next,
    after.commits = (key, next) :: before.commits ∧ acks key next after

/-! ## Order -/

/-- A row that did not change. -/
theorem RowKept.refl (record : BatchManifestRecord) : RowKept record record :=
  ⟨rfl, rfl, fun same => Or.inl same, fun same => same, fun _ => ⟨rfl, rfl⟩⟩

/-- A kept row stays durable. -/
theorem RowKept.durable {before after : BatchManifestRecord} (kept : RowKept before after)
    (durable : before.Durable) : after.Durable := by
  rcases durable with uploaded | committed
  · exact kept.uploaded uploaded
  · exact Or.inr (kept.committed committed)

/-- Two changes of a row. -/
theorem RowKept.trans {first second third : BatchManifestRecord} (one : RowKept first second)
    (two : RowKept second third) : RowKept first third where
  coordinates := two.coordinates.trans one.coordinates
  createdAt := two.createdAt.trans one.createdAt
  uploaded := by
    intro uploaded
    rcases one.uploaded uploaded with still | committed
    · exact two.uploaded still
    · exact Or.inr (two.committed committed)
  committed := fun committed => two.committed (one.committed committed)
  evidence := by
    intro durable
    obtain ⟨checksum, uri⟩ := one.evidence durable
    obtain ⟨checksum', uri'⟩ := two.evidence (one.durable durable)
    exact ⟨checksum'.trans checksum, uri'.trans uri⟩

/-- Nothing happened. -/
theorem Advances.refl (world : World) : Advances world world where
  objects := fun _ file found => ⟨file, found, rfl, fun _ same => same⟩
  rows := fun _ record found => ⟨record, found, RowKept.refl record⟩
  commits := List.suffix_refl _

/-- What happened adds up. -/
theorem Advances.trans {first second third : World} (one : Advances first second)
    (two : Advances second third) : Advances first third where
  objects := by
    intro location file found
    obtain ⟨file', found', data, sidecar⟩ := one.objects location file found
    obtain ⟨file'', found'', data', sidecar'⟩ := two.objects location file' found'
    exact ⟨file'', found'', data'.trans data,
      fun record same => sidecar' record (sidecar record same)⟩
  rows := by
    intro batchId record found
    obtain ⟨record', found', kept⟩ := one.rows batchId record found
    obtain ⟨record'', found'', kept'⟩ := two.rows batchId record' found'
    exact ⟨record'', found'', kept.trans kept'⟩
  commits := one.commits.trans two.commits

/-- Evidence survives. -/
theorem ObjectEvidence.later {deployment : Deployment} {before after : World} {batch : CdcBatch}
    {checksum uri : PyStr} (evidence : ObjectEvidence deployment before batch checksum uri)
    (advances : Advances before after) : ObjectEvidence deployment after batch checksum uri := by
  obtain ⟨ingestedAt, data, place, file, serialized, placed, digest, address, found, same⟩ :=
    evidence
  obtain ⟨file', found', content, -⟩ := advances.objects place.1 file found
  exact ⟨ingestedAt, data, place, file', serialized, placed, digest, address, found',
    by rw [content, same]⟩

/-- The object of a row survives. -/
theorem HasObject.later {deployment : Deployment} {fits : CdcBatch → Prop} {before after : World}
    {record : BatchManifestRecord} (object : HasObject deployment fits before record)
    (advances : Advances before after) : HasObject deployment fits after record := by
  obtain ⟨batch, checksum, uri, fit, identity, place, digest, address, evidence⟩ := object
  exact ⟨batch, checksum, uri, fit, identity, place, digest, address, evidence.later advances⟩

/-- An acknowledgement stays. -/
theorem Acknowledged.later {before after : World} {record : BatchManifestRecord}
    (acknowledged : Acknowledged before record) (advances : Advances before after) :
    Acknowledged after record := by
  obtain ⟨next, committed, bound⟩ := acknowledged
  exact ⟨next, advances.commits.subset committed, bound⟩

section

variable {deployment : Deployment} {fits : CdcBatch → Prop}
  {acks : TopicPartitionKey → Int → World → Prop}

/-- Nothing happened. -/
theorem Later.refl (world : World) : Later deployment fits world world :=
  ⟨fun sound => sound, Advances.refl world, ⟨rfl, rfl, rfl, rfl⟩⟩

/-- What happened adds up. -/
theorem Later.trans {first second third : World} (one : Later deployment fits first second)
    (two : Later deployment fits second third) : Later deployment fits first third where
  sound := fun sound => two.sound (one.sound sound)
  advances := one.advances.trans two.advances
  framed := ⟨two.framed.memory.trans one.framed.memory,
    two.framed.positions.trans one.framed.positions,
    two.framed.delivered.trans one.framed.delivered,
    two.framed.stopSet.trans one.framed.stopSet⟩

/-- `Later` follows the effects of the processor. -/
theorem later_tracks :
    Tracks (Processes deployment fits acks) (Later deployment fits) :=
  ⟨Later.refl, Later.trans, Processes.later⟩

/-! ## Other writers -/

/-- Only objects were added, with their own digests. -/
structure Published (sha : Sha256) (before after : World) : Prop where
  /-- Objects stay. -/
  objects : ∀ location file, before.objects location = some file →
    after.objects location = some file
  /-- New objects state their own digest. -/
  honest : Honest sha before → Honest sha after
  /-- Nothing else changed. -/
  same : ∃ objects, after = { before with objects }

/-- Creating an honest object. -/
theorem create_published (sha : Sha256) (world : World) (location : Location) (file : StoredFile)
    (honest : ∀ sidecar, file.sidecar = some sidecar →
      sidecar.checksumSha256 = sha.hexdigest file.data) :
    Published sha world (world.create location file) := by
  unfold World.create
  split
  · exact ⟨fun _ _ found => found, fun same => same, ⟨world.objects, rfl⟩⟩
  · rename_i free
    refine ⟨?_, ?_, ⟨_, rfl⟩⟩
    · intro place other found
      simp only [World.setObject]
      rw [Function.update_of_ne]
      · exact found
      · rintro rfl
        simp [found] at free
    · intro before place other sidecar found recorded
      simp only [World.setObject] at found
      by_cases here : place = location
      · subst here
        rw [Function.update_self, Option.some.injEq] at found
        subst found
        exact honest sidecar recorded
      · rw [Function.update_of_ne here] at found
        exact before place other sidecar found recorded

/-- Two rounds of publications. -/
theorem Published.trans {sha : Sha256} {first second third : World}
    (one : Published sha first second) (two : Published sha second third) :
    Published sha first third := by
  obtain ⟨objects, rfl⟩ := one.same
  obtain ⟨objects', rfl⟩ := two.same
  exact ⟨fun place file found => two.objects place file (one.objects place file found),
    fun honest => two.honest (one.honest honest), ⟨objects', rfl⟩⟩

/-- What other writers do before an effect. -/
theorem publish_published (sha : Sha256) (world : World) (published : List Publication) :
    Published sha world (world.publish sha published) := by
  unfold World.publish
  induction published generalizing world with
  | nil => exact ⟨fun _ _ found => found, fun same => same, ⟨world.objects, rfl⟩⟩
  | cons publication published ih =>
    rw [List.foldl_cons]
    refine Published.trans (create_published sha world _ _ ?_) (ih _)
    intro sidecar recorded
    simp only [Publication.file, Option.map_eq_some_iff] at recorded
    obtain ⟨⟨contentType, metadata⟩, -, rfl⟩ := recorded
    rfl

/-- Publications of other writers leave a later world. -/
theorem Published.later {before after : World} (published : Published deployment.sha before after) :
    Later deployment fits before after := by
  obtain ⟨objects, rfl⟩ := published.same
  have advances : Advances before { before with objects } := {
    objects := fun place file found =>
      ⟨file, published.objects place file found, rfl, fun _ same => same⟩
    rows := fun _ record found => ⟨record, found, RowKept.refl record⟩
    commits := List.suffix_refl _ }
  refine ⟨?_, advances, ⟨rfl, rfl, rfl, rfl⟩⟩
  intro sound
  exact {
    honest := published.honest sound.honest
    ranged := sound.ranged
    durable := fun batchId record found durable =>
      (sound.durable batchId record found durable).later advances
    acknowledged := fun batchId record found committed =>
      (sound.acknowledged batchId record found committed).later advances }

/-! ## Effects -/

/-- Every run of the program changes the world only as `Processes` allows, and its value is as
stated. -/
def Keeps (deployment : Deployment) (fits : CdcBatch → Prop)
    (acks : TopicPartitionKey → Int → World → Prop) {α : Type} (post : α → World → Prop)
    (program : Action α) (world : World) : Prop :=
  Meets (machine deployment) (.sequential (fun _ _ _ => True) (Processes deployment fits acks))
    post (fun _ _ => True) program world

/-- The machine performs the effect, or fails with or without it, after other writers. -/
theorem act_cases (deployment : Deployment) (op : Op) (choice : Choice) (world : World) :
    ∃ start, Published deployment.sha world start ∧
      ((machine deployment).act op choice world = effect deployment op choice start ∨
        ∃ fault, choice.fault = some fault ∧
          ((machine deployment).act op choice world = (.error fault.error, start) ∨
            (machine deployment).act op choice world =
              (.error fault.error, (effect deployment op choice start).2))) := by
  refine ⟨world.publish deployment.sha choice.published,
    publish_published deployment.sha world choice.published, ?_⟩
  cases failed : choice.fault with
  | none => exact Or.inl (by simp only [machine, failed]; rfl)
  | some fault =>
    cases faults : op.faults with
    | never => exact Or.inl (by simp only [machine, failed, faults]; rfl)
    | refused =>
      exact Or.inr ⟨fault, rfl, Or.inl (by simp only [machine, failed, faults])⟩
    | any =>
      refine Or.inr ⟨fault, rfl, ?_⟩
      simp only [machine, failed, faults]
      split
      · exact Or.inr rfl
      · exact Or.inl rfl

/-- An effect after publications of other writers. -/
theorem Processes.after_published {before start after : World}
    (published : Published deployment.sha before start)
    (effect : Processes deployment fits acks start after) :
    Processes deployment fits acks before after := by
  refine ⟨published.later.trans effect.later, ?_⟩
  obtain ⟨objects, rfl⟩ := published.same
  exact effect.commits

/-- Nothing but publications. -/
theorem Published.processes {before after : World}
    (published : Published deployment.sha before after) :
    Processes deployment fits acks before after := by
  refine ⟨published.later, ?_⟩
  obtain ⟨objects, rfl⟩ := published.same
  exact Or.inl rfl

/-- One effect, from what it does in every world other writers may leave. -/
theorem keeps_perform {op : Op} {post : op.Answer → World → Prop} {world : World}
    (each : ∀ start choice, Published deployment.sha world start →
      Processes deployment fits acks start (effect deployment op choice start).2 ∧
        ∀ answer, (effect deployment op choice start).1 = .ok answer →
          post answer (effect deployment op choice start).2) :
    Keeps deployment fits acks post (perform op) world := by
  refine Meets.request ?_
  rintro moved ⟨rfl⟩ choice -
  obtain ⟨start, published, acted⟩ := act_cases deployment op choice world
  obtain ⟨kept, answers⟩ := each start choice published
  rcases acted with took | ⟨fault, -, refused | lost⟩
  · rw [took]
    refine ⟨kept.after_published published, ?_⟩
    cases outcome : (effect deployment op choice start).1 with
    | ok answer => exact answers answer outcome
    | error problem => trivial
  · rw [refused]
    exact ⟨published.processes, trivial⟩
  · rw [lost]
    exact ⟨kept.after_published published, trivial⟩

/-- An effect that changes nothing. -/
theorem keeps_observe {op : Op} {post : op.Answer → World → Prop} {world : World}
    (still : ∀ choice start, (effect deployment op choice start).2 = start)
    (answers : ∀ start choice answer, Published deployment.sha world start →
      (effect deployment op choice start).1 = .ok answer → post answer start) :
    Keeps deployment fits acks post (perform op) world := by
  refine keeps_perform fun start choice published => ?_
  rw [still]
  exact ⟨⟨Later.refl start, Or.inl rfl⟩,
    fun answer outcome => answers start choice answer published outcome⟩

/-- Sequencing. -/
theorem Keeps.seq {α β : Type} {M : α → World → Prop} {post : β → World → Prop}
    {program : Action α} {next : α → Action β} {world : World}
    (first : Keeps deployment fits acks M program world)
    (rest : ∀ value end', Later deployment fits world end' → M value end' →
      Keeps deployment fits acks post (next value) end') :
    Keeps deployment fits acks post (program.bind next) world :=
  Meets.seq later_tracks first rest

/-- Weaker conclusions, with the time that passed. -/
theorem Keeps.weaken {α : Type} {M post : α → World → Prop} {program : Action α}
    {world : World} (first : Keeps deployment fits acks M program world)
    (rest : ∀ value end', Later deployment fits world end' → M value end' →
      post value end') : Keeps deployment fits acks post program world :=
  (Meets.along later_tracks first).mono (fun value end' ends => rest value end' ends.1 ends.2)
    fun _ _ _ => trivial

/-- Handling. -/
theorem Keeps.recover {α : Type} {post : α → World → Prop} {program : Action α}
    {handler : PyError → Action α} {world : World}
    (first : Keeps deployment fits acks post program world)
    (rest : ∀ problem end', Later deployment fits world end' →
      Keeps deployment fits acks post (handler problem) end') :
    Keeps deployment fits acks post (program.handle handler) world :=
  Meets.recover later_tracks first fun problem end' later _ => rest problem end' later

/-- Retrying. -/
theorem Keeps.retryCall {α : Type} {post : α → World → Prop} {operation : Action α}
    {world : World}
    (each : ∀ start, Later deployment fits world start →
      Keeps deployment fits acks post operation start) :
    Keeps deployment fits acks post (Cdc.retryCall deployment operation) world := by
  have whole : Meets (machine deployment)
      (.sequential (fun _ _ _ => True) (Processes deployment fits acks)) post
      (fun _ end' => Later deployment fits world end') (Cdc.retryCall deployment operation)
      world := by
    refine Meets.retryCall (R := fun start => Later deployment fits world start) ?_
      (fun _ _ _ later => later) (fun _ _ _ _ later => later) (Later.refl world)
    intro start since
    refine (Meets.along later_tracks (each start since)).mono (fun _ _ ends => ends.2) ?_
    intro problem end' ends
    exact since.trans ends.1
  exact whole.mono (fun _ _ ends => ends) fun _ _ _ => trivial

/-- A computation without effects. -/
theorem Keeps.ofExcept {α : Type} {post : α → World → Prop} {outcome : Except PyError α}
    {world : World} (value_ok : ∀ value, outcome = .ok value → post value world) :
    Keeps deployment fits acks post (Program.ofExcept outcome) world :=
  Meets.ofExcept value_ok fun _ _ => trivial

/-- A value. -/
theorem Keeps.done {α : Type} {post : α → World → Prop} {value : α} {world : World}
    (holds : post value world) : Keeps deployment fits acks post (.done value) world := holds

/-- An exception. -/
theorem Keeps.raised {α : Type} {post : α → World → Prop} {problem : PyError} {world : World} :
    Keeps deployment fits acks post (.raised problem) world := trivial

end

end Cdc
