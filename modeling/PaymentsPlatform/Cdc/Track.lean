import PaymentsPlatform.Cdc.Protocol

/-!
# The track of one batch

Attempts to process one batch may be cut off or fail anywhere. What they leave behind is always
on track: the row keeps the creation time of its registration, the object, if it is there, has
the bytes serialized with that time, and the record beside it states that time.

Only three things matter here: the object under the key of the batch, the manifest, and the
commits (`View`). Other writers do not touch that key. A failure is possible only when `faulty`
holds, so the same argument gives both the safety of failing attempts (`faulty` true) and the
completion of an attempt in which every dependency succeeds (`faulty` false): an exception is
proved to need a failure.
-/

namespace Cdc

open Python Effects

/-- A batch that can be processed: its key is defined, its serialization succeeds, and its row
satisfies the constraints of the manifest. -/
structure Replayable (deployment : Deployment) (batch : CdcBatch) where
  /-- Where the object goes. -/
  place : Location × PyStr
  /-- The bytes for each ingestion time. -/
  bytes : Instant → Bytes
  /-- The key of the batch is there. -/
  placed : batchPlace deployment batch = .ok place
  /-- The serialization succeeds. -/
  serializes : ∀ ingestedAt, deployment.serializeBatch batch ingestedAt = .ok (bytes ingestedAt)
  /-- The `CHECK` constraints hold. -/
  insertable : batch.Insertable
  /-- The integers fit their columns. -/
  fits : sqliteInteger batch.partition = true ∧ sqliteInteger batch.offsetStart = true ∧
    sqliteInteger batch.offsetEnd = true

/-- What attempts to process the batch read and change. -/
structure View where
  /-- The object under the key of the batch. -/
  file : Option StoredFile
  /-- The manifest. -/
  manifest : ManifestTable
  /-- The commits. -/
  commits : List (TopicPartitionKey × Int)

section

variable {deployment : Deployment} {batch : CdcBatch}

namespace Replayable

/-- The view of a world. -/
def see (plan : Replayable deployment batch) (world : World) : View :=
  ⟨world.objects plan.place.1, world.manifest, world.commits⟩

/-- The checksum of the object for an ingestion time. -/
def checksum (plan : Replayable deployment batch) (created : Instant) : PyStr :=
  deployment.sha.hexdigest (plan.bytes created)

/-- The object an uninterrupted attempt writes, possibly without its sidecar yet. -/
structure Copy (plan : Replayable deployment batch) (created : Instant) (file : StoredFile) :
    Prop where
  /-- The bytes. -/
  data : file.data = plan.bytes created
  /-- The record states the checksum and the ingestion time. -/
  recorded : ∀ sidecar, file.sidecar = some sidecar →
    sidecar.checksumSha256 = plan.checksum created ∧
      Metadata.get? sidecar.metadata "ingested_at" = some created.utcIso
  /-- A MinIO object is created together with its record. -/
  whole : ∀ maxAttempts, deployment.backend = .minio maxAttempts → file.sidecar ≠ none

/-- The row of the batch: a durable one has the evidence of the copy. -/
structure Row (plan : Replayable deployment batch) (created : Instant) (view : View)
    (record : BatchManifestRecord) : Prop where
  /-- It is in the manifest. -/
  found : view.manifest.get batch.batchId = some record
  /-- It has the coordinates of the batch. -/
  coordinates : record.coordinates = batch.coordinates deployment.settings.groupId
  /-- It was created at that time. -/
  createdAt : record.createdAt = created
  /-- A durable row has its evidence. -/
  evidence : record.Durable → record.checksumSha256 = some (plan.checksum created) ∧
    record.objectUri = some plan.place.2 ∧ view.file ≠ none

/-- The batch was registered at the time, and everything since agrees with that. -/
structure OnTrack (plan : Replayable deployment batch) (created : Instant) (view : View) :
    Prop where
  /-- The row. -/
  row : ∃ record, plan.Row created view record
  /-- The object. -/
  object : ∀ file, view.file = some file → plan.Copy created file

/-- The batch has not been registered, and nothing stands in its way. -/
structure Unregistered (_plan : Replayable deployment batch) (view : View) : Prop where
  /-- No row. -/
  row : view.manifest.get batch.batchId = none
  /-- No row of the group has the range. -/
  range : rangeTaken view.manifest batch deployment.settings.groupId = false
  /-- No object. -/
  object : view.file = none

/-- Registered and on track, or not registered. -/
def Expected (plan : Replayable deployment batch) (view : View) : Prop :=
  plan.Unregistered view ∨ ∃ created, plan.OnTrack created view

/-- How attempts may change the view. -/
structure Moves (plan : Replayable deployment batch) (before after : View) : Prop where
  /-- What is on track stays on track, with the same creation time. -/
  tracked : ∀ created, plan.OnTrack created before → plan.OnTrack created after
  /-- Registration puts the batch on track. -/
  entered : plan.Unregistered before → plan.Expected after

/-- How far a status is in the protocol. -/
def stage : BatchStatus → Nat
  | .collecting | .failed => 0
  | .serializing => 1
  | .uploading => 2
  | .uploaded => 3
  | .committed => 4

/-- How an attempt that does not fail changes the view: the row climbs, up to `top`. -/
structure Climbs (plan : Replayable deployment batch) (top : Nat) (before after : View) :
    Prop where
  /-- Nothing gets off the track. -/
  moves : plan.Moves before after
  /-- The object stays. -/
  object : before.file ≠ none → after.file ≠ none
  /-- No commit. -/
  commits : after.commits = before.commits
  /-- The row climbs. -/
  climbs : ∀ record, before.manifest.get batch.batchId = some record →
    ∃ row, after.manifest.get batch.batchId = some row ∧
      stage record.status ≤ stage row.status ∧ stage row.status ≤ max (stage record.status) top

/-- The row has come at least this far. -/
def AtLeast (_plan : Replayable deployment batch) (least : Nat) (view : View) : Prop :=
  ∃ record, view.manifest.get batch.batchId = some record ∧ least ≤ stage record.status

/-- Other writers leave the key alone, and failures need `faulty`. -/
def admits (plan : Replayable deployment batch) (faulty : Prop) (_ : signature.Op)
    (choice : Choice) (_ : World) : Prop :=
  (∀ publication ∈ choice.published, publication.location ≠ plan.place.1) ∧
    (choice.fault ≠ none → faulty)

/-- Every run of the program changes the view only as stated and ends as stated; an exception
needs a failure, or is one of those named by `raises`. -/
def Ends (plan : Replayable deployment batch) (faulty : Prop) (G : View → View → Prop)
    {α : Type} (post : α → View → Prop) (raises : PyError → View → Prop) (program : Action α)
    (world : World) : Prop :=
  Meets (machine deployment)
    (.sequential (plan.admits faulty) fun before after => G (plan.see before) (plan.see after))
    (fun value end' => post value (plan.see end'))
    (fun problem end' => faulty ∨ raises problem (plan.see end')) program world

/-- No exception without a failure. -/
def never (_ : PyError) (_ : View) : Prop := False

variable {plan : Replayable deployment batch} {faulty : Prop} {G : View → View → Prop}
  {world : World}

/-! ## Order -/

/-- Nothing happened. -/
theorem Moves.refl (view : View) : plan.Moves view view :=
  ⟨fun _ track => track, fun fresh => Or.inl fresh⟩

/-- What happened adds up. -/
theorem Moves.trans {first second third : View} (one : plan.Moves first second)
    (two : plan.Moves second third) : plan.Moves first third where
  tracked := fun created track => two.tracked created (one.tracked created track)
  entered := by
    intro fresh
    rcases one.entered fresh with still | ⟨created, track⟩
    · exact two.entered still
    · exact Or.inr ⟨created, two.tracked created track⟩

/-- Nothing happened. -/
theorem Climbs.refl {top : Nat} (view : View) : plan.Climbs top view view :=
  ⟨Moves.refl view, fun present => present, rfl,
    fun record found => ⟨record, found, Nat.le_refl _, Nat.le_max_left _ _⟩⟩

/-- What happened adds up. -/
theorem Climbs.trans {top : Nat} {first second third : View} (one : plan.Climbs top first second)
    (two : plan.Climbs top second third) : plan.Climbs top first third where
  moves := one.moves.trans two.moves
  object := fun present => two.object (one.object present)
  commits := two.commits.trans one.commits
  climbs := by
    intro record found
    obtain ⟨row, found', low, high⟩ := one.climbs record found
    obtain ⟨row', found'', low', high'⟩ := two.climbs row found'
    exact ⟨row', found'', by omega, by omega⟩

/-- A row does not fall back while climbing. -/
theorem AtLeast.climb {least top : Nat} {before after : View} (reached : plan.AtLeast least before)
    (climbs : plan.Climbs top before after) : plan.AtLeast least after := by
  obtain ⟨record, found, bound⟩ := reached
  obtain ⟨row, found', low, -⟩ := climbs.climbs record found
  exact ⟨row, found', by omega⟩

instance : IsPreorder View plan.Moves := { refl := Moves.refl, trans := fun _ _ _ => Moves.trans }

instance {top : Nat} : IsPreorder View (plan.Climbs top) :=
  { refl := Climbs.refl, trans := fun _ _ _ => Climbs.trans }

instance : IsPreorder View (Eq : View → View → Prop) := { (eq_isEquiv View) with }

/-- A preorder of views can be followed. -/
theorem tracks [IsPreorder View G] :
    Tracks (fun before after => G (plan.see before) (plan.see after))
      (fun before after => G (plan.see before) (plan.see after)) :=
  ⟨fun world => Std.Refl.refl (plan.see world), IsTrans.trans _ _ _, fun step => step⟩

/-! ## Effects -/

/-- Other writers do not change the view. -/
theorem see_publish (world : World) (published : List Publication)
    (alone : ∀ publication ∈ published, publication.location ≠ plan.place.1) :
    plan.see (world.publish deployment.sha published) = plan.see world := by
  unfold World.publish
  induction published generalizing world with
  | nil => rfl
  | cons publication published ih =>
    rw [List.foldl_cons, ih _ fun other member => alone other (List.mem_cons_of_mem _ member)]
    have elsewhere := alone publication (List.mem_cons_self ..)
    unfold World.create
    split
    · rfl
    · simp only [see, World.setObject, Function.update_of_ne elsewhere.symm]

/-- The machine performs the effect in a world with the same view, or there is a failure. -/
theorem act_seen {op : Op} {choice : Choice} (admitted : plan.admits faulty op choice world) :
    ∃ start, plan.see start = plan.see world ∧
      ((machine deployment).act op choice world = effect deployment op choice start ∨
        faulty ∧ ∃ error, (machine deployment).act op choice world = (.error error, start) ∨
          (machine deployment).act op choice world =
            (.error error, (effect deployment op choice start).2)) := by
  refine ⟨world.publish deployment.sha choice.published, see_publish world _ admitted.1, ?_⟩
  cases failed : choice.fault with
  | none => exact Or.inl (by simp only [machine, failed]; rfl)
  | some fault =>
    have needs := admitted.2 (by rw [failed]; exact Option.some_ne_none fault)
    cases faults : op.faults with
    | never => exact Or.inl (by simp only [machine, failed, faults]; rfl)
    | refused =>
      exact Or.inr ⟨needs, fault.error, Or.inl (by simp only [machine, failed, faults])⟩
    | any =>
      refine Or.inr ⟨needs, fault.error, ?_⟩
      simp only [machine, failed, faults]
      split
      · exact Or.inr rfl
      · exact Or.inl rfl

/-- One effect, from what it does in every world with the same view. -/
theorem ends_perform [IsPreorder View G] (op : Op) {post : op.Answer → View → Prop}
    {raises : PyError → View → Prop}
    (each : ∀ start choice, plan.see start = plan.see world →
      G (plan.see world) (plan.see (effect deployment op choice start).2) ∧
        (∀ answer, (effect deployment op choice start).1 = .ok answer →
          post answer (plan.see (effect deployment op choice start).2)) ∧
        ∀ problem, (effect deployment op choice start).1 = .error problem →
          raises problem (plan.see (effect deployment op choice start).2)) :
    plan.Ends faulty G post raises (perform op) world := by
  refine Meets.request ?_
  rintro moved ⟨rfl⟩ choice admitted
  obtain ⟨start, seen, acted⟩ := act_seen admitted
  obtain ⟨kept, answers, problems⟩ := each start choice seen
  rcases acted with took | ⟨needs, error, refused | lost⟩
  · rw [took]
    refine ⟨kept, ?_⟩
    cases outcome : (effect deployment op choice start).1 with
    | ok answer => exact answers answer outcome
    | error problem => exact Or.inr (problems problem outcome)
  · rw [refused]
    refine ⟨?_, Or.inl needs⟩
    change G (plan.see world) (plan.see start)
    rw [seen]
    exact Std.Refl.refl _
  · rw [lost]
    exact ⟨kept, Or.inl needs⟩

/-- Sequencing. -/
theorem Ends.seq [IsPreorder View G] {α β : Type} {M : α → View → Prop} {post : β → View → Prop}
    {raises : PyError → View → Prop} {program : Action α} {next : α → Action β}
    (first : plan.Ends faulty G M raises program world)
    (rest : ∀ value end', G (plan.see world) (plan.see end') →
      M value (plan.see end') → plan.Ends faulty G post raises (next value) end') :
    plan.Ends faulty G post raises (program.bind next) world :=
  Meets.seq tracks first rest

/-- Handling. -/
theorem Ends.recover [IsPreorder View G] {α : Type} {post : α → View → Prop}
    {raises E : PyError → View → Prop}
    {program : Action α} {handler : PyError → Action α}
    (first : plan.Ends faulty G post E program world)
    (rest : ∀ problem end', G (plan.see world) (plan.see end') →
      faulty ∨ E problem (plan.see end') →
      plan.Ends faulty G post raises (handler problem) end') :
    plan.Ends faulty G post raises (program.handle handler) world :=
  Meets.recover tracks first rest

/-- Weaker conclusions, with the change that was made. -/
theorem Ends.weaken [IsPreorder View G] {α : Type} {M post : α → View → Prop}
    {raises E : PyError → View → Prop} {program : Action α}
    (first : plan.Ends faulty G M E program world)
    (values : ∀ value end', G (plan.see world) (plan.see end') →
      M value (plan.see end') → post value (plan.see end'))
    (problems : ∀ problem end', G (plan.see world) (plan.see end') →
      faulty ∨ E problem (plan.see end') → faulty ∨ raises problem (plan.see end')) :
    plan.Ends faulty G post raises program world :=
  (Meets.along tracks first).mono (fun value end' ends => values value end' ends.1 ends.2)
    fun problem end' ends => problems problem end' ends.1 ends.2

/-- A program that changes less. -/
theorem Ends.widen {α : Type} {post : α → View → Prop} {raises : PyError → View → Prop}
    {wider : View → View → Prop} {program : Action α}
    (first : plan.Ends faulty G post raises program world)
    (wide : ∀ before after, G before after → wider before after) :
    plan.Ends faulty wider post raises program world :=
  first.transfer (fun _ _ _ admitted => admitted) (fun _ _ same => same)
    fun before after moved => wide (plan.see before) (plan.see after) moved

/-- Retrying an operation that raises only after failures, from every view of `R`. -/
theorem Ends.retryCall [IsPreorder View G] {α : Type} {post : α → View → Prop}
    {operation : Action α} {R : View → Prop}
    (stays : ∀ before after, G before after → R before → R after)
    (each : ∀ start, R (plan.see start) → G (plan.see world) (plan.see start) →
      plan.Ends faulty G post never operation start)
    (start : R (plan.see world)) :
    plan.Ends faulty G post never (Cdc.retryCall deployment operation) world := by
  have whole : Meets (machine deployment)
      (.sequential (plan.admits faulty) fun before after =>
        G (plan.see before) (plan.see after))
      (fun value end' => post value (plan.see end'))
      (fun _ end' => faulty ∧ R (plan.see end') ∧ G (plan.see world) (plan.see end'))
      (Cdc.retryCall deployment operation) world := by
    refine Meets.retryCall (R := fun begin => R (plan.see begin) ∧
      G (plan.see world) (plan.see begin)) ?_
      (fun _ _ _ ends => ends.2) (fun _ _ _ _ ends => ends) ⟨start, tracks.refl world⟩
    rintro begin ⟨set, since⟩
    refine (Meets.along tracks (each begin set since)).mono (fun _ _ ends => ends.2) ?_
    rintro problem end' ⟨later, needs | no⟩
    · exact ⟨needs, stays _ _ later set, tracks.trans since later⟩
    · exact no.elim
  exact whole.mono (fun _ _ ends => ends) fun _ _ ends => Or.inl ends.1

/-- A computation that does not fail. -/
theorem Ends.ofExcept {α : Type} {post : α → View → Prop} {raises : PyError → View → Prop}
    {outcome : Except PyError α} (value : α) (computed : outcome = .ok value)
    (holds : post value (plan.see world)) :
    plan.Ends faulty G post raises (Program.ofExcept outcome) world := by
  rw [computed]
  exact holds

/-- A value. -/
theorem Ends.done {α : Type} {post : α → View → Prop} {raises : PyError → View → Prop} {value : α}
    (holds : post value (plan.see world)) :
    plan.Ends faulty G post raises (.done value) world := holds

/-- An exception after a failure. -/
theorem Ends.failed {α : Type} {post : α → View → Prop} {raises : PyError → View → Prop}
    {problem : PyError} (needs : faulty) :
    plan.Ends faulty G post raises (.raised problem) world := Or.inl needs

/-- A computation of any outcome, after a failure. -/
theorem Ends.ofExcept_failed {α : Type} {post : α → View → Prop}
    {raises : PyError → View → Prop} {outcome : Except PyError α} (needs : faulty)
    (holds : ∀ value, outcome = .ok value → post value (plan.see world)) :
    plan.Ends faulty G post raises (Program.ofExcept outcome) world :=
  Meets.ofExcept holds fun _ _ => Or.inl needs

/-- An effect that changes nothing and does not fail by itself. -/
theorem ends_observe [IsPreorder View G] (op : Op) {post : op.Answer → View → Prop}
    {raises : PyError → View → Prop}
    (still : ∀ choice start, (effect deployment op choice start).2 = start)
    (answers : ∀ start choice, plan.see start = plan.see world →
      ∃ answer, (effect deployment op choice start).1 = .ok answer ∧
        post answer (plan.see world)) :
    plan.Ends faulty G post raises (perform op) world := by
  refine ends_perform op fun start choice seen => ?_
  obtain ⟨answer, outcome, holds⟩ := answers start choice seen
  rw [still, seen]
  refine ⟨Std.Refl.refl _, ?_, ?_⟩
  · intro other same
    obtain rfl := Except.ok.inj (outcome.symm.trans same)
    exact holds
  · intro problem same
    cases outcome.symm.trans same

end Replayable

end

end Cdc
