import PaymentsPlatform.Cdc.Evidence
import PaymentsPlatform.Effects.Parallel

/-!
# Concurrent writers of the manifest

Any number of processes call the operations of `SqliteBatchManifest` on one database, and their
sessions interleave in any order. An update names the status its caller read, so a stale read
ends in an update of no row; what a session may do to a row (`RowStep`) therefore follows from
the update alone, and everything else from the steps.
-/

namespace Cdc

open Python Effects

/-! ## Rows -/

/-- The row has a checksum and an address. -/
def BatchManifestRecord.Evident (record : BatchManifestRecord) : Prop :=
  record.checksumSha256.isSome ∧ record.objectUri.isSome

/-- Two rows have the same checksum and address. -/
def SameEvidence (before after : BatchManifestRecord) : Prop :=
  after.checksumSha256 = before.checksumSha256 ∧ after.objectUri = before.objectUri

/-- What one session may do to the row of a batch. -/
inductive RowStep : Option BatchManifestRecord → Option BatchManifestRecord → Prop
  /-- Nothing. -/
  | same (row : Option BatchManifestRecord) : RowStep row row
  /-- Register the batch. -/
  | registered {record : BatchManifestRecord} (fresh : record.status = .collecting) :
      RowStep none (some record)
  /-- Note an error. -/
  | noted {before after : BatchManifestRecord} (place : after.coordinates = before.coordinates)
      (status : after.status = before.status) (evidence : SameEvidence before after) :
      RowStep (some before) (some after)
  /-- Take a transition; the one to `UPLOADED` brings the evidence. -/
  | moved {before after : BatchManifestRecord} (place : after.coordinates = before.coordinates)
      (allowed : before.status.allowed after.status = true)
      (evidence : if after.status = .uploaded then after.Evident else SameEvidence before after) :
      RowStep (some before) (some after)

/-- What any number of sessions may do to the row of a batch: it stays, with its coordinates, and
once it is durable it stays durable, with its evidence. -/
def RowLater (before after : Option BatchManifestRecord) : Prop :=
  ∀ record, before = some record → ∃ record', after = some record' ∧
    record'.coordinates = record.coordinates ∧
    (record.Durable → record'.Durable ∧ SameEvidence record record')

/-- Only uploaded and committed rows follow a durable one. -/
theorem BatchStatus.allowed_durable {before after : BatchStatus}
    (durable : before = .uploaded ∨ before = .committed) (allowed : before.allowed after = true) :
    after = .committed := by
  rcases durable with rfl | rfl
  · cases after with
    | committed => rfl
    | _ => cases allowed
  · cases after with
    | _ => cases allowed

/-- One session does no more than any number of them. -/
theorem RowStep.later {before after : Option BatchManifestRecord} (step : RowStep before after) :
    RowLater before after := by
  rintro record rfl
  cases step with
  | same => exact ⟨record, rfl, rfl, fun durable => ⟨durable, rfl, rfl⟩⟩
  | noted place status evidence =>
    refine ⟨_, rfl, place, fun durable => ⟨?_, evidence⟩⟩
    unfold BatchManifestRecord.Durable
    rw [status]
    exact durable
  | moved place allowed evidence =>
    refine ⟨_, rfl, place, fun durable => ?_⟩
    have committed := BatchStatus.allowed_durable durable allowed
    rw [if_neg (by rw [committed]; decide)] at evidence
    exact ⟨Or.inr committed, evidence⟩

/-- Durable rows have their evidence after a session if they had it before. -/
theorem RowStep.evident {before after : Option BatchManifestRecord} (step : RowStep before after)
    (sealed : ∀ record, before = some record → record.Durable → record.Evident)
    {record : BatchManifestRecord} (found : after = some record) (durable : record.Durable) :
    record.Evident := by
  cases step with
  | same => exact sealed record found durable
  | registered fresh =>
    obtain rfl := Option.some.inj found
    rw [BatchManifestRecord.Durable, fresh] at durable
    exact absurd durable (by decide)
  | noted place status evidence =>
    obtain rfl := Option.some.inj found
    rw [BatchManifestRecord.Durable, status] at durable
    have had := sealed _ rfl durable
    unfold BatchManifestRecord.Evident at had ⊢
    rw [evidence.1, evidence.2]
    exact had
  | @moved before after place allowed evidence =>
    obtain rfl := Option.some.inj found
    split at evidence
    · exact evidence
    · rename_i other
      have committed : after.status = .committed := durable.resolve_left other
      -- only an uploaded row can be committed
      have uploaded : before.status = .uploaded := by
        rw [committed] at allowed
        cases status : before.status with
        | uploaded => rfl
        | _ =>
          rw [status] at allowed
          cases allowed
      have had := sealed before rfl (Or.inl uploaded)
      unfold BatchManifestRecord.Evident at had ⊢
      rw [evidence.1, evidence.2]
      exact had

/-! ## Worlds -/

/-- What one session may do to the manifest. -/
def ManifestStep (before after : World) : Prop :=
  ∀ batchId, RowStep (before.manifest.get batchId) (after.manifest.get batchId)

/-- What any number of sessions may do to the manifest. -/
def ManifestLater (before after : World) : Prop :=
  ∀ batchId, RowLater (before.manifest.get batchId) (after.manifest.get batchId)

/-- The same manifest. -/
theorem ManifestStep.of_same {before after : World} (same : after.manifest = before.manifest) :
    ManifestStep before after := by
  intro batchId
  rw [same]
  exact .same _

/-- Sessions add up. -/
theorem manifest_tracks : Tracks ManifestStep ManifestLater where
  refl world batchId record found := ⟨record, found, rfl, fun durable => ⟨durable, rfl, rfl⟩⟩
  trans one two := by
    intro batchId record found
    obtain ⟨second, found', place, kept⟩ := one batchId record found
    obtain ⟨third, found'', place', kept'⟩ := two batchId second found'
    refine ⟨third, found'', place'.trans place, fun durable => ?_⟩
    obtain ⟨durable', evidence⟩ := kept durable
    obtain ⟨durable'', evidence'⟩ := kept' durable'
    exact ⟨durable'', evidence'.1.trans evidence.1, evidence'.2.trans evidence.2⟩
  step step batchId := (step batchId).later

/-- The row of a batch stays. -/
theorem ManifestLater.isSome {before after : World} (later : ManifestLater before after)
    {batchId : PyStr} (present : (before.manifest.get batchId).isSome) :
    (after.manifest.get batchId).isSome := by
  obtain ⟨record, found⟩ := Option.isSome_iff_exists.mp present
  obtain ⟨record', found', -⟩ := later batchId record found
  rw [found']
  rfl

/-- A transition of a row: the assignments take a transition from the status they expect. -/
theorem updateWhere_moved {table after : ManifestTable} {batchId : PyStr} {status : BatchStatus}
    {assignments : List Assignment} {count : Nat}
    (row : ∀ record : BatchManifestRecord, record.status = status →
      RowStep (some record) (some (assign assignments record)))
    (updated : updateWhere table batchId status assignments = (count, after)) (wanted : PyStr) :
    RowStep (table.get wanted) (after.get wanted) := by
  rcases updateWhere_spec updated with ⟨-, rfl⟩ | ⟨record, found, expected, -, gets⟩
  · exact .same _
  · rw [gets wanted]
    split
    · rename_i here
      rw [here, found]
      exact row record expected
    · exact .same _

/-! ## Programs -/

/-- The conditions of a process: any failure of a session, and any sessions of the others. -/
def writers : Contract signature World Choice := ⟨fun _ _ _ => True, ManifestLater, ManifestStep⟩

/-- The same conditions for a process none of whose sessions fails. -/
def unfailing : Contract signature World Choice :=
  { writers with admits := fun _ choice _ => choice.fault = none }

section

variable (deployment : Deployment)

/-- Every session of the program does to a row what a session may do. -/
def Writes {α : Type} (program : Action α) : Prop :=
  ∀ world, Meets (machine deployment) writers (fun _ _ => True) (fun _ _ => True) program world

/-- The program changes the manifest and then cannot raise, or does not change it. -/
def Atomic {α : Type} (program : Action α) : Prop :=
  ∀ world, AllOrNothing (machine deployment) unfailing World.manifest program world

variable {deployment}

/-- One session. -/
theorem writes_perform {op : Op}
    (each : ∀ choice start, ManifestStep start (effect deployment op choice start).2) :
    Writes deployment (perform op) := by
  intro world
  refine Meets.request ?_
  rintro moved - choice -
  obtain ⟨start, published, acted⟩ := act_cases deployment op choice moved
  obtain ⟨objects, rfl⟩ := published.same
  have step := each choice { moved with objects }
  rcases acted with took | ⟨fault, -, refused | lost⟩
  · rw [took]
    refine ⟨step, ?_⟩
    split <;> trivial
  · rw [refused]
    exact ⟨.of_same rfl, trivial⟩
  · rw [lost]
    exact ⟨step, trivial⟩

/-- Sequencing. -/
theorem Writes.bind {α β : Type} {program : Action α} {next : α → Action β}
    (first : Writes deployment program) (rest : ∀ value, Writes deployment (next value)) :
    Writes deployment (program.bind next) := by
  intro world
  exact Meets.bind ((first world).mono (fun value after _ => rest value after) fun _ _ ends => ends)

/-- `_require` reads. -/
theorem writes_requireRow (batchId : PyStr) : Writes deployment (requireRow batchId) := by
  refine Writes.bind (writes_perform fun _ _ => .of_same rfl) ?_
  rintro (_ | record) world
  · trivial
  · trivial

/-- An allowed transition. -/
theorem writes_transition {batchId : PyStr} {target : BatchStatus} {updates : List Assignment}
    (row : ∀ record : BatchManifestRecord, record.status.allowed target = true →
      RowStep (some record) (some (assign (.status target :: updates) record))) :
    Writes deployment (transition batchId target updates) := by
  refine Writes.bind (writes_requireRow batchId) ?_
  intro current
  split
  · rename_i allowed
    refine Writes.bind (writes_perform ?_) ?_
    · intro choice start wanted
      have moves : ∀ record : BatchManifestRecord, record.status = current.status →
          RowStep (some record) (some (assign (.status target :: updates) record)) :=
        fun record expected => row record (expected ▸ allowed)
      exact updateWhere_moved moves rfl wanted
    · intro count
      split
      · exact writes_requireRow batchId
      · exact fun _ => trivial
  · exact fun _ => trivial

/-- The clock is read. -/
theorem writes_now {β : Type} {next : Instant → Action β}
    (rest : ∀ now, Writes deployment (next now)) :
    Writes deployment ((perform .now).bind next) :=
  Writes.bind (writes_perform fun _ _ => .of_same rfl) rest

/-- Columns no transition other than the one to `UPLOADED` sets. -/
def Assignment.evidential : Assignment → Bool
  | .checksumSha256 _ | .objectUri _ => true
  | _ => false

/-- Assignments of other columns keep the evidence. -/
theorem assign_evidence {assignments : List Assignment}
    (other : ∀ assignment ∈ assignments, assignment.evidential = false)
    (record : BatchManifestRecord) : SameEvidence record (assign assignments record) := by
  unfold assign
  induction assignments generalizing record with
  | nil => exact ⟨rfl, rfl⟩
  | cons assignment assignments ih =>
    rw [List.foldl_cons]
    have rest := ih (fun later member => other later (List.mem_cons_of_mem _ member))
      (assignment.apply record)
    have here := other assignment (List.mem_cons_self ..)
    cases assignment with
    | checksumSha256 value => cases here
    | objectUri value => cases here
    | _ => exact rest

/-- Assignments of other columns than the status keep it. -/
theorem assign_status {assignments : List Assignment}
    (other : ∀ assignment ∈ assignments, ∀ status, assignment ≠ .status status)
    (record : BatchManifestRecord) : (assign assignments record).status = record.status := by
  unfold assign
  induction assignments generalizing record with
  | nil => rfl
  | cons assignment assignments ih =>
    rw [List.foldl_cons]
    have rest := ih (fun later member => other later (List.mem_cons_of_mem _ member))
      (assignment.apply record)
    have here := other assignment (List.mem_cons_self ..)
    cases assignment with
    | status value => exact absurd rfl (here value)
    | _ => exact rest

/-- A transition to another status than `UPLOADED`. -/
theorem moved_plainly {target : BatchStatus} {updates : List Assignment}
    (elsewhere : target ≠ .uploaded)
    (still : ∀ assignment ∈ updates, ∀ status, assignment ≠ .status status)
    (other : ∀ assignment ∈ updates, assignment.evidential = false)
    (record : BatchManifestRecord) (allowed : record.status.allowed target = true) :
    RowStep (some record) (some (assign (.status target :: updates) record)) := by
  have status : (assign (.status target :: updates) record).status = target :=
    assign_status still { record with status := target }
  refine .moved (assign_identity _ record).2.1 ?_ ?_
  · rw [status]
    exact allowed
  · rw [if_neg (by rw [status]; exact elsewhere)]
    exact assign_evidence other { record with status := target }

variable {batchId : PyStr}

/-- `mark_serializing`. -/
theorem writes_markSerializing : Writes deployment (markSerializing batchId) := by
  refine Writes.bind (writes_requireRow batchId) fun current => ?_
  split
  · exact fun _ => trivial
  · exact writes_transition (moved_plainly (by decide) (by simp) (by simp))

/-- `mark_uploading`. -/
theorem writes_markUploading : Writes deployment (markUploading batchId) := by
  refine Writes.bind (writes_requireRow batchId) fun current => ?_
  split
  · exact fun _ => trivial
  · refine writes_now fun now => ?_
    exact writes_transition (moved_plainly (by decide) (by simp) (by simp [Assignment.evidential]))

/-- `mark_uploaded`. -/
theorem writes_markUploaded {checksum uri : PyStr} :
    Writes deployment (markUploaded batchId checksum uri) := by
  unfold markUploaded
  split
  · exact fun _ => trivial
  refine Writes.bind (writes_requireRow batchId) fun current => ?_
  split
  · split
    · exact fun _ => trivial
    · exact fun _ => trivial
  · refine writes_now fun now => writes_transition fun record allowed => ?_
    exact .moved (assign_identity _ record).2.1 allowed (by exact ⟨rfl, rfl⟩)

/-- `mark_committed`. -/
theorem writes_markCommitted : Writes deployment (markCommitted batchId) := by
  refine Writes.bind (writes_requireRow batchId) fun current => ?_
  split
  · exact fun _ => trivial
  · refine writes_now fun now => ?_
    exact writes_transition (moved_plainly (by decide) (by simp) (by simp [Assignment.evidential]))

/-- `note_retryable_error`. -/
theorem writes_noteRetryableError {errorCode errorMessage : PyStr} :
    Writes deployment (noteRetryableError batchId errorCode errorMessage) := by
  refine Writes.bind (writes_requireRow batchId) fun current => ?_
  refine Writes.bind (writes_perform ?_) fun _ => writes_requireRow batchId
  intro choice start wanted
  have notes : ∀ record : BatchManifestRecord, record.status = current.status →
      RowStep (some record) (some (assign [.errorCode (some errorCode),
        .errorMessage (some (safeError errorMessage)), .retryCount (current.retryCount + 1)]
        record)) := fun record _ => .noted rfl rfl ⟨rfl, rfl⟩
  exact updateWhere_moved notes rfl wanted

/-- `mark_failed`. -/
theorem writes_markFailed {errorCode errorMessage : PyStr} :
    Writes deployment (markFailed batchId errorCode errorMessage) := by
  refine Writes.bind (writes_requireRow batchId) fun current => ?_
  split
  · exact fun _ => trivial
  split
  · exact writes_noteRetryableError
  · exact writes_transition (moved_plainly (by decide) (by simp) (by simp [Assignment.evidential]))

/-- `register`. -/
theorem writes_registerRow {batch : CdcBatch} {group : PyStr} {now : Instant} :
    Writes deployment (perform (.registerRow batch group now)) := by
  refine writes_perform fun choice start wanted => ?_
  obtain ⟨stay, come, -⟩ := register_spec start.manifest batch group now
  have after : (effect deployment (.registerRow batch group now) choice start).2.manifest =
      (register start.manifest batch group now).2 := rfl
  rw [after]
  cases found : start.manifest.get wanted with
  | some record =>
    rw [stay wanted record found]
    exact .same _
  | none =>
    cases found' : (register start.manifest batch group now).2.get wanted with
    | none => exact .same _
    | some record =>
      rcases come wanted record found' with held | ⟨fresh, -⟩
      · rw [found] at held
        cases held
      · rw [fresh]
        exact .registered rfl

/-! ## All or nothing -/

/-- An effect that does not fail takes place, the manifest as it was. -/
theorem act_unfailing {op : Op} {choice : Choice} {world : World} (fine : choice.fault = none) :
    ∃ start, start.manifest = world.manifest ∧
      (machine deployment).act op choice world = effect deployment op choice start := by
  obtain ⟨start, published, acted⟩ := act_cases deployment op choice world
  obtain ⟨objects, rfl⟩ := published.same
  refine ⟨{ world with objects }, rfl, ?_⟩
  rcases acted with took | ⟨fault, failed, -⟩
  · exact took
  · rw [fine] at failed
    cases failed

/-- A session that only reads. -/
theorem reads_perform {op : Op} {post : op.Answer → World → Prop} {world : World}
    (still : ∀ choice start, (effect deployment op choice start).2.manifest = start.manifest)
    (every : ∀ answer after, post answer after) :
    Meets (machine deployment)
      { unfailing with guarantee := fun before after => after.manifest = before.manifest } post
      (fun _ _ => True) (perform op) world := by
  refine Meets.request ?_
  intro moved others choice fine
  obtain ⟨start, same, acted⟩ := act_unfailing fine
  rw [acted]
  refine ⟨(still choice start).trans same, ?_⟩
  split
  · exact every _ _
  · trivial

/-- A program that reads first. -/
theorem Atomic.observe {β : Type} {op : Op} {next : op.Answer → Action β}
    (still : ∀ choice start, (effect deployment op choice start).2.manifest = start.manifest)
    (rest : ∀ answer, Atomic deployment (next answer)) :
    Atomic deployment ((perform op).bind next) :=
  fun _ => AllOrNothing.after (reads_perform still fun answer after => rest answer after)

/-- `_require`. -/
theorem atomic_requireRow : Atomic deployment (requireRow batchId) := by
  refine Atomic.observe (fun _ _ => rfl) ?_
  rintro (_ | record) world
  · trivial
  · trivial

/-- A program that reads the row of a batch first. -/
theorem Atomic.afterRow {β : Type} {next : BatchManifestRecord → Action β}
    (rest : ∀ current, Atomic deployment (next current)) :
    Atomic deployment ((requireRow batchId).bind next) := by
  intro world
  refine AllOrNothing.after (Meets.bind (reads_perform (fun _ _ => rfl) ?_))
  rintro (_ | record) after
  · trivial
  · exact rest record after

/-- Reading a row that is there does not raise. -/
theorem requireRow_present {world : World} (present : (world.manifest.get batchId).isSome) :
    Meets (machine deployment) unfailing (fun _ _ => True) (fun _ _ => False)
      (requireRow batchId) world := by
  refine Meets.bind (Meets.request ?_)
  intro moved others choice fine
  have here := ManifestLater.isSome others present
  obtain ⟨start, same, acted⟩ := act_unfailing fine
  rw [acted]
  refine ⟨.of_same same, ?_⟩
  simp only [effect]
  rw [same]
  split
  · rename_i missing
    rw [missing] at here
    cases here
  · trivial

/-- An update changes nothing, or what follows finds the row. -/
theorem Atomic.afterUpdate {β : Type} {status : BatchStatus} {assignments : List Assignment}
    {next : Nat → Action β}
    (missed : Atomic deployment (next 0))
    (hit : ∀ world : World, (world.manifest.get batchId).isSome →
      Meets (machine deployment) unfailing (fun _ _ => True) (fun _ _ => False) (next 1) world) :
    Atomic deployment ((perform (.updateRow batchId status assignments)).bind next) := by
  intro world
  refine AllOrNothing.request ?_
  intro moved others choice fine
  obtain ⟨start, same, acted⟩ := act_unfailing fine
  rw [acted]
  simp only [effect]
  cases updated : updateWhere start.manifest batchId status assignments with
  | mk count after =>
    rcases updateWhere_spec updated with ⟨rfl, rfl⟩ | ⟨record, found, -, rfl, gets⟩
    · exact Or.inl ⟨same, missed _⟩
    · refine Or.inr (hit _ ?_)
      simp only
      rw [gets, if_pos rfl]
      rfl

/-- A transition. -/
theorem atomic_transition {target : BatchStatus} {updates : List Assignment} :
    Atomic deployment (transition batchId target updates) := by
  refine Atomic.afterRow fun current => ?_
  split
  · exact Atomic.afterUpdate (fun _ => trivial) fun _ present => requireRow_present present
  · exact fun _ => trivial

/-- `note_retryable_error`. -/
theorem atomic_noteRetryableError {errorCode errorMessage : PyStr} :
    Atomic deployment (noteRetryableError batchId errorCode errorMessage) := by
  refine Atomic.afterRow fun current => ?_
  exact Atomic.afterUpdate atomic_requireRow fun _ present => requireRow_present present

/-- `mark_serializing`. -/
theorem atomic_markSerializing : Atomic deployment (markSerializing batchId) := by
  refine Atomic.afterRow fun current => ?_
  split
  · exact fun _ => trivial
  · exact atomic_transition

/-- `mark_uploading`. -/
theorem atomic_markUploading : Atomic deployment (markUploading batchId) := by
  refine Atomic.afterRow fun current => ?_
  split
  · exact fun _ => trivial
  · exact Atomic.observe (fun _ _ => rfl) fun now => atomic_transition

/-- `mark_uploaded`. -/
theorem atomic_markUploaded {checksum uri : PyStr} :
    Atomic deployment (markUploaded batchId checksum uri) := by
  unfold markUploaded
  split
  · exact fun _ => trivial
  refine Atomic.afterRow fun current => ?_
  split
  · split
    · exact fun _ => trivial
    · exact fun _ => trivial
  · exact Atomic.observe (fun _ _ => rfl) fun now => atomic_transition

/-- `mark_committed`. -/
theorem atomic_markCommitted : Atomic deployment (markCommitted batchId) := by
  refine Atomic.afterRow fun current => ?_
  split
  · exact fun _ => trivial
  · exact Atomic.observe (fun _ _ => rfl) fun now => atomic_transition

/-- `mark_failed`. -/
theorem atomic_markFailed {errorCode errorMessage : PyStr} :
    Atomic deployment (markFailed batchId errorCode errorMessage) := by
  refine Atomic.afterRow fun current => ?_
  split
  · exact fun _ => trivial
  split
  · exact atomic_noteRetryableError
  · exact atomic_transition

/-- A registration that fails has left the table as it was. -/
theorem register_failed {table : ManifestTable} {batch : CdcBatch} {group : PyStr} {now : Instant}
    {problem : PyError} (failed : (register table batch group now).1 = .error problem) :
    (register table batch group now).2 = table := by
  generalize registered : register table batch group now = result at failed ⊢
  obtain ⟨outcome, after⟩ := result
  subst failed
  unfold register at registered
  split at registered
  · split at registered
    · cases (Prod.mk.inj registered).1
    · exact (Prod.mk.inj registered).2.symm
  split at registered
  · exact (Prod.mk.inj registered).2.symm
  split at registered
  · exact (Prod.mk.inj registered).2.symm
  · cases (Prod.mk.inj registered).1

/-- `register`. -/
theorem atomic_registerRow {batch : CdcBatch} {group : PyStr} {now : Instant} :
    Atomic deployment (perform (.registerRow batch group now)) := by
  intro world
  refine AllOrNothing.last ?_
  intro moved others choice fine problem
  obtain ⟨start, same, acted⟩ := act_unfailing fine
  rw [acted]
  intro failed
  exact (register_failed failed).trans same

end

/-! ## Histories -/

/-- A call of an operation of the manifest. -/
inductive ManifestCall
  | register (batch : CdcBatch) (consumerGroup : PyStr)
  | markSerializing (batchId : PyStr)
  | markUploading (batchId : PyStr)
  | markUploaded (batchId checksum uri : PyStr)
  | markCommitted (batchId : PyStr)
  | markFailed (batchId errorCode errorMessage : PyStr)
  | noteRetryableError (batchId errorCode errorMessage : PyStr)

/-- The sessions of a call. -/
def ManifestCall.code : ManifestCall → Action BatchManifestRecord
  | .register batch consumerGroup =>
    (perform .now).bind fun now => perform (.registerRow batch consumerGroup now)
  | .markSerializing batchId => Cdc.markSerializing batchId
  | .markUploading batchId => Cdc.markUploading batchId
  | .markUploaded batchId checksum uri => Cdc.markUploaded batchId checksum uri
  | .markCommitted batchId => Cdc.markCommitted batchId
  | .markFailed batchId errorCode errorMessage => Cdc.markFailed batchId errorCode errorMessage
  | .noteRetryableError batchId errorCode errorMessage =>
    Cdc.noteRetryableError batchId errorCode errorMessage

/-- The processes that call the manifest. No session waits for another one. -/
def manifestWriters (deployment : Deployment) (Party : Type) :
    Parallel signature PyError BatchManifestRecord World Choice Party ManifestCall :=
  ⟨machine deployment, fun _ _ _ => true, fun _ => ManifestCall.code⟩

/-- Every call does what a session may do. -/
theorem writes_call {deployment : Deployment} (call : ManifestCall) :
    Writes deployment call.code := by
  cases call with
  | register batch group => exact writes_now fun now => writes_registerRow
  | markSerializing batchId => exact writes_markSerializing
  | markUploading batchId => exact writes_markUploading
  | markUploaded batchId checksum uri => exact writes_markUploaded
  | markCommitted batchId => exact writes_markCommitted
  | markFailed batchId errorCode errorMessage => exact writes_markFailed
  | noteRetryableError batchId errorCode errorMessage => exact writes_noteRetryableError

/-- Every call changes all or nothing. -/
theorem atomic_call {deployment : Deployment} (call : ManifestCall) :
    Atomic deployment call.code := by
  cases call with
  | register batch group => exact Atomic.observe (fun _ _ => rfl) fun now => atomic_registerRow
  | markSerializing batchId => exact atomic_markSerializing
  | markUploading batchId => exact atomic_markUploading
  | markUploaded batchId checksum uri => exact atomic_markUploaded
  | markCommitted batchId => exact atomic_markCommitted
  | markFailed batchId errorCode errorMessage => exact atomic_markFailed
  | noteRetryableError batchId errorCode errorMessage => exact atomic_noteRetryableError

/-- The statuses a batch has in the worlds where it is registered. -/
def statuses (batchId : PyStr) (worlds : List World) : List BatchStatus :=
  worlds.filterMap fun world => (world.manifest.get batchId).map BatchManifestRecord.status

/-- The status history of a batch: each status it takes, once until the next one. -/
def statusHistory (batchId : PyStr) (worlds : List World) : List BatchStatus :=
  (statuses batchId worlds).destutter (· ≠ ·)

/-- A path of `_ALLOWED_TRANSITIONS` from `COLLECTING`. -/
def LifecyclePath (history : List BatchStatus) : Prop :=
  (∀ status ∈ history.head?, status = .collecting) ∧
    history.IsChain fun before after => before.allowed after = true

/-- Along sessions a status stays or takes a transition. -/
theorem statuses_chain (batchId : PyStr) {worlds : List World}
    (chain : worlds.IsChain ManifestStep) :
    (statuses batchId worlds).IsChain
      fun before after => after = before ∨ before.allowed after = true := by
  induction worlds with
  | nil => exact List.IsChain.nil
  | cons world worlds ih =>
    have rest := ih chain.tail
    unfold statuses at rest ⊢
    cases found : world.manifest.get batchId with
    | none =>
      rw [List.filterMap_cons_none (by rw [found]; rfl)]
      exact rest
    | some record =>
      rw [List.filterMap_cons_some (by rw [found]; rfl)]
      cases worlds with
      | nil => exact List.isChain_singleton _
      | cons following worlds =>
        have step := (List.isChain_cons_cons.mp chain).1 batchId
        rw [found] at step
        obtain ⟨record', found', -⟩ := step.later record rfl
        rw [List.filterMap_cons_some (by rw [found']; rfl)] at rest ⊢
        refine List.isChain_cons_cons.mpr ⟨?_, rest⟩
        rw [found'] at step
        cases step with
        | same => exact Or.inl rfl
        | noted place status evidence => exact Or.inl status
        | moved place allowed evidence => exact Or.inr allowed

/-- A batch that is not registered at first starts at `COLLECTING`. -/
theorem statuses_head (batchId : PyStr) {world : World} {worlds : List World}
    (chain : (world :: worlds).IsChain ManifestStep) (absent : world.manifest.get batchId = none) :
    ∀ status ∈ (statuses batchId (world :: worlds)).head?, status = .collecting := by
  induction worlds generalizing world with
  | nil =>
    unfold statuses
    rw [List.filterMap_cons_none (by rw [absent]; rfl)]
    intro status member
    cases member
  | cons following worlds ih =>
    obtain ⟨step, rest⟩ := List.isChain_cons_cons.mp chain
    have here := step batchId
    unfold statuses
    rw [List.filterMap_cons_none (by rw [absent]; rfl)]
    rw [absent] at here
    cases found : following.manifest.get batchId with
    | none => exact ih rest found
    | some record =>
      rw [List.filterMap_cons_some (by rw [found]; rfl)]
      rw [found] at here
      intro status member
      obtain rfl := Option.some.inj member
      cases here with
      | registered fresh => exact fresh

/-- A list in which each element stays or is followed by a related one, without its
repetitions. -/
theorem isChain_destutter_ne {α : Type} [DecidableEq α] {R : α → α → Prop} {list : List α}
    (chain : list.IsChain fun before after => after = before ∨ R before after) :
    (list.destutter (· ≠ ·)).IsChain R ∧ (list.destutter (· ≠ ·)).head? = list.head? := by
  cases list with
  | nil => exact ⟨List.IsChain.nil, rfl⟩
  | cons first list =>
    rw [List.destutter_cons']
    induction list generalizing first with
    | nil => exact ⟨List.isChain_singleton _, rfl⟩
    | cons second list ih =>
      obtain ⟨here, rest⟩ := List.isChain_cons_cons.mp chain
      rw [List.destutter'_cons]
      split
      · rename_i different
        obtain ⟨path, head⟩ := ih second rest
        refine ⟨?_, rfl⟩
        cases tail : list.destutter' (· ≠ ·) second with
        | nil => exact List.isChain_singleton _
        | cons start others =>
          rw [tail] at path head
          obtain rfl : start = second := Option.some.inj head
          exact List.isChain_cons_cons.mpr ⟨here.resolve_left (Ne.symm different), path⟩
      · rename_i same
        rw [not_not] at same
        rw [← same] at rest
        exact ih first rest

section

variable {Party : Type} [DecidableEq Party]

/-- Idle processes and an empty manifest. -/
def unregistered (world : World) :
    (Party → Option (Action BatchManifestRecord)) × World :=
  (fun _ => none, { world with manifest := .empty })

/-- The row of a batch after some events. -/
def rowAfter (deployment : Deployment) (world : World)
    (events : List (Party × Event ManifestCall Choice)) (batchId : PyStr) :
    Option BatchManifestRecord :=
  ((manifestWriters deployment Party).run events (unregistered world)).2.manifest.get batchId

/-- What the manifest keeps under concurrent calls. -/
structure SafeManifest (deployment : Deployment) (world : World)
    (events : List (Party × Event ManifestCall Choice)) : Prop where
  /-- The status history of a batch is a path of `_ALLOWED_TRANSITIONS` from `COLLECTING`. -/
  path : ∀ batchId, LifecyclePath (statusHistory batchId
    ((manifestWriters deployment Party).moments events (unregistered world)))
  /-- A batch that is registered stays registered, with its coordinates. -/
  coordinates : ∀ earlier later batchId record, events = earlier ++ later →
    rowAfter deployment world earlier batchId = some record →
    ∃ record', rowAfter deployment world events batchId = some record' ∧
      record'.coordinates = record.coordinates
  /-- From the first moment it is uploaded its checksum and its address are set, and stay. -/
  evidence : ∀ earlier later batchId record, events = earlier ++ later →
    rowAfter deployment world earlier batchId = some record → record.Durable →
    ∃ checksum uri record', record.checksumSha256 = some checksum ∧
      record.objectUri = some uri ∧ rowAfter deployment world events batchId = some record' ∧
      record'.Durable ∧ record'.checksumSha256 = some checksum ∧ record'.objectUri = some uri
  /-- A call whose sessions did not fail and that raises has not changed the manifest in any of
  its sessions. -/
  failures : ∀ earlier party call during problem,
    events = earlier ++ (party, .start call) :: during →
    (∀ call', (party, .start call') ∉ during) →
    (∀ choice, (party, .step choice) ∈ during → choice.fault = none) →
    ((manifestWriters deployment Party).run events (unregistered world)).1 party =
      some (.raised problem) →
    ∀ first choice rest, during = first ++ (party, .step choice) :: rest →
      ((manifestWriters deployment Party).run (earlier ++ (party, .start call) :: first ++
        [(party, .step choice)]) (unregistered world)).2.manifest =
      ((manifestWriters deployment Party).run (earlier ++ (party, .start call) :: first)
        (unregistered world)).2.manifest

variable (deployment : Deployment) (world : World)
  (events : List (Party × Event ManifestCall Choice))

omit [DecidableEq Party] in
/-- The processes may rely on each other's sessions. -/
theorem writers_compatible :
    Compatible (fun _ : Party => writers) fun _ => True where
  refl _ := manifest_tracks.refl
  trans _ := manifest_tracks.trans
  others _ step := manifest_tracks.step step
  kept _ := fun _ _ => trivial

/-- Every program of every process keeps its contract at every moment. -/
theorem writers_standing :
    (manifestWriters deployment Party).Standing (fun _ => writers) (fun _ => True)
      ((manifestWriters deployment Party).run events (unregistered world)) :=
  (manifestWriters deployment Party).standing_run writers_compatible
    (fun _ _ _ _ _ _ => trivial) (fun _ call world _ => writes_call call world) events
    ((manifestWriters deployment Party).standing_idle trivial)

/-- The moments follow each other by sessions. -/
theorem writers_chain :
    ((manifestWriters deployment Party).moments events (unregistered world)).IsChain
      ManifestStep := by
  refine ((manifestWriters deployment Party).chain writers_compatible
    (fun _ _ _ _ _ _ => trivial) (fun _ call world _ => writes_call call world) events
    ((manifestWriters deployment Party).standing_idle trivial)).imp ?_
  rintro before after (same | ⟨-, step⟩)
  · rw [same]
    exact .of_same rfl
  · exact step

/-- The manifest after more events is a later one. -/
theorem writers_later (more : List (Party × Event ManifestCall Choice)) :
    ManifestLater ((manifestWriters deployment Party).run events (unregistered world)).2
      ((manifestWriters deployment Party).run (events ++ more) (unregistered world)).2 := by
  have tracks : Tracks (fun before after => ∃ _ : Party, ManifestStep before after)
      ManifestLater :=
    ⟨manifest_tracks.refl, manifest_tracks.trans, fun ⟨_, step⟩ => manifest_tracks.step step⟩
  rw [Parallel.run_append]
  exact (manifestWriters deployment Party).later_run writers_compatible
    (fun _ _ _ _ _ _ => trivial) (fun _ call world _ => writes_call call world) tracks more
    (writers_standing deployment world events)

/-- Durable rows have their evidence. -/
theorem writers_evident {batchId : PyStr} {record : BatchManifestRecord}
    (found : rowAfter deployment world events batchId = some record) (durable : record.Durable) :
    record.Evident := by
  unfold rowAfter at found
  induction events using List.reverseRecOn generalizing record with
  | nil => cases found
  | append_singleton events event ih =>
    have standing := writers_standing deployment world events
    obtain ⟨-, moved⟩ := (manifestWriters deployment Party).standing_handle writers_compatible
      (fun _ _ _ _ _ _ => trivial) (fun _ call world _ => writes_call call world) event standing
    rw [Parallel.run_append] at found
    rcases moved with same | step
    · rw [Parallel.run_cons, Parallel.run_nil, same] at found
      exact ih found durable
    · exact (step batchId).evident (fun earlier here => ih here) found durable

/-- The manifest is safe under concurrent writers: under every interleaving of the sessions of any
number of processes, every batch follows its lifecycle, keeps its coordinates and its evidence,
and a call that raises has changed nothing. -/
theorem manifest_safe_under_writers : SafeManifest deployment world events where
  path batchId := by
    have chain := writers_chain deployment world events
    obtain ⟨path, head⟩ := isChain_destutter_ne (statuses_chain batchId chain)
    refine ⟨?_, path⟩
    unfold statusHistory
    rw [head]
    cases events with
    | nil => exact statuses_head batchId chain rfl
    | cons event events => exact statuses_head batchId chain rfl
  coordinates earlier later batchId record parts found := by
    have after := writers_later deployment world earlier later batchId record found
    rw [← parts] at after
    obtain ⟨record', found', place, -⟩ := after
    exact ⟨record', found', place⟩
  evidence earlier later batchId record parts found durable := by
    have after := writers_later deployment world earlier later batchId record found
    rw [← parts] at after
    obtain ⟨record', found', -, kept⟩ := after
    obtain ⟨durable', checksums, addresses⟩ := kept durable
    obtain ⟨checked, addressed⟩ := writers_evident deployment world earlier found durable
    obtain ⟨checksum, checked⟩ := Option.isSome_iff_exists.mp checked
    obtain ⟨uri, addressed⟩ := Option.isSome_iff_exists.mp addressed
    exact ⟨checksum, uri, record', checked, addressed, found', durable', checksums.trans checked,
      addresses.trans addressed⟩
  failures earlier party call during problem parts going fine ended first choice rest split := by
    have standing := writers_standing deployment world (earlier ++ [(party, .start call)])
    have whole : events = (earlier ++ [(party, .start call)]) ++ during := by
      rw [parts, List.append_assoc]
      rfl
    rw [whole, Parallel.run_append] at ended
    have running : ((manifestWriters deployment Party).run (earlier ++ [(party, .start call)])
        (unregistered world)).1 party = some call.code := by
      rw [Parallel.run_append]
      exact Function.update_self ..
    have relies : unfailing.rely = writers.rely := rfl
    have still := (manifestWriters deployment Party).unchanged_of_raised writers_compatible
      (fun _ _ _ _ _ _ => trivial) (fun _ call world _ => writes_call call world) relies during
      standing going (fun choice member op world _ => fine choice member) running
      ⟨_, manifest_tracks.refl _, atomic_call call _⟩ ended first rest choice split
    rw [← Parallel.run_append, ← Parallel.run_append] at still
    simpa using still

end

end Cdc
