import PaymentsPlatform.Cdc.Models
import PaymentsPlatform.Relational.Table

/-!
# The batch manifest

The table `cdc_batch_manifest` and the statements that read and change it. A statement runs
in one SQLite session and is atomic. Text columns that hold a timestamp are written by
`utc_isoformat` and read by `datetime.fromisoformat` only, which are inverse
(`Python.parseTimestamp_utcIso`), so a row holds the instants themselves.
-/

namespace Cdc

open Python Relational

/-- A row of `cdc_batch_manifest`. -/
structure BatchManifestRecord where
  /-- Primary key. -/
  batchId : PyStr
  /-- The consumer group that registered the range. -/
  consumerGroup : PyStr
  /-- The topic. -/
  topic : PyStr
  /-- The partition number. -/
  partition : Int
  /-- First offset. -/
  offsetStart : Int
  /-- Last offset. -/
  offsetEnd : Int
  /-- Lifecycle. -/
  status : BatchStatus
  /-- Number of events. -/
  recordCount : Nat
  /-- Version of the Bronze contract. -/
  schemaVersion : PyStr
  /-- Digest of the uploaded object. -/
  checksumSha256 : Option PyStr
  /-- Where the object is. -/
  objectUri : Option PyStr
  /-- Registration. -/
  createdAt : Instant
  /-- First upload attempt. -/
  uploadStartedAt : Option Instant
  /-- Upload. -/
  uploadedAt : Option Instant
  /-- Commit. -/
  committedAt : Option Instant
  /-- Class of the last error. -/
  errorCode : Option PyStr
  /-- Text of the last error. -/
  errorMessage : Option PyStr
  /-- Failed attempts. -/
  retryCount : Nat
deriving DecidableEq

namespace BatchManifestRecord

/-- The partition of a row. -/
def topicPartition (record : BatchManifestRecord) : TopicPartitionKey :=
  ⟨record.topic, record.partition⟩

/-- The columns `register` compares with the batch. -/
def coordinates (record : BatchManifestRecord) :
    PyStr × PyStr × Int × Int × Int × Nat × PyStr :=
  (record.consumerGroup, record.topic, record.partition, record.offsetStart, record.offsetEnd,
    record.recordCount, record.schemaVersion)

/-- The object of the row is durable. -/
def Durable (record : BatchManifestRecord) : Prop :=
  record.status = .uploaded ∨ record.status = .committed

instance (record : BatchManifestRecord) : Decidable record.Durable :=
  inferInstanceAs (Decidable (_ ∨ _))

end BatchManifestRecord

/-- The columns of the row of a batch. -/
def CdcBatch.coordinates (batch : CdcBatch) (consumerGroup : PyStr) :
    PyStr × PyStr × Int × Int × Int × Nat × PyStr :=
  (consumerGroup, batch.topic, batch.partition, batch.offsetStart, batch.offsetEnd,
    batch.recordCount, batch.schemaVersion)

/-- `_ALLOWED_TRANSITIONS`. -/
def BatchStatus.allowed : BatchStatus → BatchStatus → Bool
  | .collecting, .serializing | .collecting, .failed => true
  | .serializing, .uploading | .serializing, .failed => true
  | .uploading, .uploaded | .uploading, .failed => true
  | .uploaded, .committed => true
  | .failed, .serializing => true
  | _, _ => false

/-- `status.value`. -/
def BatchStatus.value : BatchStatus → PyStr
  | .collecting => "COLLECTING"
  | .serializing => "SERIALIZING"
  | .uploading => "UPLOADING"
  | .uploaded => "UPLOADED"
  | .committed => "COMMITTED"
  | .failed => "FAILED"

/-- One assignment of an `UPDATE`. -/
inductive Assignment
  | status (value : BatchStatus)
  | checksumSha256 (value : PyStr)
  | objectUri (value : PyStr)
  | uploadStartedAt (value : Instant)
  | uploadedAt (value : Instant)
  | committedAt (value : Instant)
  | errorCode (value : Option PyStr)
  | errorMessage (value : Option PyStr)
  | retryCount (value : Nat)
deriving DecidableEq

/-- The row after one assignment. -/
def Assignment.apply : Assignment → BatchManifestRecord → BatchManifestRecord
  | .status value, record => { record with status := value }
  | .checksumSha256 value, record => { record with checksumSha256 := some value }
  | .objectUri value, record => { record with objectUri := some value }
  | .uploadStartedAt value, record => { record with uploadStartedAt := some value }
  | .uploadedAt value, record => { record with uploadedAt := some value }
  | .committedAt value, record => { record with committedAt := some value }
  | .errorCode value, record => { record with errorCode := value }
  | .errorMessage value, record => { record with errorMessage := value }
  | .retryCount value, record => { record with retryCount := value }

/-- The row after the assignments of one `UPDATE`. -/
def assign (assignments : List Assignment) (record : BatchManifestRecord) :
    BatchManifestRecord :=
  assignments.foldl (fun record assignment => assignment.apply record) record

/-- No assignment touches the identity, the coordinates or the creation time of a row. -/
theorem assign_identity (assignments : List Assignment) (record : BatchManifestRecord) :
    (assign assignments record).batchId = record.batchId ∧
      (assign assignments record).coordinates = record.coordinates ∧
      (assign assignments record).createdAt = record.createdAt := by
  unfold assign
  induction assignments generalizing record with
  | nil => exact ⟨rfl, rfl, rfl⟩
  | cons assignment assignments ih =>
    obtain ⟨identity, place, created⟩ := ih (assignment.apply record)
    rw [List.foldl_cons]
    cases assignment with
    | _ => exact ⟨identity, place, created⟩

/-- The manifest table. -/
abbrev ManifestTable := Table BatchManifestRecord PyStr BatchManifestRecord.batchId

/-- Integers SQLite stores. -/
def sqliteInteger (value : Int) : Bool := -2 ^ 63 ≤ value && value < 2 ^ 63

/-- The row `register` inserts. -/
def freshRecord (batch : CdcBatch) (consumerGroup : PyStr) (now : Instant) :
    BatchManifestRecord where
  batchId := batch.batchId
  consumerGroup := consumerGroup
  topic := batch.topic
  partition := batch.partition
  offsetStart := batch.offsetStart
  offsetEnd := batch.offsetEnd
  status := .collecting
  recordCount := batch.recordCount
  schemaVersion := batch.schemaVersion
  checksumSha256 := none
  objectUri := none
  createdAt := now
  uploadStartedAt := none
  uploadedAt := none
  committedAt := none
  errorCode := none
  errorMessage := none
  retryCount := 0

/-- The `CHECK` constraints of the table. -/
def CdcBatch.Insertable (batch : CdcBatch) : Prop :=
  0 ≤ batch.partition ∧ 0 ≤ batch.offsetStart ∧ batch.offsetStart ≤ batch.offsetEnd ∧
    0 < batch.recordCount

instance (batch : CdcBatch) : Decidable batch.Insertable :=
  inferInstanceAs (Decidable (_ ∧ _ ∧ _ ∧ _))

/-- The `UNIQUE` constraint: another row of the group has the range. -/
def rangeTaken (table : ManifestTable) (batch : CdcBatch) (consumerGroup : PyStr) : Bool :=
  table.rows.any fun record => record.consumerGroup = consumerGroup ∧
    record.topicPartition = batch.topicPartition ∧
    record.offsetStart = batch.offsetStart ∧ record.offsetEnd = batch.offsetEnd

/-- `register`: the row of the batch, inserted when it is not there. A row with the identity
of the batch and other coordinates is a conflict. -/
def register (table : ManifestTable) (batch : CdcBatch) (consumerGroup : PyStr) (now : Instant) :
    Except PyError BatchManifestRecord × ManifestTable :=
  match found : table.get (freshRecord batch consumerGroup now).batchId with
  | some record =>
    if record.coordinates = batch.coordinates consumerGroup then (.ok record, table)
    else (.error ⟨.manifestConflictError,
      py "Deterministic batch ID already exists with different coordinates"⟩, table)
  | none =>
    if ¬ (sqliteInteger batch.partition && sqliteInteger batch.offsetStart &&
        sqliteInteger batch.offsetEnd) then
      (.error ⟨.overflowError, py "Python int too large to convert to SQLite INTEGER"⟩, table)
    else if ¬ batch.Insertable ∨ rangeTaken table batch consumerGroup then
      (.error ⟨.manifestConflictError,
        py "Offset range is already registered under a different batch identity"⟩, table)
    else (.ok (freshRecord batch consumerGroup now),
      table.insert (freshRecord batch consumerGroup now) found)

/-- `UPDATE cdc_batch_manifest SET … WHERE batch_id = ? AND status = ?`: the number of rows
changed and the table. -/
def updateWhere (table : ManifestTable) (batchId : PyStr) (status : BatchStatus)
    (assignments : List Assignment) : Nat × ManifestTable :=
  match table.get batchId with
  | some record =>
    if record.status = status then
      (1, table.update batchId (assign assignments) fun row same =>
        (assign_identity assignments row).1.trans same)
    else (0, table)
  | none => (0, table)

/-- The order of `recoverable`. -/
def recoveryOrder (left right : BatchManifestRecord) : Prop :=
  left.topic < right.topic ∨ (left.topic = right.topic ∧ (left.partition < right.partition ∨
    (left.partition = right.partition ∧ left.offsetEnd ≤ right.offsetEnd)))

instance (left right : BatchManifestRecord) : Decidable (recoveryOrder left right) :=
  inferInstanceAs (Decidable (_ ∨ _))

/-- `recoverable`: the durable rows of a group. -/
def recoverable (table : ManifestTable) (consumerGroup : PyStr) : List BatchManifestRecord :=
  (table.rows.filter fun record => record.consumerGroup = consumerGroup ∧ record.Durable)
    |>.insertionSort recoveryOrder

/-- `_safe_error`. -/
def safeError (message : PyStr) : PyStr :=
  (replaceChar 10 " " (replaceChar 13 " " message)).take 1024

/-- What registration returns is the row of the batch in the table it leaves; every other row
is as before. -/
theorem register_spec (table : ManifestTable) (batch : CdcBatch) (group : PyStr)
    (now : Instant) :
    (∀ batchId record, table.get batchId = some record →
        (register table batch group now).2.get batchId = some record) ∧
      (∀ batchId record, (register table batch group now).2.get batchId = some record →
        table.get batchId = some record ∨
          (record = freshRecord batch group now ∧ batch.Insertable)) ∧
      (∀ record, (register table batch group now).1 = .ok record →
        (register table batch group now).2.get batch.batchId = some record ∧
          record.coordinates = batch.coordinates group) := by
  generalize registered : register table batch group now = result
  obtain ⟨outcome, after⟩ := result
  unfold register at registered
  split at registered
  · rename_i record found
    split at registered
    · rename_i same
      obtain ⟨rfl, rfl⟩ := Prod.mk.inj registered
      refine ⟨fun _ _ held => held, fun _ _ held => Or.inl held, ?_⟩
      rintro returned ⟨rfl⟩
      exact ⟨found, same⟩
    · obtain ⟨rfl, rfl⟩ := Prod.mk.inj registered
      exact ⟨fun _ _ held => held, fun _ _ held => Or.inl held, by simp⟩
  · rename_i found
    split at registered
    · obtain ⟨rfl, rfl⟩ := Prod.mk.inj registered
      exact ⟨fun _ _ held => held, fun _ _ held => Or.inl held, by simp⟩
    split at registered
    · obtain ⟨rfl, rfl⟩ := Prod.mk.inj registered
      exact ⟨fun _ _ held => held, fun _ _ held => Or.inl held, by simp⟩
    · rename_i accepted
      obtain ⟨rfl, rfl⟩ := Prod.mk.inj registered
      rw [not_or, not_not] at accepted
      refine ⟨?_, ?_, ?_⟩
      · intro batchId record held
        rw [Table.get_insert]
        split
        · rename_i same
          rw [same] at held
          exact absurd (held.symm.trans found) (by simp)
        · exact held
      · intro batchId record held
        rw [Table.get_insert] at held
        split at held
        · exact Or.inr ⟨(Option.some.inj held).symm, accepted.1⟩
        · exact Or.inl held
      · rintro record ⟨rfl⟩
        refine ⟨?_, rfl⟩
        exact (Table.get_insert table _ found _).trans (if_pos rfl)

/-- An update changes the row of its identity, when it has the expected status, and no other. -/
theorem updateWhere_spec {table after : ManifestTable} {batchId : PyStr} {status : BatchStatus}
    {assignments : List Assignment} {count : Nat}
    (updated : updateWhere table batchId status assignments = (count, after)) :
    (count = 0 ∧ after = table) ∨
      ∃ record, table.get batchId = some record ∧ record.status = status ∧ count = 1 ∧
        ∀ other, after.get other =
          if other = batchId then some (assign assignments record) else table.get other := by
  unfold updateWhere at updated
  split at updated
  · rename_i record found
    split at updated
    · rename_i same
      obtain ⟨rfl, rfl⟩ := Prod.mk.inj updated
      refine Or.inr ⟨record, found, same, rfl, ?_⟩
      intro other
      rw [Table.get_update]
      split
      · rename_i hit
        rw [hit, found]
        rfl
      · rfl
    · obtain ⟨rfl, rfl⟩ := Prod.mk.inj updated
      exact Or.inl ⟨rfl, rfl⟩
  · obtain ⟨rfl, rfl⟩ := Prod.mk.inj updated
    exact Or.inl ⟨rfl, rfl⟩

/-- An update of a row that has the expected status takes place. -/
theorem updateWhere_matching {table : ManifestTable} {batchId : PyStr}
    {record : BatchManifestRecord} (found : table.get batchId = some record)
    (assignments : List Assignment) :
    (updateWhere table batchId record.status assignments).1 = 1 ∧
      (updateWhere table batchId record.status assignments).2.get batchId =
        some (assign assignments record) := by
  unfold updateWhere
  rw [found]
  simp only [if_true]
  refine ⟨trivial, ?_⟩
  rw [Table.get_update, if_pos rfl, found]
  rfl

/-- The recoverable rows are rows of the table. -/
theorem get_of_recoverable {table : ManifestTable} {group : PyStr} {record : BatchManifestRecord}
    (member : record ∈ recoverable table group) : table.get record.batchId = some record := by
  unfold recoverable at member
  rw [List.mem_insertionSort, List.mem_filter] at member
  exact Table.get_eq_some.mpr ⟨member.1, rfl⟩

end Cdc
