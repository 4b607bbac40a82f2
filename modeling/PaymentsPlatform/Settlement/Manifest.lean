import PaymentsPlatform.Python.Uuid
import PaymentsPlatform.Relational.Table
import PaymentsPlatform.Settlement.Models

/-!
# The settlement manifest

The table `settlement_file_manifest` and the two statements of `ManifestStore` that change it.
Each runs in one SQLite session and is atomic. A row belongs to one content of one partner: its
identifier is computed from both, and no statement changes any of the three.
-/

namespace Settlement

open Python Relational

/-- `SOURCE_NAME`. -/
def sourceName : PyStr := "banking_partner_settlement"

/-- `deterministic_file_id` under the source name of settlements. -/
def deterministicFileId (partnerId checksumSha256 : PyStr) : PyStr :=
  uuidText (uuid5 0x22a08d63cffc4d368a83a7b0d31c9f16
    (sourceName ++ py ":" ++ partnerId ++ py ":" ++ checksumSha256))

/-- `ManifestRecord`: a row of the table. -/
structure ManifestRecord where
  /-- Primary key. -/
  fileId : PyStr
  /-- The partner. -/
  partnerId : PyStr
  /-- The name of the file at its first discovery. -/
  fileName : PyStr
  /-- The path of the latest attempt. -/
  filePath : PyStr
  /-- The size. -/
  fileSizeBytes : Nat
  /-- The digest of the content. -/
  checksumSha256 : PyStr
  /-- The version of the contract. -/
  schemaVersion : PyStr
  /-- The date of the name at its first discovery. -/
  settlementDate : Option PyStr
  /-- The first discovery. -/
  discoveredAt : PyStr
  /-- The start of processing. -/
  processingStartedAt : Option PyStr
  /-- The end of the latest attempt. -/
  processedAt : Option PyStr
  /-- The lifecycle. -/
  status : ManifestStatus
  /-- The rows of the file. -/
  recordCount : Nat
  /-- The valid ones. -/
  acceptedCount : Nat
  /-- The others. -/
  rejectedCount : Nat
  /-- The code of the latest problem. -/
  errorCode : Option PyStr
  /-- Its text. -/
  errorMessage : Option PyStr
  /-- The address of the Bronze object. -/
  bronzePath : Option PyStr
  /-- The address of the quarantine object. -/
  quarantinePath : Option PyStr
  /-- The latest attempt. -/
  ingestionRunId : PyStr
  /-- The key is computed from partner and content. -/
  identified : fileId = deterministicFileId partnerId checksumSha256
deriving DecidableEq

/-- The statuses no transition leaves. -/
def ManifestStatus.terminal (status : ManifestStatus) : Prop :=
  status = .processed ∨ status = .quarantined

instance (status : ManifestStatus) : Decidable status.terminal :=
  inferInstanceAs (Decidable (_ ∨ _))

/-- `ALLOWED_TRANSITIONS`. -/
def ManifestStatus.allowed : ManifestStatus → ManifestStatus → Bool
  | .discovered, .validating | .discovered, .failed => true
  | .validating, .validating | .validating, .validated | .validating, .quarantined
  | .validating, .failed => true
  | .validated, .validating | .validated, .processing | .validated, .quarantined
  | .validated, .failed => true
  | .processing, .validating | .processing, .processed | .processing, .quarantined
  | .processing, .failed => true
  | .failed, .validating => true
  | _, _ => false

/-- One column of an update: the columns of `UPDATABLE_COLUMNS`. -/
inductive Assignment
  | filePath (value : PyStr)
  | fileSizeBytes (value : Nat)
  | processingStartedAt (value : PyStr)
  | processedAt (value : PyStr)
  | recordCount (value : Nat)
  | acceptedCount (value : Nat)
  | rejectedCount (value : Nat)
  | errorCode (value : Option PyStr)
  | errorMessage (value : Option PyStr)
  | bronzePath (value : Option PyStr)
  | quarantinePath (value : Option PyStr)
  | ingestionRunId (value : PyStr)
deriving DecidableEq

/-- Write one column. -/
def Assignment.apply (record : ManifestRecord) : Assignment → ManifestRecord
  | .filePath value => { record with filePath := value }
  | .fileSizeBytes value => { record with fileSizeBytes := value }
  | .processingStartedAt value => { record with processingStartedAt := some value }
  | .processedAt value => { record with processedAt := some value }
  | .recordCount value => { record with recordCount := value }
  | .acceptedCount value => { record with acceptedCount := value }
  | .rejectedCount value => { record with rejectedCount := value }
  | .errorCode value => { record with errorCode := value }
  | .errorMessage value => { record with errorMessage := value }
  | .bronzePath value => { record with bronzePath := value }
  | .quarantinePath value => { record with quarantinePath := value }
  | .ingestionRunId value => { record with ingestionRunId := value }

/-- The row after an update: the new status and the columns. -/
def ManifestRecord.assign (record : ManifestRecord) (status : ManifestStatus)
    (updates : List Assignment) : ManifestRecord :=
  updates.foldl Assignment.apply { record with status := status }

/-- What an update leaves as it is. -/
structure SameFile (before after : ManifestRecord) : Prop where
  /-- The key. -/
  fileId : after.fileId = before.fileId
  /-- The partner. -/
  partnerId : after.partnerId = before.partnerId
  /-- The content. -/
  checksumSha256 : after.checksumSha256 = before.checksumSha256

/-- One column is none of the identity, and not the status. -/
theorem Assignment.apply_same (record : ManifestRecord) (update : Assignment) :
    SameFile record (update.apply record) ∧ (update.apply record).status = record.status := by
  cases update <;> exact ⟨⟨rfl, rfl, rfl⟩, rfl⟩

/-- An update keeps the identity and sets the status. -/
theorem ManifestRecord.assign_same (record : ManifestRecord) (status : ManifestStatus)
    (updates : List Assignment) :
    SameFile record (record.assign status updates) ∧
      (record.assign status updates).status = status := by
  unfold ManifestRecord.assign
  suffices general : ∀ start : ManifestRecord, SameFile record start → start.status = status →
      SameFile record (updates.foldl Assignment.apply start) ∧
        (updates.foldl Assignment.apply start).status = status from
    general _ ⟨rfl, rfl, rfl⟩ rfl
  induction updates with
  | nil => exact fun start same kept => ⟨same, kept⟩
  | cons update updates ih =>
    intro start same kept
    obtain ⟨one, status_kept⟩ := update.apply_same start
    exact ih _ ⟨one.fileId.trans same.fileId, one.partnerId.trans same.partnerId,
      one.checksumSha256.trans same.checksumSha256⟩ (status_kept.trans kept)

/-- Columns that count no accepted or rejected rows. -/
def Assignment.uncounted : Assignment → Bool
  | .acceptedCount _ | .rejectedCount _ => false
  | _ => true

/-- An update of other columns keeps the counts of accepted and rejected rows. -/
theorem ManifestRecord.assign_uncounted (record : ManifestRecord) (status : ManifestStatus)
    {updates : List Assignment} (others : updates.all Assignment.uncounted = true) :
    (record.assign status updates).acceptedCount = record.acceptedCount ∧
      (record.assign status updates).rejectedCount = record.rejectedCount := by
  unfold ManifestRecord.assign
  suffices general : ∀ start : ManifestRecord, start.acceptedCount = record.acceptedCount →
      start.rejectedCount = record.rejectedCount →
      (updates.foldl Assignment.apply start).acceptedCount = record.acceptedCount ∧
        (updates.foldl Assignment.apply start).rejectedCount = record.rejectedCount from
    general _ rfl rfl
  induction updates with
  | nil => exact fun start accepted rejected => ⟨accepted, rejected⟩
  | cons update updates ih =>
    intro start accepted rejected
    rw [List.all_cons, Bool.and_eq_true] at others
    refine ih others.2 _ ?_ ?_
    · cases update with
      | acceptedCount value => cases others.1
      | _ => exact accepted
    · cases update with
      | rejectedCount value => cases others.1
      | _ => exact rejected

/-- The manifest table. -/
abbrev ManifestTable := Table ManifestRecord PyStr ManifestRecord.fileId

/-- The row of a content of a partner. -/
def ManifestTable.lookup (table : ManifestTable) (partnerId checksumSha256 : PyStr) :
    Option ManifestRecord :=
  table.rows.find? fun row => row.partnerId = partnerId ∧ row.checksumSha256 = checksumSha256

/-- The lookup returns exactly the row of the content. -/
theorem ManifestTable.lookup_eq_some {table : ManifestTable} {partnerId checksum : PyStr}
    {row : ManifestRecord} : table.lookup partnerId checksum = some row ↔
      table.get row.fileId = some row ∧ row.partnerId = partnerId ∧
        row.checksumSha256 = checksum := by
  unfold ManifestTable.lookup
  constructor
  · intro found
    have has := List.find?_some found
    rw [decide_eq_true_eq] at has
    exact ⟨Table.get_eq_some.mpr ⟨List.mem_of_find?_eq_some found, rfl⟩, has⟩
  · rintro ⟨present, rfl, rfl⟩
    have member := (Table.get_eq_some.mp present).1
    cases found : table.rows.find? fun other =>
        other.partnerId = row.partnerId ∧ other.checksumSha256 = row.checksumSha256 with
    | none =>
      rw [List.find?_eq_none] at found
      exact absurd (by simp) (found row member)
    | some other =>
      have has := List.find?_some found
      rw [decide_eq_true_eq] at has
      -- the same identity has the same key, and the key identifies the row
      have same : other.fileId = row.fileId := by
        rw [other.identified, row.identified, has.1, has.2]
      have again := Table.get_eq_some.mpr ⟨List.mem_of_find?_eq_some found, same⟩
      rw [present] at again
      exact again.symm

/-- A content without a row. -/
theorem ManifestTable.lookup_eq_none {table : ManifestTable} {partnerId checksum : PyStr} :
    table.lookup partnerId checksum = none ↔
      ∀ row, table.get row.fileId = some row → row.partnerId = partnerId →
        row.checksumSha256 ≠ checksum := by
  constructor
  · intro absent row present partner content
    have found := lookup_eq_some.mpr ⟨present, partner, content⟩
    rw [absent] at found
    cases found
  · intro none_of
    cases found : table.lookup partnerId checksum with
    | none => rfl
    | some row =>
      obtain ⟨present, partner, content⟩ := lookup_eq_some.mp found
      exact absurd content (none_of row present partner)

/-- What `register_discovery` is told of a file. -/
structure Discovery where
  /-- The partner. -/
  partnerId : PyStr
  /-- The name. -/
  fileName : PyStr
  /-- The path. -/
  filePath : PyStr
  /-- The size. -/
  fileSizeBytes : Nat
  /-- The digest. -/
  checksumSha256 : PyStr
  /-- The version of the contract. -/
  schemaVersion : PyStr
  /-- The date of the name. -/
  settlementDate : Option PyStr
  /-- Now. -/
  discoveredAt : Instant
  /-- The attempt. -/
  ingestionRunId : PyStr

/-- The inserted row. -/
def Discovery.row (discovery : Discovery) : ManifestRecord where
  fileId := deterministicFileId discovery.partnerId discovery.checksumSha256
  partnerId := discovery.partnerId
  fileName := discovery.fileName
  filePath := discovery.filePath
  fileSizeBytes := discovery.fileSizeBytes
  checksumSha256 := discovery.checksumSha256
  schemaVersion := discovery.schemaVersion
  settlementDate := discovery.settlementDate
  discoveredAt := discovery.discoveredAt.isoformat
  processingStartedAt := none
  processedAt := none
  status := .discovered
  recordCount := 0
  acceptedCount := 0
  rejectedCount := 0
  errorCode := none
  errorMessage := none
  bronzePath := none
  quarantinePath := none
  ingestionRunId := discovery.ingestionRunId
  identified := rfl

/-- `register_discovery`: the row of a known content, or a new row. -/
def registerDiscovery (table : ManifestTable) (discovery : Discovery) :
    Except PyError (ManifestRecord × DuplicateKind) × ManifestTable :=
  match table.lookup discovery.partnerId discovery.checksumSha256 with
  | some existing =>
    (.ok (existing, if existing.fileName = discovery.fileName then .sameNameSameContent
      else .differentNameSameContent), table)
  | none =>
    let known := table.rows.any fun row =>
      row.partnerId = discovery.partnerId ∧ row.fileName = discovery.fileName
    if absent : table.get discovery.row.fileId = none then
      (.ok (discovery.row, if known then .sameNameChangedContent else .newFile),
        table.insert discovery.row absent)
    else (.error ⟨.integrityError,
      py "UNIQUE constraint failed: settlement_file_manifest.file_id"⟩, table)

/-- `transition`: one permitted change of status, with columns. -/
def transition (table : ManifestTable) (fileId : PyStr) (status : ManifestStatus)
    (updates : List Assignment) : Except PyError ManifestRecord × ManifestTable :=
  match table.get fileId with
  | none => (.error ⟨.manifestError, py "Manifest file_id does not exist: " ++ fileId⟩, table)
  | some current =>
    if current.status.allowed status then
      let updated := current.assign status updates
      (.ok updated, table.put updated)
    else (.error ⟨.manifestError, py "Invalid manifest transition " ++ current.status.value ++
      py " -> " ++ status.value⟩, table)

/-- What a discovery does: it finds the row of the content, inserts one, or fails on an
identifier that another content has. -/
theorem registerDiscovery_spec (table : ManifestTable) (discovery : Discovery) :
    (∃ row kind, table.lookup discovery.partnerId discovery.checksumSha256 = some row ∧
      registerDiscovery table discovery = (.ok (row, kind), table)) ∨
    (∃ kind absent, registerDiscovery table discovery =
      (.ok (discovery.row, kind), table.insert discovery.row absent)) ∨
    ∃ problem, registerDiscovery table discovery = (.error problem, table) := by
  unfold registerDiscovery
  cases found : table.lookup discovery.partnerId discovery.checksumSha256 with
  | some row => exact Or.inl ⟨row, _, rfl, rfl⟩
  | none =>
    dsimp only
    split
    · rename_i absent
      exact Or.inr (Or.inl ⟨_, absent, rfl⟩)
    · exact Or.inr (Or.inr ⟨_, rfl⟩)

/-- What a transition does: it changes the row of the key as permitted, or nothing. -/
theorem transition_spec (table : ManifestTable) (fileId : PyStr) (status : ManifestStatus)
    (updates : List Assignment) :
    (∃ current, table.get fileId = some current ∧ current.status.allowed status = true ∧
      transition table fileId status updates =
        (.ok (current.assign status updates), table.put (current.assign status updates))) ∨
    ∃ problem, problem.kind = .manifestError ∧
      transition table fileId status updates = (.error problem, table) := by
  unfold transition
  cases found : table.get fileId with
  | none => exact Or.inr ⟨_, rfl, rfl⟩
  | some current =>
    dsimp only
    split
    · rename_i permitted
      exact Or.inl ⟨current, rfl, permitted, rfl⟩
    · exact Or.inr ⟨_, rfl, rfl⟩

/-- Nothing is permitted from a terminal status. -/
theorem ManifestStatus.not_allowed_of_terminal {status target : ManifestStatus}
    (terminal : status.terminal) : status.allowed target = false := by
  obtain rfl | rfl := terminal <;> cases target <;> rfl

/-- A row that reaches a terminal status was not in one. -/
theorem ManifestStatus.not_terminal_of_allowed {status target : ManifestStatus}
    (permitted : status.allowed target = true) : ¬ status.terminal := by
  intro terminal
  rw [not_allowed_of_terminal terminal] at permitted
  cases permitted

-- Nothing depends on how an identifier is computed, and unfolding it would compute it.
attribute [irreducible] deterministicFileId

end Settlement
