import PaymentsPlatform.Relational.Table
import PaymentsPlatform.Silver.Models

/-!
# The processing manifest

The table `silver_processing_manifest`, the two statements that change it and the two queries the
processing relies on. Both queries order by a text column and take the first row. Each statement
runs in one SQLite session and is atomic.
-/

namespace Silver

open Python Relational

/-- `ProcessingRun`: a row of the table, its time columns as they are stored. -/
structure ProcessingRun where
  /-- Primary key. -/
  runId : PyStr
  /-- The pipeline. -/
  pipelineName : PyStr
  /-- The entity. -/
  entityName : PyStr
  /-- The object. -/
  inputObjectUri : PyStr
  /-- Its digest. -/
  inputChecksum : PyStr
  /-- The rows of the object. -/
  inputRecordCount : Nat
  /-- The lifecycle. -/
  status : ProcessingStatus
  /-- The start. -/
  startedAt : PyStr
  /-- The end. -/
  completedAt : Option PyStr
  /-- The outputs. -/
  outputs : List SilverOutput
  /-- The rows of the outputs. -/
  outputRecordCount : Nat
  /-- The rejected rows. -/
  rejectedRecordCount : Nat
  /-- The code of the problem. -/
  errorCode : Option PyStr
  /-- Its text. -/
  errorMessage : Option PyStr
  /-- Version of the code. -/
  codeVersion : PyStr
  /-- Version of the Silver contract. -/
  schemaVersion : PyStr
deriving DecidableEq

/-- `TRANSITIONS`. -/
def ProcessingStatus.allowed : ProcessingStatus → ProcessingStatus → Bool
  | .discovered, .reading | .discovered, .failed | .discovered, .quarantined => true
  | .reading, .validating | .reading, .failed | .reading, .quarantined => true
  | .validating, .transforming | .validating, .failed | .validating, .quarantined => true
  | .transforming, .writing | .transforming, .failed | .transforming, .quarantined => true
  | .writing, .completed | .writing, .failed => true
  | _, _ => false

/-- One column of an update. The address list is the one of the outputs. -/
inductive Assignment
  | inputRecordCount (value : Nat)
  | completedAt (value : PyStr)
  | outputs (value : List SilverOutput)
  | outputRecordCount (value : Nat)
  | rejectedRecordCount (value : Nat)
  | errorCode (value : Option PyStr)
  | errorMessage (value : Option PyStr)

/-- Write one column. -/
def Assignment.apply (run : ProcessingRun) : Assignment → ProcessingRun
  | .inputRecordCount value => { run with inputRecordCount := value }
  | .completedAt value => { run with completedAt := some value }
  | .outputs value => { run with outputs := value }
  | .outputRecordCount value => { run with outputRecordCount := value }
  | .rejectedRecordCount value => { run with rejectedRecordCount := value }
  | .errorCode value => { run with errorCode := value }
  | .errorMessage value => { run with errorMessage := value }

/-- The row after an update. -/
def ProcessingRun.assign (run : ProcessingRun) (status : ProcessingStatus)
    (updates : List Assignment) : ProcessingRun :=
  updates.foldl Assignment.apply { run with status := status }

/-- What no update changes. -/
structure SameRun (before after : ProcessingRun) : Prop where
  /-- The key. -/
  runId : after.runId = before.runId
  /-- The pipeline. -/
  pipelineName : after.pipelineName = before.pipelineName
  /-- The entity. -/
  entityName : after.entityName = before.entityName
  /-- The object. -/
  inputObjectUri : after.inputObjectUri = before.inputObjectUri
  /-- Its digest. -/
  inputChecksum : after.inputChecksum = before.inputChecksum
  /-- The start. -/
  startedAt : after.startedAt = before.startedAt
  /-- Version of the code. -/
  codeVersion : after.codeVersion = before.codeVersion
  /-- Version of the Silver contract. -/
  schemaVersion : after.schemaVersion = before.schemaVersion

/-- An update keeps the identity of a run and sets its status. -/
theorem ProcessingRun.assign_same (run : ProcessingRun) (status : ProcessingStatus)
    (updates : List Assignment) :
    SameRun run (run.assign status updates) ∧ (run.assign status updates).status = status := by
  unfold ProcessingRun.assign
  suffices general : ∀ start : ProcessingRun, SameRun run start → start.status = status →
      SameRun run (updates.foldl Assignment.apply start) ∧
        (updates.foldl Assignment.apply start).status = status from
    general _ ⟨rfl, rfl, rfl, rfl, rfl, rfl, rfl, rfl⟩ rfl
  induction updates with
  | nil => exact fun start same kept => ⟨same, kept⟩
  | cons update updates ih =>
    intro start same kept
    obtain ⟨runId, pipeline, entity, uri, checksum, started, code, schema⟩ := same
    refine ih _ ?_ ?_
    · cases update <;> exact ⟨runId, pipeline, entity, uri, checksum, started, code, schema⟩
    · cases update <;> exact kept

/-- The manifest table. -/
abbrev ManifestTable := Relational.Table ProcessingRun PyStr ProcessingRun.runId

/-- `register` of a run. -/
def register (table : ManifestTable) (run : ProcessingRun) :
    Except PyError Unit × ManifestTable :=
  if absent : table.get run.runId = none then (.ok (), table.insert run absent)
  else (.error ⟨.processingManifestError, py "Processing run already exists: " ++ run.runId⟩,
    table)

/-- `transition`: one permitted change of status, with columns. -/
def transition (table : ManifestTable) (runId : PyStr) (status : ProcessingStatus)
    (updates : List Assignment) : Except PyError ProcessingRun × ManifestTable :=
  match table.get runId with
  | none => (.error ⟨.processingManifestError, py "Unknown processing run: " ++ runId⟩, table)
  | some current =>
    if current.status.allowed status then
      (.ok (current.assign status updates), table.put (current.assign status updates))
    else (.error ⟨.processingManifestError, py "Invalid processing transition " ++
      current.status.value ++ py " -> " ++ status.value⟩, table)

/-- The order of a query: the time column first, then the key. -/
abbrev RunOrderKey := PyStr ×ₗ PyStr

/-- The order of a query by decreasing keys. -/
def Follows (key : ProcessingRun → RunOrderKey) (left right : ProcessingRun) : Prop :=
  key right ≤ key left

instance (key : ProcessingRun → RunOrderKey) : DecidableRel (Follows key) := fun left right =>
  inferInstanceAs (Decidable (key right ≤ key left))

instance (key : ProcessingRun → RunOrderKey) : Std.Total (Follows key) :=
  ⟨fun left right => le_total (key right) (key left)⟩

instance (key : ProcessingRun → RunOrderKey) : IsTrans ProcessingRun (Follows key) :=
  ⟨fun _ _ _ one two => le_trans two one⟩

/-- Rows in decreasing order of a key. -/
def descending (key : ProcessingRun → RunOrderKey) (runs : List ProcessingRun) :
    List ProcessingRun := runs.insertionSort (Follows key)

/-- `ORDER BY started_at, run_id`. -/
def ProcessingRun.startKey (run : ProcessingRun) : RunOrderKey :=
  toLex (run.startedAt, run.runId)

/-- `ORDER BY completed_at, run_id`. -/
def ProcessingRun.completionKey (run : ProcessingRun) : RunOrderKey :=
  toLex (run.completedAt.getD [], run.runId)

/-- What identifies the processing of an object. -/
structure RunIdentity where
  /-- The pipeline. -/
  pipelineName : PyStr
  /-- The digest of the object. -/
  inputChecksum : PyStr
  /-- Version of the code. -/
  codeVersion : PyStr
  /-- Version of the Silver contract. -/
  schemaVersion : PyStr
deriving DecidableEq

/-- The identity of a run. -/
def ProcessingRun.identity (run : ProcessingRun) : RunIdentity :=
  ⟨run.pipelineName, run.inputChecksum, run.codeVersion, run.schemaVersion⟩

/-- `find_latest_identity`. -/
def findLatestIdentity (table : ManifestTable) (identity : RunIdentity) : Option ProcessingRun :=
  (descending ProcessingRun.startKey
    (table.rows.filter fun run => run.identity = identity)).head?

/-- The completed runs of an entity, without those of one input. -/
def completedRuns (rows : List ProcessingRun) (entityName : PyStr)
    (excludeInputChecksum : Option PyStr) : List ProcessingRun :=
  rows.filter fun run => run.entityName = entityName ∧ run.status = .completed ∧
    some run.inputChecksum ≠ excludeInputChecksum

/-- The first output of a kind. -/
def ProcessingRun.output? (run : ProcessingRun) (outputType : OutputType) :
    Option SilverOutput := run.outputs.find? fun output => output.outputType = outputType

/-- The latest output of a kind among rows. -/
def latestAmong (rows : List ProcessingRun) (entityName : PyStr) (outputType : OutputType)
    (excludeInputChecksum : Option PyStr) : Option SilverOutput :=
  (descending ProcessingRun.completionKey
    (completedRuns rows entityName excludeInputChecksum)).findSome? (·.output? outputType)

/-- `latest_output`. -/
def latestOutput (table : ManifestTable) (entityName : PyStr) (outputType : OutputType)
    (excludeInputChecksum : Option PyStr) : Option SilverOutput :=
  latestAmong table.rows entityName outputType excludeInputChecksum

/-- What a registration does: it inserts the run, or the key is taken. -/
theorem register_spec (table : ManifestTable) (run : ProcessingRun) :
    (∃ absent, register table run = (.ok (), table.insert run absent)) ∨
    ∃ problem, register table run = (.error problem, table) := by
  unfold register
  split
  · rename_i absent
    exact Or.inl ⟨absent, rfl⟩
  · exact Or.inr ⟨_, rfl⟩

/-- What a transition does: it changes the row of the key as permitted, or nothing. -/
theorem transition_spec (table : ManifestTable) (runId : PyStr) (status : ProcessingStatus)
    (updates : List Assignment) :
    (∃ current, table.get runId = some current ∧ current.status.allowed status = true ∧
      transition table runId status updates =
        (.ok (current.assign status updates), table.put (current.assign status updates))) ∨
    ∃ problem, problem.kind = .processingManifestError ∧
      transition table runId status updates = (.error problem, table) := by
  unfold transition
  cases found : table.get runId with
  | none => exact Or.inr ⟨_, rfl, rfl⟩
  | some current =>
    dsimp only
    split
    · rename_i permitted
      exact Or.inl ⟨current, rfl, permitted, rfl⟩
    · exact Or.inr ⟨_, rfl, rfl⟩

/-- The rows of a query are the rows it orders. -/
theorem mem_descending {key : ProcessingRun → RunOrderKey} {runs : List ProcessingRun}
    {run : ProcessingRun} : run ∈ descending key runs ↔ run ∈ runs :=
  List.mem_insertionSort (Follows key)

/-- The latest output is an output of a completed run of the entity. -/
theorem latestAmong_mem {rows : List ProcessingRun} {entityName : PyStr}
    {outputType : OutputType} {excluded : Option PyStr} {output : SilverOutput}
    (found : latestAmong rows entityName outputType excluded = some output) :
    ∃ run ∈ rows, run.entityName = entityName ∧ run.status = .completed ∧
      run.output? outputType = some output := by
  obtain ⟨run, member, has⟩ := List.exists_of_findSome?_eq_some found
  have inside := mem_descending.mp member
  unfold completedRuns at inside
  obtain ⟨present, conditions⟩ := List.mem_filter.mp inside
  rw [decide_eq_true_eq] at conditions
  exact ⟨run, present, conditions.1, conditions.2.1, has⟩

/-- A run that is not completed has no say in the latest output. -/
theorem latestAmong_append_open {rows : List ProcessingRun} {run : ProcessingRun}
    {entityName : PyStr} {outputType : OutputType} {excluded : Option PyStr}
    (unfinished : run.status ≠ .completed) :
    latestAmong (rows ++ [run]) entityName outputType excluded =
      latestAmong rows entityName outputType excluded := by
  unfold latestAmong completedRuns
  rw [List.filter_append, List.filter_cons_of_neg (by simp [unfinished]), List.filter_nil,
    List.append_nil]

/-- Nothing is allowed from a status that ends a run. -/
theorem ProcessingStatus.not_completed_of_allowed {status target : ProcessingStatus}
    (permitted : status.allowed target = true) : status ≠ .completed := by
  rintro rfl
  cases target <;> cases permitted

end Silver
