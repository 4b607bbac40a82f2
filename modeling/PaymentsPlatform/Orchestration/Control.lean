import PaymentsPlatform.Effects.Service
import PaymentsPlatform.Orchestration.Tasks
import PaymentsPlatform.Python.Uuid
import PaymentsPlatform.Relational.Table

/-!
# The control store

The tables of the schema `control`, the statements of `ControlStore` and the calls of
`orchestration.tasks` and `orchestration.callbacks` that use them. Each statement runs in a
connection of its own and is one effect; it fails when the environment says so or when the row
breaks a constraint. A UUID is its number, and a call that reads settings that are missing is a
call whose first statement fails.
-/

namespace Orchestration

open Python Effects Relational

/-! ## Rows -/

/-- `PipelineRunType`. -/
inductive PipelineRunType
  | scheduled
  | manual
  | backfill
  | recovery
deriving DecidableEq

/-- A row of `control.pipeline_runs`. -/
structure PipelineRun where
  /-- Primary key. -/
  pipelineRunId : Nat
  /-- The pipeline of the scheduler. -/
  dagId : PyStr
  /-- The run of the scheduler. -/
  airflowRunId : PyStr
  /-- The pipeline. -/
  pipelineName : PyStr
  /-- The time the run stands for. -/
  logicalDate : Instant
  /-- What started it. -/
  runType : PipelineRunType
  /-- The lifecycle. -/
  status : PipelineStatus
  /-- The start. -/
  startedAt : Option Instant := none
  /-- The end. -/
  completedAt : Option Instant := none
  /-- The records read. -/
  recordsRead : Int := 0
  /-- The records written. -/
  recordsWritten : Int := 0
  /-- The records rejected. -/
  recordsRejected : Int := 0
  /-- The objects written. -/
  outputAssets : List PyStr := []
  /-- The code of the problem. -/
  errorCode : Option PyStr := none
  /-- Its text. -/
  errorMessage : Option PyStr := none

/-- A row of `control.task_runs`. -/
structure TaskRun where
  /-- Primary key. -/
  taskRunId : Nat
  /-- The run of the pipeline. -/
  pipelineRunId : Nat
  /-- The task. -/
  taskId : PyStr
  /-- The attempt. -/
  tryNumber : Int
  /-- The outcome. -/
  status : PipelineStatus
  /-- The end. -/
  completedAt : Option Instant
  /-- The records read. -/
  recordsRead : Int := 0
  /-- The records written. -/
  recordsWritten : Int := 0
  /-- The records rejected. -/
  recordsRejected : Int := 0
  /-- Small counts. -/
  resultMetadata : List (PyStr × Json) := []
  /-- The code of the problem. -/
  errorCode : Option PyStr := none
  /-- Its text. -/
  errorMessage : Option PyStr := none

/-- What an attempt of a task is unique by. -/
def TaskRun.attempt (task : TaskRun) : Nat × PyStr × Int :=
  (task.pipelineRunId, task.taskId, task.tryNumber)

/-- The tables. -/
structure ControlDatabase where
  /-- `control.pipeline_runs`. -/
  pipelineRuns : Table PipelineRun Nat PipelineRun.pipelineRunId
  /-- `control.task_runs`. -/
  taskRuns : Table TaskRun (Nat × PyStr × Int) TaskRun.attempt
  /-- `control.data_quality_results`, each row with its run. -/
  qualityResults : Table (Nat × QualityResult) (Nat × PyStr) fun row => (row.1, row.2.ruleName)

/-- The tables without rows. -/
def ControlDatabase.empty : ControlDatabase := ⟨.empty, .empty, .empty⟩

/-- What the end of a run assigns. -/
structure Completion where
  /-- The status. -/
  status : PipelineStatus
  /-- The records read. -/
  recordsRead : Int
  /-- The records written. -/
  recordsWritten : Int
  /-- The records rejected. -/
  recordsRejected : Int
  /-- The objects written. -/
  outputAssets : List PyStr := []
  /-- The code of the problem. -/
  errorCode : Option PyStr := none
  /-- Its text. -/
  errorMessage : Option PyStr := none

/-! ## Statements -/

/-- The statements. -/
inductive Statement
  | registerPipelineRun (run : PipelineRun)
  | markPipelineRunning (pipelineRunId : Nat)
  | completePipeline (pipelineRunId : Nat) (completion : Completion)
  | recordTaskRun (task : TaskRun)
  | recordQualityResult (pipelineRunId : Nat) (result : QualityResult)

/-- What a statement returns of the row. -/
def Statement.Answer : Statement → Type
  | .recordTaskRun _ => TaskRun
  | _ => Unit

/-- The effects of the store. -/
def statements : Signature := ⟨Statement, Statement.Answer⟩

/-- What the environment decides of a statement. -/
structure Choice where
  /-- The statement fails. -/
  fails : Option PyError := none
  /-- `CURRENT_TIMESTAMP`. -/
  now : Instant := .epoch

/-- The value of a column `BIGINT CHECK (… >= 0)`. -/
def isCount (number : Int) : Bool := 0 ≤ number ∧ number < 2 ^ 63

/-- A constraint is broken. -/
def violated : PyError := ⟨.integrityError, ""⟩

/-- `_one` without a row. -/
def noRow : PyError := ⟨.runtimeError, "Control-store statement did not return a row"⟩

namespace ControlDatabase

/-- `INSERT … ON CONFLICT (dag_id, airflow_run_id) DO UPDATE SET updated_at`. -/
def register (database : ControlDatabase) (run : PipelineRun) :
    Except PyError Unit × ControlDatabase :=
  if database.pipelineRuns.rows.any fun row =>
      row.dagId = run.dagId ∧ row.airflowRunId = run.airflowRunId then (.ok (), database)
  else if absent : database.pipelineRuns.get run.pipelineRunId = none then
    (.ok (), { database with pipelineRuns := database.pipelineRuns.insert run absent })
  else (.error violated, database)

/-- `UPDATE control.pipeline_runs SET … WHERE pipeline_run_id = …`. -/
def updateRun (database : ControlDatabase) (pipelineRunId : Nat)
    (change : PipelineRun → PipelineRun)
    (keeps : ∀ run, (change run).pipelineRunId = run.pipelineRunId) :
    Except PyError Unit × ControlDatabase :=
  if (database.pipelineRuns.get pipelineRunId).isSome then
    (.ok (), { database with
      pipelineRuns := database.pipelineRuns.update pipelineRunId change fun run same =>
        (keeps run).trans same })
  else (.error noRow, database)

/-- The statement of `mark_pipeline_running`. -/
def markRunning (database : ControlDatabase) (now : Instant) (pipelineRunId : Nat) :
    Except PyError Unit × ControlDatabase :=
  database.updateRun pipelineRunId
    (fun run => { run with status := .running, startedAt := some (run.startedAt.getD now) })
    fun _ => rfl

/-- The statement of `complete_pipeline`. -/
def complete (database : ControlDatabase) (now : Instant) (pipelineRunId : Nat)
    (completion : Completion) : Except PyError Unit × ControlDatabase :=
  if isCount completion.recordsRead ∧ isCount completion.recordsWritten ∧
      isCount completion.recordsRejected then
    database.updateRun pipelineRunId
      (fun run => { run with
        status := completion.status
        completedAt := some now
        recordsRead := completion.recordsRead
        recordsWritten := completion.recordsWritten
        recordsRejected := completion.recordsRejected
        outputAssets := completion.outputAssets
        errorCode := completion.errorCode
        errorMessage := completion.errorMessage })
      fun _ => rfl
  else
    -- a row that does not exist is not checked
    (.error (if (database.pipelineRuns.get pipelineRunId).isSome then violated else noRow),
      database)

/-- The statement of `record_task_run`. -/
def recordTask (database : ControlDatabase) (task : TaskRun) :
    Except PyError TaskRun × ControlDatabase :=
  let valid := isCount task.recordsRead ∧ isCount task.recordsWritten ∧
    isCount task.recordsRejected ∧ 0 < task.tryNumber ∧ task.tryNumber < 2 ^ 31
  let known := (database.pipelineRuns.get task.pipelineRunId).isSome
  let clashes := database.taskRuns.rows.any fun row =>
    row.taskRunId = task.taskRunId ∧ row.attempt ≠ task.attempt
  if valid ∧ known ∧ clashes = false then
    (.ok task, { database with taskRuns := database.taskRuns.put task })
  else (.error violated, database)

/-- A statement of `record_quality_results`. -/
def recordQuality (database : ControlDatabase) (pipelineRunId : Nat) (result : QualityResult) :
    Except PyError Unit × ControlDatabase :=
  if (database.pipelineRuns.get pipelineRunId).isSome then
    (.ok (), { database with
      qualityResults := database.qualityResults.put (pipelineRunId, result) })
  else (.error violated, database)

end ControlDatabase

/-- A statement that the environment lets work. -/
def perform : (statement : Statement) → Instant → ControlDatabase →
    Except PyError statement.Answer × ControlDatabase
  | .registerPipelineRun run, _, database => database.register run
  | .markPipelineRunning pipelineRunId, now, database => database.markRunning now pipelineRunId
  | .completePipeline pipelineRunId completion, now, database =>
    database.complete now pipelineRunId completion
  | .recordTaskRun task, _, database => database.recordTask task
  | .recordQualityResult pipelineRunId result, _, database =>
    database.recordQuality pipelineRunId result

/-- The store. -/
def controlStore : Machine statements PyError ControlDatabase Choice where
  act statement choice database :=
    match choice.fails with
    | some error => (.error error, database)
    | none => perform statement choice.now database

/-! ## Calls -/

/-- A program of the store. -/
abbrev Action (α : Type) : Type := Program statements PyError α

/-- One statement. -/
def execute (statement : Statement) : Action statement.Answer :=
  Program.request (S := statements) statement

/-- `NAMESPACE_URL`. -/
def namespaceUrl : Nat := 0x6ba7b8119dad11d180b400c04fd430c8

/-- `deterministic_pipeline_run_id`. -/
def deterministicPipelineRunId (dagId airflowRunId : PyStr) : Nat :=
  uuid5 namespaceUrl (py "fintech-platform:" ++ dagId ++ py ":" ++ airflowRunId)

/-- `safe_task_run_id`. -/
def safeTaskRunId (pipelineRunId : Nat) (taskId : PyStr) (tryNumber : Int) : Nat :=
  uuid5 namespaceUrl (uuidText pipelineRunId ++ py ":" ++ taskId ++ py ":" ++ intText tryNumber)

/-- `_safe_error`. -/
def safeError (message : Option PyStr) : Option PyStr :=
  message.map fun text => (replaceChar 10 " " text).take 1000

/-- The statuses a run or a task ends with. -/
def PipelineStatus.terminal : PipelineStatus → Bool
  | .succeeded | .failed | .partially | .skipped => true
  | .queued | .running => false

/-- `ControlStore.complete_pipeline`. -/
def completePipeline (pipelineRunId : Nat) (completion : Completion) : Action Unit :=
  if completion.status.terminal then
    execute (.completePipeline pipelineRunId
      { completion with errorMessage := safeError completion.errorMessage })
  else .raised ⟨.valueError, "Pipeline completion requires a terminal status"⟩

/-- `ControlStore.record_task_run`, at a time of the task. -/
def recordTaskRun (now : Instant) (task : TaskRun) : Action TaskRun :=
  execute (.recordTaskRun { task with
    taskRunId := safeTaskRunId task.pipelineRunId task.taskId task.tryNumber
    completedAt := if task.status.terminal then some now else none
    errorMessage := safeError task.errorMessage })

/-- `ControlStore.record_quality_results`. -/
def recordQualityResults (pipelineRunId : Nat) : List QualityResult → Action Unit
  | [] => pure ()
  | result :: results => do
    execute (.recordQualityResult pipelineRunId result)
    recordQualityResults pipelineRunId results

/-- `begin_pipeline`, of an aware logical date. -/
def beginPipeline (dagId airflowRunId pipelineName : PyStr) (logicalDate : Instant)
    (runType : PipelineRunType) : Action Nat := do
  let pipelineRunId := deterministicPipelineRunId dagId airflowRunId
  execute (.registerPipelineRun ⟨pipelineRunId, dagId, airflowRunId, pipelineName, logicalDate,
    runType, .queued, none, none, 0, 0, 0, [], none, none⟩)
  execute (.markPipelineRunning pipelineRunId)
  return pipelineRunId

/-- `record_task_result`, at a time of the task. -/
def recordTaskResult (pipelineRunId : Nat) (taskId : PyStr) (result : TaskResult) (tryNumber : Int)
    (now : Instant) : Action (Nat × PipelineStatus) := do
  let row ← recordTaskRun now ⟨0, pipelineRunId, taskId, tryNumber, result.status, none,
    result.recordsRead, result.recordsWritten, result.recordsRejected, result.metadata, none, none⟩
  return (row.taskRunId, row.status)

/-- `finish_pipeline`. -/
def finishPipeline (pipelineRunId : Nat) (results : List TaskResult) (warnRate failRate : ℚ) :
    Action Assessment := do
  let assessment ← Program.ofExcept (assess results warnRate failRate)
  recordQualityResults pipelineRunId [assessment.quality]
  completePipeline pipelineRunId ⟨assessment.status, assessment.recordsRead,
    assessment.recordsWritten, assessment.recordsRejected, assessment.outputAssets, none, none⟩
  if assessment.status = .failed then .raised ⟨.runtimeError, "Orchestration quality gate failed"⟩
  else return assessment

/-- `finish_cdc_health_pipeline`. -/
def finishCdcHealthPipeline (pipelineRunId : Nat) (totalLag : Int) (freshnessSeconds : ℚ)
    (lagWarn lagFail freshnessWarn freshnessFail : Int) :
    Action (List QualityResult × PipelineStatus) := do
  let (quality, status) ← Program.ofExcept
    (assessHealth totalLag freshnessSeconds lagWarn lagFail freshnessWarn freshnessFail)
  recordQualityResults pipelineRunId quality
  completePipeline pipelineRunId ⟨status, 0, 0, 0, [], none, none⟩
  if status = .failed then .raised ⟨.runtimeError, "CDC health quality gate failed"⟩
  else return (quality, status)

/-- What `failure_callback` reads of its context. -/
structure FailureContext where
  /-- `task_instance.dag_id`. -/
  dagId : Option PyStr
  /-- `dag_run.run_id`. -/
  runId : Option PyStr
  /-- `task_instance.task_id`. -/
  taskId : Option PyStr
  /-- `task_instance.try_number`. -/
  tryNumber : Option Int

/-- `str(value)` of a text or `None`. -/
def strOf (value : Option PyStr) : PyStr := value.getD "None"

/-- `try_number or 1`. -/
def tryNumberOr1 (tryNumber : Option Int) : Int :=
  match tryNumber with
  | some 0 | none => 1
  | some number => number

/-- `failure_callback`, at a time of the task. The normalized context has no `exception_type`, so
the text is always the default. -/
def failureCallback (context : FailureContext) (now : Instant) : Action Unit :=
  let pipelineRunId := deterministicPipelineRunId (strOf context.dagId) (strOf context.runId)
  Program.handle
    (do
      let _ ← recordTaskRun now ⟨0, pipelineRunId, strOf context.taskId,
        tryNumberOr1 context.tryNumber, .failed, none, 0, 0, 0, [], some "AIRFLOW_TASK_FAILURE",
        some "TaskFailure"⟩
      completePipeline pipelineRunId
        ⟨.failed, 0, 0, 0, [], some "AIRFLOW_TASK_FAILURE", some "TaskFailure"⟩)
    fun _ => .done ()

end Orchestration
