import PaymentsPlatform.Silver.Processor

/-!
# Task results and the quality gate

`orchestration.models`, `orchestration.quality` and the parts of `orchestration.tasks` that compute
without the control store: what `process_silver` makes of the output of the Silver command, and
what `finish_pipeline` computes from the results of the tasks. A float is the rational number it
stands for; a quotient of counts is rounded to binary64 as Python rounds it. A missing member of a
result reads as its default, so a result of a task is a record with defaults.
-/

namespace Orchestration

open Python Silver

/-- `PipelineStatus`. -/
inductive PipelineStatus
  | queued
  | running
  | succeeded
  | failed
  | partially
  | skipped
deriving DecidableEq, Repr

/-- `QualityClassification`. -/
inductive QualityClassification
  | pass
  | warn
  | fail
deriving DecidableEq, Repr

/-- `TaskResult`, as `to_xcom` hands it on. -/
structure TaskResult where
  /-- The outcome. -/
  status : PipelineStatus
  /-- The records read. -/
  recordsRead : Int := 0
  /-- The records written. -/
  recordsWritten : Int := 0
  /-- The records rejected. -/
  recordsRejected : Int := 0
  /-- The objects read. -/
  inputAssets : List PyStr := []
  /-- The objects written. -/
  outputAssets : List PyStr := []
  /-- Small counts. -/
  metadata : List (PyStr × Json) := []

/-- `QualityResult`. -/
structure QualityResult where
  /-- The rule. -/
  ruleName : PyStr
  /-- The verdict. -/
  classification : QualityClassification
  /-- The measurement. -/
  observedValue : ℚ
  /-- From here on a warning. -/
  warnThreshold : ℚ
  /-- From here on a failure. -/
  failThreshold : ℚ
  /-- What was measured. -/
  details : List (PyStr × Int)
deriving DecidableEq

/-! ## Quality -/

/-- `classify_threshold`. -/
def classifyThreshold (ruleName : PyStr) (observedValue warnThreshold failThreshold : ℚ)
    (details : List (PyStr × Int)) : Except PyError QualityResult :=
  if failThreshold < warnThreshold then
    .error ⟨.valueError, "warn_threshold must not exceed fail_threshold"⟩
  else
    let classification :=
      if failThreshold ≤ observedValue then QualityClassification.fail
      else if warnThreshold ≤ observedValue then .warn
      else .pass
    .ok ⟨ruleName, classification, observedValue, warnThreshold, failThreshold, details⟩

/-- `numerator / denominator` of natural numbers. -/
def trueDivide (numerator denominator : Nat) : ℚ :=
  let (top, bottom) := nearestDouble numerator denominator
  (top : ℚ) / bottom

/-- `float(value)`. -/
def floatOf (value : Int) : ℚ := value.sign * trueDivide value.natAbs 1

/-- `rejection_rate_result`. -/
def rejectionRateResult (recordsRead recordsRejected : Int) (warnRate failRate : ℚ) :
    Except PyError QualityResult :=
  if recordsRead < 0 ∨ recordsRejected < 0 then
    .error ⟨.valueError, "Record counts cannot be negative"⟩
  else
    let denominator := max recordsRead 1
    let rate := trueDivide recordsRejected.toNat denominator.toNat
    classifyThreshold "rejection_rate" rate warnRate failRate
      [("records_read", recordsRead), ("records_rejected", recordsRejected)]

/-- `pipeline_status_from_quality`. -/
def pipelineStatusFromQuality (results : List QualityResult) : PipelineStatus :=
  let classifications := results.map (·.classification)
  if .fail ∈ classifications then .failed
  else if .warn ∈ classifications then .partially
  else .succeeded

/-! ## The Silver command -/

/-- What `_process` prints. -/
structure SilverPayload where
  /-- The number of objects. -/
  discovered : Nat
  /-- One result for each of them. -/
  results : List ProcessingResult

/-- The end of `_process`: the line it prints and its exit code. -/
def printed (results : List ProcessingResult) : SilverPayload × Nat :=
  (⟨results.length, results⟩, if results.all fun item => item.status = .completed then 0 else 2)

/-- `_run_application_cli` on the payloads a command prints and its exit code. -/
def runApplicationCli {Payload : Type} (module : PyStr) (payloads : List Payload)
    (returnCode : Nat) (acceptedReturnCodes : List Nat) : Except PyError (List Payload × Nat) :=
  if returnCode ∉ acceptedReturnCodes then
    .error ⟨.runtimeError, module ++ py " failed with exit code " ++ natText returnCode ++
      py ": ApplicationCommandError"⟩
  else .ok (payloads, returnCode)

/-- `process_silver`, on the results of its command. -/
def processSilver (dryRun : Bool) (results : List ProcessingResult) :
    Except PyError TaskResult := do
  let (payload, returnCode) := printed results
  let (payloads, _) ← runApplicationCli "processing.silver.cli" [payload] returnCode [0]
  let payload := payloads.getLast?.getD ⟨0, []⟩
  let results := payload.results
  return {
    status := if results = [] then .skipped else .succeeded
    recordsRead := (results.map fun item => (item.inputRecordCount : Int)).sum
    recordsWritten :=
      if dryRun then 0 else (results.map fun item => (item.outputRecordCount : Int)).sum
    recordsRejected := (results.map fun item => (item.rejectedRecordCount : Int)).sum
    inputAssets := results.map (·.inputObjectUri)
    outputAssets := if dryRun then [] else results.flatMap (·.outputObjectUris)
    metadata := [("discovered_objects", .int payload.discovered),
      ("completed_runs", .int (results.countP fun item => item.status = .completed)),
      ("skipped_runs", .int (results.countP (·.skipped))),
      ("dry_run", .bool dryRun)] }

/-! ## The end of a pipeline -/

/-- What `finish_pipeline` computes before it stores anything. -/
structure Assessment where
  /-- The records read. -/
  recordsRead : Int
  /-- The records written. -/
  recordsWritten : Int
  /-- The records rejected. -/
  recordsRejected : Int
  /-- The objects written, in order and each once. -/
  outputAssets : List PyStr
  /-- The rejection rate, judged. -/
  quality : QualityResult
  /-- The status of the pipeline. -/
  status : PipelineStatus

/-- The computation of `finish_pipeline`. -/
def assess (results : List TaskResult) (warnRate failRate : ℚ) : Except PyError Assessment := do
  let recordsRead := (results.map (·.recordsRead)).sum
  let recordsWritten := (results.map (·.recordsWritten)).sum
  let recordsRejected := (results.map (·.recordsRejected)).sum
  let outputAssets := ((results.flatMap (·.outputAssets)).dedup).insertionSort (· ≤ ·)
  let quality ← rejectionRateResult recordsRead recordsRejected warnRate failRate
  let status := pipelineStatusFromQuality [quality]
  return ⟨recordsRead, recordsWritten, recordsRejected, outputAssets, quality, status⟩

/-- The computation of `finish_cdc_health_pipeline`. -/
def assessHealth (totalLag : Int) (freshnessSeconds : ℚ)
    (lagWarn lagFail freshnessWarn freshnessFail : Int) :
    Except PyError (List QualityResult × PipelineStatus) := do
  let lag ← classifyThreshold "cdc_consumer_group_lag" (floatOf totalLag) (floatOf lagWarn)
    (floatOf lagFail) []
  let freshness ← classifyThreshold "cdc_manifest_freshness_seconds" freshnessSeconds
    (floatOf freshnessWarn) (floatOf freshnessFail) []
  return ([lag, freshness], pipelineStatusFromQuality [lag, freshness])

end Orchestration
