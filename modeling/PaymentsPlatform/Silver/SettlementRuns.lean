import PaymentsPlatform.Silver.Processor
import PaymentsPlatform.Silver.Settlements

/-!
# Processing of settlement objects

`SilverProcessor.process_settlement`: one run validates one settlement object, writes the accepted
rows and the rejections, and publishes both by its completion. Whatever is raised fails the run, a
content that has not the listed digest too. The runs of both pipelines are rows of one manifest.
-/

namespace Silver

open Python Effects
open Settlement (SettlementContract)

/-- `read_bytes`. -/
def readBytes (deployment : Deployment) (object : InputObject) : Action Bytes := do
  let payload ← perform (.readBronze object)
  Program.ofExcept (checkContent deployment object payload)

/-- `_date_from_key`. -/
def dateFromKey (objectKey name : PyStr) (default : Date) : Date :=
  match (splitChar 47 objectKey).findSome? (dropStart (name ++ py "=")) with
  | none => default
  | some text => (dateFromIsoformat text).getD default

/-- The arguments of `process_settlement`. -/
structure SettlementRequest where
  /-- The object. -/
  object : SettlementObject
  /-- Process again what was processed before. -/
  forceReprocess : Bool := false
  /-- Write nothing. -/
  dryRun : Bool := false

/-- The identity of the processing of a settlement object. -/
def settlementIdentity (deployment : Deployment) (object : InputObject) : RunIdentity :=
  { identityOf deployment object with pipelineName := settlementPipeline }

/-- The run of a call. -/
def settlementRun (request : SettlementRequest) (runId : PyStr) (now : Instant) : Run where
  object := request.object.toInputObject
  entityName := "settlements"
  runId := runId
  now := now
  forceReprocess := request.forceReprocess

/-- The row `register` inserts. -/
def registeredSettlement (deployment : Deployment) (run : Run) : ProcessingRun :=
  { registeredRun deployment run with pipelineName := settlementPipeline }

/-- The content of the object, normalized under the contract that the configured path holds. -/
def readSettlement (deployment : Deployment) (contract : Except PyError SettlementContract)
    (object : SettlementObject) (run : Run) : Action NormalizedSettlement := do
  let payload ← readBytes deployment run.object
  let contract ← Program.ofExcept contract
  Program.ofExcept (normalizeSettlementBytes contract payload object run.runId run.now)

/-- The body of the `try` of `process_settlement`. -/
def settlementBody (deployment : Deployment) (contract : Except PyError SettlementContract)
    (object : SettlementObject) (run : Run) : Action ProcessingResult := do
  let _ ← perform (.transition run.runId .reading [])
  let (rows, rejections, inputCount, partnerId) ← readSettlement deployment contract object run
  let _ ← perform (.transition run.runId .validating [.inputRecordCount inputCount])
  let _ ← perform (.transition run.runId .transforming [])
  let _ ← perform (.transition run.runId .writing [])
  let settlementDate := match rows.head? with
    | some row => row.settlementDate
    | none => dateFromKey object.objectKey "settlement_date" run.now.date
  let settlements ← writeSome deployment run .settlements
    { partnerId := some partnerId, settlementDate := some settlementDate } (.settlements rows)
  let rejected ← writeSome deployment run .rejections {} (.rejections rejections)
  let completed ← perform (.transition run.runId .completed [.completedAt run.now.utcIso,
    .outputs (settlements ++ rejected), .outputRecordCount rows.length,
    .rejectedRecordCount rejections.length, .errorCode none, .errorMessage none])
  return resultOf completed

/-- The body with its handler. -/
def settleRun (deployment : Deployment) (contract : Except PyError SettlementContract)
    (object : SettlementObject) (run : Run) : Action ProcessingResult :=
  (settlementBody deployment contract object run).handle fun error =>
    (markFailed run.runId error).bind fun failed => .done (resultOf failed)

/-- The dry run of `process_settlement`. -/
def settlementDryRun (deployment : Deployment) (contract : Except PyError SettlementContract)
    (object : SettlementObject) (run : Run) : Action ProcessingResult := do
  let (rows, rejections, inputCount, _) ← readSettlement deployment contract object run
  return {
    runId := none
    inputObjectUri := run.object.uri
    status := .completed
    entityName := "settlements"
    inputRecordCount := inputCount
    outputRecordCount := rows.length
    rejectedRecordCount := rejections.length
    dryRun := true }

/-- `process_settlement` of an object that is to be processed. -/
def startSettlement (deployment : Deployment) (contract : Except PyError SettlementContract)
    (request : SettlementRequest) : Action ProcessingResult := do
  let now ← perform .now
  let runId ← perform .newRunId
  let run := settlementRun request runId now
  if request.dryRun then settlementDryRun deployment contract request.object run
  else
    perform (.register (registeredSettlement deployment run))
    settleRun deployment contract request.object run

/-- `process_settlement`. -/
def processSettlement (deployment : Deployment) (contract : Except PyError SettlementContract)
    (request : SettlementRequest) : Action ProcessingResult := do
  let prior ← perform (.findLatestIdentity (settlementIdentity deployment
    request.object.toInputObject))
  match prior, request.forceReprocess with
  | some prior, false => return skippedResult prior
  | _, _ => startSettlement deployment contract request

/-- A call of the processor. -/
inductive Call
  | cdc (request : ProcessRequest)
  | settlement (request : SettlementRequest)

/-- The processor: a history of calls of both kinds. -/
def processor (deployment : Deployment) (contract : Except PyError SettlementContract) :
    Service signature PyError World Choice Call where
  machine := machine deployment
  code call := match call with
    | .cdc request => (processCdc deployment request).bind fun _ => .done ()
    | .settlement request =>
      (processSettlement deployment contract request).bind fun _ => .done ()
  boot _ world := world

end Silver
