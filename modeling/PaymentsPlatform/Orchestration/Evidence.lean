import PaymentsPlatform.Orchestration.Control

/-!
# The recorded evidence of a pipeline run

Calls of `record_task_result`, `finish_pipeline`, `finish_cdc_health_pipeline` and
`failure_callback` for one run, one after another in any order; any statement may fail and any call
may be cut off. `complete_pipeline` does not look at the row it updates, so a callback replaces
what a finish call stored. What a finish call stored survives when every callback is made before
the run has a terminal status, or when the row already reads as the callback writes it:
`evidence_survives`.
-/

namespace Orchestration

open Python Effects Relational

/-- What a run records of its end. -/
structure Evidence where
  /-- The status. -/
  status : PipelineStatus
  /-- The records read. -/
  recordsRead : Int
  /-- The records written. -/
  recordsWritten : Int
  /-- The records rejected. -/
  recordsRejected : Int
  /-- The objects written. -/
  outputAssets : List PyStr
deriving DecidableEq

/-- The evidence of a row. -/
def PipelineRun.evidence (run : PipelineRun) : Evidence :=
  ⟨run.status, run.recordsRead, run.recordsWritten, run.recordsRejected, run.outputAssets⟩

/-- The evidence an end assigns. -/
def Completion.evidence (completion : Completion) : Evidence :=
  ⟨completion.status, completion.recordsRead, completion.recordsWritten,
    completion.recordsRejected, completion.outputAssets⟩

/-- The evidence of a failed task: nothing was done. -/
def taskFailure : Evidence := ⟨.failed, 0, 0, 0, []⟩

/-- The evidence recorded for a run. -/
def recorded (pipelineRunId : Nat) (database : ControlDatabase) : Option Evidence :=
  (database.pipelineRuns.get pipelineRunId).map (·.evidence)

/-- The run has a terminal status. -/
def concluded (pipelineRunId : Nat) (database : ControlDatabase) : Bool :=
  (recorded pipelineRunId database).any (·.status.terminal)

/-! ## Statements -/

/-- A statement leaves the runs as they are. -/
def Statement.sparesRuns : Statement → Prop
  | .recordTaskRun _ | .recordQualityResult _ _ => True
  | _ => False

/-- Statements about tasks and quality leave the evidence as it is. -/
theorem recorded_of_spares {statement : Statement} (spares : statement.sparesRuns)
    (choice : Choice) (database : ControlDatabase) (pipelineRunId : Nat) :
    recorded pipelineRunId (controlStore.act statement choice database).2 =
      recorded pipelineRunId database := by
  obtain ⟨fails, now⟩ := choice
  cases fails with
  | some error => rfl
  | none =>
    cases statement with
    | recordTaskRun task =>
      change recorded pipelineRunId (database.recordTask task).2 = _
      simp only [ControlDatabase.recordTask]
      split <;> rfl
    | recordQualityResult other result =>
      change recorded pipelineRunId (database.recordQuality other result).2 = _
      simp only [ControlDatabase.recordQuality]
      split <;> rfl
    | registerPipelineRun run => exact spares.elim
    | markPipelineRunning other => exact spares.elim
    | completePipeline other completion => exact spares.elim

/-- The end of a run works, and the run has its evidence, or it fails and nothing changes. -/
theorem recorded_complete (choice : Choice) (database : ControlDatabase) (pipelineRunId : Nat)
    (completion : Completion) :
    let result := controlStore.act (.completePipeline pipelineRunId completion) choice database
    (result.1 = .ok () ∧ recorded pipelineRunId result.2 = some completion.evidence) ∨
      ((∃ error, result.1 = .error error) ∧ result.2 = database) := by
  obtain ⟨fails, now⟩ := choice
  cases fails with
  | some error => exact Or.inr ⟨⟨error, rfl⟩, rfl⟩
  | none =>
    intro result
    have unfolded : result = database.complete now pipelineRunId completion := rfl
    rw [unfolded]
    simp only [ControlDatabase.complete]
    split
    · simp only [ControlDatabase.updateRun]
      split
      · rename_i found
        obtain ⟨run, known⟩ := Option.isSome_iff_exists.mp found
        refine Or.inl ⟨rfl, ?_⟩
        rw [recorded, Table.get_update, if_pos rfl, known]
        rfl
      · exact Or.inr ⟨⟨_, rfl⟩, rfl⟩
    · exact Or.inr ⟨⟨_, rfl⟩, rfl⟩

/-! ## Calls -/

/-- The calls about a run. -/
inductive Call
  | recordTaskResult (taskId : PyStr) (result : TaskResult) (tryNumber : Int) (now : Instant)
  | finishPipeline (results : List TaskResult) (warnRate failRate : ℚ)
  | finishCdcHealthPipeline (totalLag : Int) (freshnessSeconds : ℚ)
      (lagWarn lagFail freshnessWarn freshnessFail : Int)
  | failureCallback (taskId : Option PyStr) (tryNumber : Option Int) (now : Instant)

/-- The program of a call about the run of a pipeline. -/
def Call.code (dagId airflowRunId : PyStr) : Call → Action Unit
  | recordTaskResult taskId result tryNumber now =>
    (Orchestration.recordTaskResult (deterministicPipelineRunId dagId airflowRunId) taskId result
      tryNumber now).bind fun _ => .done ()
  | finishPipeline results warnRate failRate =>
    (Orchestration.finishPipeline (deterministicPipelineRunId dagId airflowRunId) results warnRate
      failRate).bind fun _ => .done ()
  | finishCdcHealthPipeline totalLag freshnessSeconds lagWarn lagFail freshnessWarn freshnessFail =>
    (Orchestration.finishCdcHealthPipeline (deterministicPipelineRunId dagId airflowRunId) totalLag
      freshnessSeconds lagWarn lagFail freshnessWarn freshnessFail).bind fun _ => .done ()
  | failureCallback taskId tryNumber now =>
    Orchestration.failureCallback ⟨some dagId, some airflowRunId, taskId, tryNumber⟩ now

/-- A call that stores the end of the run. -/
def Call.finishes : Call → Bool
  | finishPipeline .. | finishCdcHealthPipeline .. => true
  | recordTaskResult .. | failureCallback .. => false

/-- A call of the callback. -/
def Call.isCallback : Call → Bool
  | failureCallback .. => true
  | _ => false

/-- The statements a call may perform on a run. -/
def Call.performs (pipelineRunId : Nat) (call : Call) (statement : Statement) : Prop :=
  statement.sparesRuns ∨ ∃ completion, statement = .completePipeline pipelineRunId completion ∧
    completion.status.terminal = true ∧
    (call.finishes = true ∨ call.isCallback = true ∧ completion.evidence = taskFailure)

/-- Recording quality performs no other statements. -/
theorem recordQualityResults_uses (pipelineRunId : Nat) (results : List QualityResult)
    {allowed : statements.Op → Prop}
    (each : ∀ result, allowed (.recordQualityResult pipelineRunId result)) :
    (recordQualityResults pipelineRunId results).Uses allowed := by
  induction results with
  | nil => trivial
  | cons result results ih => exact .bind (.request (each result)) fun _ => ih

/-- Completing a run performs one statement, with a terminal status. -/
theorem completePipeline_uses (pipelineRunId : Nat) (completion : Completion)
    {allowed : statements.Op → Prop}
    (each : ∀ ending : Completion, ending.evidence = completion.evidence →
      ending.status.terminal = true → allowed (.completePipeline pipelineRunId ending)) :
    (completePipeline pipelineRunId completion).Uses allowed := by
  by_cases terminal : completion.status.terminal = true
  · have performed : completePipeline pipelineRunId completion =
        execute (.completePipeline pipelineRunId
          { completion with errorMessage := safeError completion.errorMessage }) := if_pos terminal
    rw [performed]
    exact .request (each _ rfl terminal)
  · have refused : completePipeline pipelineRunId completion =
        .raised ⟨.valueError, "Pipeline completion requires a terminal status"⟩ := if_neg terminal
    rw [refused]
    trivial

/-- A call performs its statements only. -/
theorem code_uses (dagId airflowRunId : PyStr) (call : Call) :
    (call.code dagId airflowRunId).Uses
      (call.performs (deterministicPipelineRunId dagId airflowRunId)) := by
  have quality : ∀ result, call.performs (deterministicPipelineRunId dagId airflowRunId)
      (.recordQualityResult (deterministicPipelineRunId dagId airflowRunId) result) :=
    fun _ => Or.inl trivial
  cases call with
  | recordTaskResult taskId result tryNumber now =>
    exact .bind (.bind (.request (Or.inl trivial)) fun _ => trivial) fun _ => trivial
  | finishPipeline results warnRate failRate =>
    refine .bind (.bind (.ofExcept _) fun assessment =>
      .bind (recordQualityResults_uses _ _ quality) fun _ =>
        .bind (completePipeline_uses _ _ ?_) fun _ => ?_) fun _ => trivial
    · intro ending _ terminal
      exact Or.inr ⟨ending, rfl, terminal, Or.inl rfl⟩
    · split <;> trivial
  | finishCdcHealthPipeline totalLag freshnessSeconds lagWarn lagFail freshnessWarn freshnessFail =>
    refine .bind (.bind (.ofExcept _) fun health => .bind (recordQualityResults_uses _ _ quality)
      fun _ => .bind (completePipeline_uses _ _ ?_) fun _ => ?_) fun _ => trivial
    · intro ending _ terminal
      exact Or.inr ⟨ending, rfl, terminal, Or.inl rfl⟩
    · split <;> trivial
  | failureCallback taskId tryNumber now =>
    refine .handle (.bind (.request (Or.inl trivial)) fun _ => completePipeline_uses _ _ ?_)
      fun _ => trivial
    intro ending same terminal
    exact Or.inr ⟨ending, rfl, terminal, Or.inr ⟨rfl, same⟩⟩

/-- The calls about the run of a pipeline, one after another. -/
def calls (dagId airflowRunId : PyStr) :
    Service statements PyError ControlDatabase Choice Call where
  machine := controlStore
  code := Call.code dagId airflowRunId
  boot _ database := database

/-! ## Runs -/

/-- A step of a program completes a run. -/
def stores (choice : Choice) : Action Unit × ControlDatabase → Bool
  | (.perform (.completePipeline pipelineRunId completion) _, database) =>
    (controlStore.act (.completePipeline pipelineRunId completion) choice database).1.isOk
  | _ => false

/-- The last call that was started. -/
def active (events : List (Event Call Choice)) : Option Call :=
  (events.filterMap fun
    | .start call => some call
    | .step _ => none).getLast?

@[simp] theorem active_nil : active [] = none := rfl

/-- A call that starts is the last one. -/
@[simp] theorem active_start (events : List (Event Call Choice)) (call : Call) :
    active (events ++ [.start call]) = some call := by
  simp [active, List.filterMap_append]

/-- A step starts no call. -/
@[simp] theorem active_step (events : List (Event Call Choice)) (choice : Choice) :
    active (events ++ [.step choice]) = active events := by
  simp [active, List.filterMap_append]

/-- One step of a call: the evidence stays, or the step completes the run, with a terminal status
and, if the call is the callback, with the evidence of a failed task. -/
theorem step_recorded {pipelineRunId : Nat} {call : Call} {program : Action Unit}
    (uses : program.Uses (call.performs pipelineRunId)) (choice : Choice)
    (database : ControlDatabase) :
    (stores choice (program, database) = false ∧
      recorded pipelineRunId (controlStore.step choice (program, database)).2 =
        recorded pipelineRunId database) ∨
      ∃ evidence,
        recorded pipelineRunId (controlStore.step choice (program, database)).2 = some evidence ∧
        evidence.status.terminal = true ∧
        (call.finishes = true ∨ call.isCallback = true ∧ evidence = taskFailure) := by
  cases program with
  | done value => exact Or.inl ⟨rfl, rfl⟩
  | raised error => exact Or.inl ⟨rfl, rfl⟩
  | perform statement next =>
    rcases uses.1 with spares | ⟨completion, rfl, terminal, own⟩
    · refine Or.inl ⟨?_, recorded_of_spares spares choice database pipelineRunId⟩
      cases statement with
      | completePipeline other completion => exact spares.elim
      | registerPipelineRun run => rfl
      | markPipelineRunning other => rfl
      | recordTaskRun task => rfl
      | recordQualityResult other result => rfl
    · rcases recorded_complete choice database pipelineRunId completion with
        ⟨-, stored⟩ | ⟨⟨error, failed⟩, same⟩
      · exact Or.inr ⟨completion.evidence, stored, terminal, own⟩
      · refine Or.inl ⟨?_, congrArg (recorded pipelineRunId) same⟩
        change (controlStore.act (.completePipeline pipelineRunId completion) choice
          database).1.isOk = false
        rw [failed]
        rfl

section

variable (dagId airflowRunId : PyStr) (database : ControlDatabase)

/-- The calls and the tables after a list of events. -/
def stateAfter (events : List (Event Call Choice)) : Action Unit × ControlDatabase :=
  (calls dagId airflowRunId).run events (.done (), database)

/-- The evidence of the run after a list of events. -/
def evidenceAfter (events : List (Event Call Choice)) : Option Evidence :=
  recorded (deterministicPipelineRunId dagId airflowRunId)
    (stateAfter dagId airflowRunId database events).2

/-- A finish call has stored the end of the run. -/
def FinishStored (events : List (Event Call Choice)) : Prop :=
  ∃ before choice later call, events = before ++ .step choice :: later ∧
    active before = some call ∧ call.finishes = true ∧
    stores choice (stateAfter dagId airflowRunId database before) = true

/-- Once a finish call has stored the end of the run, no step of another call changes the status,
the counts or the assets of the run. -/
def Survives (events : List (Event Call Choice)) : Prop :=
  ∀ before choice later call, events = before ++ .step choice :: later →
    FinishStored dagId airflowRunId database before → active before = some call →
    call.finishes = false →
      evidenceAfter dagId airflowRunId database (before ++ [.step choice]) =
        evidenceAfter dagId airflowRunId database before

/-- A callback is made before the run has a terminal status, or the run already reads as the
callback writes it. -/
def Careful (call : Call) (database : ControlDatabase) : Prop :=
  call.isCallback = true →
    concluded (deterministicPipelineRunId dagId airflowRunId) database = true →
      recorded (deterministicPipelineRunId dagId airflowRunId) database = some taskFailure

instance (call : Call) (database : ControlDatabase) :
    Decidable (Careful dagId airflowRunId call database) :=
  inferInstanceAs (Decidable (_ → _ → _))

/-- Every callback among the events is made carefully. -/
def CarefulCallbacks (events : List (Event Call Choice)) : Prop :=
  (calls dagId airflowRunId).Admitted (Careful dagId airflowRunId) (fun _ _ _ => True) events
    (.done (), database)

/-- What holds after careful events. -/
structure Kept (events : List (Event Call Choice)) : Prop where
  /-- The running program is what is left of the last call. -/
  uses : ∀ call, active events = some call → (stateAfter dagId airflowRunId database events).1.Uses
    (call.performs (deterministicPipelineRunId dagId airflowRunId))
  /-- Without a call nothing runs. -/
  idle : active events = none → (stateAfter dagId airflowRunId database events).1 = .done ()
  /-- A run whose end was stored has a terminal status. -/
  concluded : FinishStored dagId airflowRunId database events →
    concluded (deterministicPipelineRunId dagId airflowRunId)
      (stateAfter dagId airflowRunId database events).2 = true
  /-- Under a callback a terminal run reads as the callback writes it. -/
  spared : ∀ call, active events = some call → Careful dagId airflowRunId call
    (stateAfter dagId airflowRunId database events).2

variable {dagId airflowRunId database} {events : List (Event Call Choice)}

/-- The last event happens in the state of those before. -/
theorem stateAfter_append (event : Event Call Choice) :
    stateAfter dagId airflowRunId database (events ++ [event]) =
      (calls dagId airflowRunId).handle event (stateAfter dagId airflowRunId database events) := by
  rw [stateAfter, Service.run_append]
  rfl

/-- An end stored with one more event was stored before, or is stored by the event. -/
theorem FinishStored.of_append {event : Event Call Choice}
    (stored : FinishStored dagId airflowRunId database (events ++ [event])) :
    FinishStored dagId airflowRunId database events ∨
      ∃ choice call, event = .step choice ∧ active events = some call ∧ call.finishes = true ∧
        stores choice (stateAfter dagId airflowRunId database events) = true := by
  obtain ⟨before, choice, later, call, split, started, finishes, worked⟩ := stored
  rcases List.eq_nil_or_concat later with rfl | ⟨rest, last, rfl⟩
  · obtain ⟨rfl, same⟩ := List.append_inj' split rfl
    exact Or.inr ⟨choice, call, by simpa using same, started, finishes, worked⟩
  · have apart : events ++ [event] = (before ++ .step choice :: rest) ++ [last] := by
      rw [split, List.concat_eq_append, List.append_assoc, List.cons_append]
    obtain ⟨rfl, -⟩ := List.append_inj' apart rfl
    exact Or.inl ⟨before, choice, rest, call, rfl, started, finishes, worked⟩

/-- A call that starts carefully. -/
theorem Kept.start (kept : Kept dagId airflowRunId database events) {call : Call}
    (careful : Careful dagId airflowRunId call (stateAfter dagId airflowRunId database events).2) :
    Kept dagId airflowRunId database (events ++ [.start call]) := by
  have started : stateAfter dagId airflowRunId database (events ++ [.start call]) =
      (call.code dagId airflowRunId, (stateAfter dagId airflowRunId database events).2) :=
    stateAfter_append (.start call)
  refine ⟨?_, ?_, ?_, ?_⟩
  · intro other running
    rw [active_start, Option.some.injEq] at running
    rw [started, ← running]
    exact code_uses dagId airflowRunId call
  · intro none
    rw [active_start] at none
    cases none
  · intro stored
    rw [started]
    rcases stored.of_append with earlier | ⟨choice, other, step, -⟩
    · exact kept.concluded earlier
    · cases step
  · intro other running
    rw [active_start, Option.some.injEq] at running
    rw [started, ← running]
    exact careful

/-- What a step of a program leaves to do. -/
theorem uses_step {allowed : statements.Op → Prop} {program : Action Unit}
    (uses : program.Uses allowed) (choice : Choice) (database : ControlDatabase) :
    (controlStore.step choice (program, database)).1.Uses allowed := by
  cases program with
  | done value => trivial
  | raised error => trivial
  | perform statement next => exact uses.2 _

/-- A callback is no finish call. -/
theorem Call.not_finishes {call : Call} (callback : call.isCallback = true) :
    call.finishes = false := by
  cases call <;> first | rfl | cases callback

/-- A step of the running call. -/
theorem Kept.step (kept : Kept dagId airflowRunId database events) (choice : Choice) :
    Kept dagId airflowRunId database (events ++ [.step choice]) := by
  have moved : stateAfter dagId airflowRunId database (events ++ [.step choice]) =
      controlStore.step choice (stateAfter dagId airflowRunId database events) :=
    stateAfter_append (.step choice)
  cases running : active events with
  | none =>
    -- nothing runs, so nothing happens
    have still : controlStore.step choice (stateAfter dagId airflowRunId database events) =
        stateAfter dagId airflowRunId database events := by
      have ended := kept.idle running
      generalize stateAfter dagId airflowRunId database events = state at ended ⊢
      obtain ⟨program, tables⟩ := state
      cases ended
      rfl
    rw [still] at moved
    refine ⟨?_, ?_, ?_, ?_⟩
    · intro call started
      rw [active_step, running] at started
      cases started
    · intro _
      rw [moved]
      exact kept.idle running
    · intro stored
      rw [moved]
      rcases stored.of_append with earlier | ⟨_, call, -, started, -⟩
      · exact kept.concluded earlier
      · rw [running] at started
        cases started
    · intro call started
      rw [active_step, running] at started
      cases started
  | some call =>
    have uses := kept.uses call running
    have left : (stateAfter dagId airflowRunId database (events ++ [.step choice])).1.Uses
        (call.performs (deterministicPipelineRunId dagId airflowRunId)) := by
      rw [moved]
      exact uses_step uses choice _
    have effect := step_recorded uses choice (stateAfter dagId airflowRunId database events).2
    refine ⟨?_, ?_, ?_, ?_⟩
    · intro other started
      rw [active_step, running, Option.some.injEq] at started
      rw [← started]
      exact left
    · intro none
      rw [active_step, running] at none
      cases none
    · intro stored
      rw [moved, Orchestration.concluded]
      rcases effect with ⟨refused, same⟩ | ⟨evidence, found, terminal, -⟩
      · rcases stored.of_append with earlier | ⟨_, _, ⟨⟩, -, -, worked⟩
        · rw [same]
          exact kept.concluded earlier
        · rw [refused] at worked
          cases worked
      · rw [found]
        exact terminal
    · intro other started
      rw [active_step, running, Option.some.injEq] at started
      rw [moved, ← started]
      intro callback past
      rw [Orchestration.concluded] at past
      rcases effect with ⟨-, same⟩ | ⟨evidence, found, -, own⟩
      · rw [same] at past ⊢
        exact kept.spared call running callback past
      · rcases own with finishes | ⟨-, failure⟩
        · rw [Call.not_finishes callback] at finishes
          cases finishes
        · rw [found, failure]

/-- What holds after careful events, by induction on the events from the last one. -/
theorem kept_of_careful (careful : CarefulCallbacks dagId airflowRunId database events) :
    Kept dagId airflowRunId database events := by
  induction events using List.reverseRecOn with
  | nil =>
    refine ⟨?_, fun _ => rfl, ?_, ?_⟩
    · intro call started
      cases started
    · rintro ⟨before, choice, later, call, split, -⟩
      exact absurd split (by simp)
    · intro call started
      cases started
  | append_singleton events event ih =>
    obtain ⟨earlier, last⟩ := ((calls dagId airflowRunId).admitted_append _ _ _).mp careful
    have kept := ih earlier
    cases event with
    | start call => exact kept.start last.1
    | step choice => exact kept.step choice

/-- For every run of a pipeline, every content of the tables at first and every sequence of calls
about the run, with any failures: if every callback is made before the run has a terminal status,
or when it already reads FAILED with no records and no assets, then what a finish call has stored
stays until the next finish call. -/
theorem evidence_survives (dagId airflowRunId : PyStr) (database : ControlDatabase)
    (events : List (Event Call Choice))
    (careful : CarefulCallbacks dagId airflowRunId database events) :
    Survives dagId airflowRunId database events := by
  intro before choice later call split stored running other
  rw [split] at careful
  have kept := kept_of_careful (((calls dagId airflowRunId).admitted_append _ _ _).mp careful).1
  have moved : stateAfter dagId airflowRunId database (before ++ [.step choice]) =
      controlStore.step choice (stateAfter dagId airflowRunId database before) :=
    stateAfter_append (.step choice)
  rw [evidenceAfter, moved]
  rcases step_recorded (kept.uses call running) choice
    (stateAfter dagId airflowRunId database before).2 with ⟨-, same⟩ | ⟨evidence, found, -, own⟩
  · exact same
  · rcases own with finishes | ⟨callback, failure⟩
    · rw [other] at finishes
      cases finishes
    · rw [found, failure]
      exact (kept.spared call running callback (kept.concluded stored)).symm

end

/-- The tables after `begin_pipeline`. -/
def begun : ControlDatabase :=
  (controlStore.run [{}, {}]
    (beginPipeline "cdc" "manual__1" "cdc-bronze-to-silver" .epoch .manual, .empty)).2

/-- A task fails and its callback ends the run; the health gate fails, which has no records, and its
callback follows; the task is repeated, the pipeline ends with ten records, and a late result of the
task is recorded. -/
def repeatedTask : List (Event Call Choice) :=
  [.start (.failureCallback (some "process_customers") (some 1) .epoch), .step {}, .step {},
    .start (.finishCdcHealthPipeline 5000 30 100 1000 60 600), .step {}, .step {},
    .start (.failureCallback (some "check_cdc_health") (some 1) .epoch), .step {}, .step {},
    .start (.finishPipeline [⟨.succeeded, 10, 10, 0, [], ["s3://silver/customers"], []⟩]
      (1 / 100) (1 / 20)), .step {}, .step {},
    .start (.recordTaskResult "process_customers"
      ⟨.succeeded, 10, 10, 0, [], ["s3://silver/customers"], []⟩ 2 .epoch), .step {}]

/-- The failed end survives its callback, and the records of the repeated task the late result. -/
theorem repeatedTask_survives :
    evidenceAfter "cdc" "manual__1" begun (repeatedTask.take 6) = some ⟨.failed, 0, 0, 0, []⟩ ∧
      evidenceAfter "cdc" "manual__1" begun (repeatedTask.take 12) =
        some ⟨.succeeded, 10, 10, 0, ["s3://silver/customers"]⟩ ∧
      Survives "cdc" "manual__1" begun repeatedTask := by
  refine ⟨by decide +kernel, by decide +kernel, evidence_survives _ _ _ _ ?_⟩
  have careful : (calls "cdc" "manual__1").Admitted (Careful "cdc" "manual__1")
      (fun _ _ _ => True) repeatedTask (.done (), begun) := by decide +kernel
  exact careful

/-- The gate fails, which its call stores and raises; the callback of the failed task follows. -/
def failedGate : List (Event Call Choice) :=
  [.start (.finishPipeline [⟨.succeeded, 10, 5, 5, [], ["s3://silver/customers"], []⟩]
      (1 / 100) (1 / 20)), .step {}, .step {},
    .start (.failureCallback (some "run_quality_gate") (some 1) .epoch), .step {}, .step {}]

/-- The callback of the failed gate replaces the counts and the assets the gate stored. -/
theorem failedGate_forgotten :
    evidenceAfter "cdc" "manual__1" begun (failedGate.take 4) =
        some ⟨.failed, 10, 5, 5, ["s3://silver/customers"]⟩ ∧
      evidenceAfter "cdc" "manual__1" begun failedGate = some ⟨.failed, 0, 0, 0, []⟩ ∧
      ¬ Survives "cdc" "manual__1" begun failedGate := by
  have before : evidenceAfter "cdc" "manual__1" begun (failedGate.take 5) =
      some ⟨.failed, 10, 5, 5, ["s3://silver/customers"]⟩ := by decide +kernel
  have after : evidenceAfter "cdc" "manual__1" begun failedGate = some ⟨.failed, 0, 0, 0, []⟩ := by
    decide +kernel
  refine ⟨by decide +kernel, after, fun survives => ?_⟩
  have stored : FinishStored "cdc" "manual__1" begun (failedGate.take 5) :=
    ⟨failedGate.take 2, {}, (failedGate.take 5).drop 3, _, rfl, rfl, rfl, by decide +kernel⟩
  have whole : failedGate.take 5 ++ [.step {}] = failedGate := rfl
  have same := survives (failedGate.take 5) {} [] _ rfl stored rfl rfl
  rw [whole, before, after] at same
  exact absurd same (by decide)

end Orchestration
