import PaymentsPlatform.Orchestration.Tasks

/-!
# Skipped results and the verdict on a pipeline

A skipped result carries the status and the counts of the earlier run it stands for, and neither
the Silver command nor the tasks after it look at `skipped`. The verdict on a list of results
stays the same when skipped results are added to it exactly when the list fails by itself, or the
added results are all completed and count nothing: `same_verdict_iff`.
-/

namespace Orchestration

open Python Silver

/-- What `finish_pipeline` reports of an assessment: the status, the rejection rate and the
counts. -/
def Assessment.verdict (assessment : Assessment) : PipelineStatus × ℚ × Int × Int × Int :=
  (assessment.status, assessment.quality.observedValue, assessment.recordsRead,
    assessment.recordsWritten, assessment.recordsRejected)

/-- `process_silver` raises. -/
def Raises (dryRun : Bool) (results : List ProcessingResult) : Prop :=
  ∃ error, processSilver dryRun results = .error error

/-- Two lists of results are judged alike: `process_silver` raises for both or for neither, and
`finish_pipeline` computes the same from what it returns, whatever the other tasks of the pipeline
return and whatever the rates are. -/
structure SameVerdict (dryRun : Bool) (longer shorter : List ProcessingResult) : Prop where
  /-- It raises for both or for neither. -/
  raises : Raises dryRun longer ↔ Raises dryRun shorter
  /-- The same is computed. -/
  computed : ∀ one two, processSilver dryRun longer = .ok one →
    processSilver dryRun shorter = .ok two → ∀ before after warnRate failRate,
      (assess (before ++ one :: after) warnRate failRate).map Assessment.verdict =
        (assess (before ++ two :: after) warnRate failRate).map Assessment.verdict

/-- A result that is completed and counts no record. -/
def CountsNothing (dryRun : Bool) (result : ProcessingResult) : Prop :=
  result.status = .completed ∧ result.inputRecordCount = 0 ∧ result.rejectedRecordCount = 0 ∧
    (dryRun = false → result.outputRecordCount = 0)

/-- The counts of a list of results. -/
def counts (dryRun : Bool) (results : List ProcessingResult) : Int × Int × Int :=
  ((results.map fun item => (item.inputRecordCount : Int)).sum,
    if dryRun then 0 else (results.map fun item => (item.outputRecordCount : Int)).sum,
    (results.map fun item => (item.rejectedRecordCount : Int)).sum)

/-- The counts of a result of a task. -/
def TaskResult.counts (result : TaskResult) : Int × Int × Int :=
  (result.recordsRead, result.recordsWritten, result.recordsRejected)

/-- `process_silver` raises when a result is not completed. -/
theorem raises_iff {dryRun : Bool} {results : List ProcessingResult} :
    Raises dryRun results ↔ ∃ result ∈ results, result.status ≠ .completed := by
  by_cases every : results.all fun item => item.status = .completed
  · have returns : ∃ task, processSilver dryRun results = .ok task := by
      simp [processSilver, printed, every, runApplicationCli, bind, Except.bind, pure, Except.pure]
    obtain ⟨task, returned⟩ := returns
    simp only [Raises, returned, reduceCtorEq, exists_false, false_iff, not_exists, not_and,
      not_not]
    simpa using every
  · have raised : Raises dryRun results := by
      simp [Raises, processSilver, printed, every, runApplicationCli, bind, Except.bind]
    simp only [raised, true_iff]
    simpa using every

/-- The counts `process_silver` returns. -/
theorem counts_of_returned {dryRun : Bool} {results : List ProcessingResult} {task : TaskResult}
    (returned : processSilver dryRun results = .ok task) : task.counts = counts dryRun results := by
  have every : ¬ Raises dryRun results := by
    rintro ⟨error, raised⟩
    rw [returned] at raised
    cases raised
  have all : (results.all fun item => item.status = .completed) = true := by
    simpa [raises_iff] using every
  simp only [processSilver, printed, all, runApplicationCli, bind, Except.bind, pure, Except.pure,
    if_true, List.mem_singleton, not_true_eq_false, if_false, List.getLast?_singleton,
    Option.getD_some, Except.ok.injEq] at returned
  rw [← returned]
  rfl

/-- What is computed from results depends on their counts only. -/
theorem verdict_of_counts {one two : TaskResult} (same : one.counts = two.counts)
    (before after : List TaskResult) (warnRate failRate : ℚ) :
    (assess (before ++ one :: after) warnRate failRate).map Assessment.verdict =
      (assess (before ++ two :: after) warnRate failRate).map Assessment.verdict := by
  obtain ⟨read, written, rejected⟩ : one.recordsRead = two.recordsRead ∧
      one.recordsWritten = two.recordsWritten ∧ one.recordsRejected = two.recordsRejected := by
    simpa [TaskResult.counts] using same
  simp only [assess, List.map_append, List.map_cons, read, written, rejected]
  cases rejectionRateResult _ _ warnRate failRate with
  | error error => rfl
  | ok quality => rfl

/-- A result alone is judged by counts that are its own. -/
theorem counts_of_verdict {one two : TaskResult} (positive : 0 ≤ one.recordsRead ∧
    0 ≤ one.recordsRejected) (same : (assess [one] 0 0).map Assessment.verdict =
      (assess [two] 0 0).map Assessment.verdict) : one.counts = two.counts := by
  have judged : ∃ quality, rejectionRateResult one.recordsRead one.recordsRejected 0 0 =
      .ok quality := by
    simp [rejectionRateResult, classifyThreshold, not_lt.mpr positive.1, not_lt.mpr positive.2]
  obtain ⟨quality, judged⟩ := judged
  simp only [assess, List.map_cons, List.map_nil, List.sum_cons, List.sum_nil, add_zero, judged]
    at same
  cases other : rejectionRateResult two.recordsRead two.recordsRejected 0 0 with
  | error error =>
    rw [other] at same
    cases same
  | ok quality' =>
    rw [other] at same
    simp only [bind, Except.bind, pure, Except.pure, Except.map, Assessment.verdict,
      Except.ok.injEq, Prod.mk.injEq] at same
    simp only [TaskResult.counts, Prod.mk.injEq]
    exact ⟨same.2.2.1, same.2.2.2.1, same.2.2.2.2⟩

/-- The counts of a list with more results. -/
theorem counts_perm {dryRun : Bool} {longer shorter added : List ProcessingResult}
    (together : longer.Perm (shorter ++ added)) :
    counts dryRun longer = counts dryRun shorter + counts dryRun added := by
  have split : ∀ count : ProcessingResult → Int,
      (longer.map count).sum = (shorter.map count).sum + (added.map count).sum := by
    intro count
    rw [(together.map count).sum_eq, List.map_append, List.sum_append]
  cases dryRun <;> simp [counts, split]

/-- Natural numbers that sum to nothing. -/
theorem sum_eq_zero_iff (count : ProcessingResult → Nat) (results : List ProcessingResult) :
    (results.map fun item => (count item : Int)).sum = 0 ↔ ∀ item ∈ results, count item = 0 := by
  induction results with
  | nil => simp
  | cons item results ih =>
    have rest : 0 ≤ (results.map fun item => (count item : Int)).sum := by
      apply List.sum_nonneg
      intro number member
      obtain ⟨other, -, rfl⟩ := List.mem_map.mp member
      exact Int.natCast_nonneg _
    rw [List.map_cons, List.sum_cons, List.forall_mem_cons, ← ih]
    omega

/-- Results that count nothing. -/
theorem counts_eq_zero_iff {dryRun : Bool} {results : List ProcessingResult} :
    counts dryRun results = 0 ↔ ∀ result ∈ results, result.inputRecordCount = 0 ∧
      result.rejectedRecordCount = 0 ∧ (dryRun = false → result.outputRecordCount = 0) := by
  have parts : counts dryRun results = 0 ↔
      (∀ result ∈ results, result.inputRecordCount = 0) ∧
        (dryRun = false → ∀ result ∈ results, result.outputRecordCount = 0) ∧
        ∀ result ∈ results, result.rejectedRecordCount = 0 := by
    cases dryRun <;> simp [counts, Prod.ext_iff, sum_eq_zero_iff]
  rw [parts]
  constructor
  · rintro ⟨read, written, rejected⟩ result member
    exact ⟨read result member, rejected result member, fun real => written real result member⟩
  · intro each
    exact ⟨fun result member => (each result member).1,
      fun real result member => (each result member).2.2 real,
      fun result member => (each result member).2.1⟩

/-- The counts of results are natural numbers. -/
theorem counts_nonneg (dryRun : Bool) (results : List ProcessingResult) :
    0 ≤ (counts dryRun results).1 ∧ 0 ≤ (counts dryRun results).2.2 := by
  constructor
  all_goals
    apply List.sum_nonneg
    intro number member
    obtain ⟨result, -, rfl⟩ := List.mem_map.mp member
    exact Int.natCast_nonneg _

/-- Of two lists that are returned, the longer one is judged like the shorter exactly when the
results in between count nothing. -/
theorem computed_iff {dryRun : Bool} {longer shorter added : List ProcessingResult}
    (together : longer.Perm (shorter ++ added)) {one two : TaskResult}
    (first : processSilver dryRun longer = .ok one)
    (second : processSilver dryRun shorter = .ok two) :
    (∀ before after warnRate failRate,
      (assess (before ++ one :: after) warnRate failRate).map Assessment.verdict =
        (assess (before ++ two :: after) warnRate failRate).map Assessment.verdict) ↔
      counts dryRun added = 0 := by
  have sums : one.counts = two.counts + counts dryRun added := by
    rw [counts_of_returned first, counts_of_returned second, counts_perm together]
  constructor
  · intro computed
    have positive : 0 ≤ one.recordsRead ∧ 0 ≤ one.recordsRejected := by
      have own := counts_nonneg dryRun longer
      rw [← counts_of_returned first] at own
      exact own
    have same := counts_of_verdict positive (computed [] [] 0 0)
    rw [same] at sums
    exact left_eq_add.mp sums
  · intro nothing before after warnRate failRate
    rw [nothing, add_zero] at sums
    exact verdict_of_counts sums before after warnRate failRate

/-- Whatever lists of skipped results are put into a list of results, at whatever positions: the
verdict stays the same if and only if a result of the list is not completed by itself, or each
result put in is completed and counts no record read, rejected or (outside a dry run) written. -/
theorem same_verdict_iff (dryRun : Bool) {longer shorter added : List ProcessingResult}
    (together : longer.Perm (shorter ++ added))
    (_skipped : ∀ result ∈ added, result.skipped = true) :
    SameVerdict dryRun longer shorter ↔
      (∃ result ∈ shorter, result.status ≠ .completed) ∨
        ∀ result ∈ added, CountsNothing dryRun result := by
  have members : ∀ result, result ∈ longer ↔ result ∈ shorter ∨ result ∈ added := by
    intro result
    rw [together.mem_iff, List.mem_append]
  constructor
  · intro same
    by_cases broken : ∃ result ∈ shorter, result.status ≠ .completed
    · exact Or.inl broken
    · have fine : ¬ Raises dryRun shorter := fun raised => broken (raises_iff.mp raised)
      have fine' : ¬ Raises dryRun longer := fun raised => fine (same.raises.mp raised)
      obtain ⟨one, first⟩ : ∃ task, processSilver dryRun longer = .ok task := by
        cases returned : processSilver dryRun longer with
        | error error => exact absurd ⟨error, returned⟩ fine'
        | ok task => exact ⟨task, rfl⟩
      obtain ⟨two, second⟩ : ∃ task, processSilver dryRun shorter = .ok task := by
        cases returned : processSilver dryRun shorter with
        | error error => exact absurd ⟨error, returned⟩ fine
        | ok task => exact ⟨task, rfl⟩
      have nothing := (computed_iff together first second).mp (same.computed one two first second)
      refine Or.inr fun result member => ⟨?_, counts_eq_zero_iff.mp nothing result member⟩
      by_contra open'
      exact fine' (raises_iff.mpr ⟨result, (members result).mpr (Or.inr member), open'⟩)
  · rintro (⟨result, member, open'⟩ | nothing)
    · have raised : Raises dryRun shorter := raises_iff.mpr ⟨result, member, open'⟩
      have raised' : Raises dryRun longer :=
        raises_iff.mpr ⟨result, (members result).mpr (Or.inl member), open'⟩
      refine ⟨⟨fun _ => raised, fun _ => raised'⟩, fun one two first _ => ?_⟩
      obtain ⟨error, failed⟩ := raised'
      rw [first] at failed
      cases failed
    · have zero : counts dryRun added = 0 :=
        counts_eq_zero_iff.mpr fun result member => (nothing result member).2
      refine ⟨?_, fun one two first second => (computed_iff together first second).mpr zero⟩
      rw [raises_iff, raises_iff]
      constructor
      · rintro ⟨result, member, open'⟩
        rcases (members result).mp member with own | other
        · exact ⟨result, own, open'⟩
        · exact absurd (nothing result other).1 open'
      · rintro ⟨result, member, open'⟩
        exact ⟨result, (members result).mpr (Or.inl member), open'⟩

/-- A result of ten records of customers, of which so many were rejected. -/
def tenRecords (rejected : Nat) (skipped : Bool) : ProcessingResult where
  runId := none
  inputObjectUri := "s3://bronze/cdc/customers"
  status := .completed
  entityName := "customers"
  inputRecordCount := 10
  outputRecordCount := 10
  rejectedRecordCount := rejected
  skipped := skipped

/-- The status of a pipeline that does nothing else, at the rates of the default settings. -/
def statusOf (results : List ProcessingResult) : Option PipelineStatus :=
  match processSilver false results with
  | .ok task => ((assess [task] (1 / 100) (1 / 20)).map (·.status)).toOption
  | .error _ => none

/-- An empty object of an earlier run changes nothing. -/
theorem empty_object_same :
    let empty := { tenRecords 0 true with inputRecordCount := 0, outputRecordCount := 0 }
    SameVerdict false [empty, tenRecords 1 false] [tenRecords 1 false] := by
  intro empty
  have skipped : ∀ result ∈ [empty], result.skipped = true := by simp [empty, tenRecords]
  have together : [empty, tenRecords 1 false].Perm ([tenRecords 1 false] ++ [empty]) :=
    List.Perm.swap _ _ _
  refine (same_verdict_iff false together skipped).mpr (Or.inr ?_)
  simp [empty, tenRecords, CountsNothing]

/-- Ten records of today, all valid, make a pipeline that succeeds. With ten rejected records of
an earlier run before them the pipeline fails. -/
theorem rejected_object_decides :
    statusOf [tenRecords 0 false] = some .succeeded ∧
      statusOf [tenRecords 10 true, tenRecords 0 false] = some .failed ∧
      ¬ SameVerdict false [tenRecords 10 true, tenRecords 0 false] [tenRecords 0 false] := by
  have today : statusOf [tenRecords 0 false] = some .succeeded := by decide +kernel
  have together : statusOf [tenRecords 10 true, tenRecords 0 false] = some .failed := by
    decide +kernel
  refine ⟨today, together, fun same => ?_⟩
  have perm : [tenRecords 10 true, tenRecords 0 false].Perm
      ([tenRecords 0 false] ++ [tenRecords 10 true]) := List.Perm.swap _ _ _
  have completed : ¬ Raises false [tenRecords 10 true, tenRecords 0 false] := by
    simp [raises_iff, tenRecords]
  have completed' : ¬ Raises false [tenRecords 0 false] := by
    simp [raises_iff, tenRecords]
  cases first : processSilver false [tenRecords 10 true, tenRecords 0 false] with
  | error error => exact completed ⟨error, first⟩
  | ok one =>
    cases second : processSilver false [tenRecords 0 false] with
    | error error => exact completed' ⟨error, second⟩
    | ok two =>
      have nothing := (computed_iff perm first second).mp (same.computed one two first second)
      exact absurd nothing (by decide +kernel)

end Orchestration
