import PaymentsPlatform.Settlement.Acceptance
import PaymentsPlatform.Silver.Chronology
import PaymentsPlatform.Silver.Grain

/-!
# The newest snapshot

`latest_output` and `find_latest_identity` order the rows by a text column. While the order of the
texts is the order of the registrations, both queries return what the last run wrote, and so they do
in every history of calls of both pipelines whose clock readings increase and do not fall into one
second with an earlier one that has no fraction.
-/

namespace Silver

open Python Effects
open Settlement (SettlementContract)

variable {deployment : Deployment}

/-! ## The order of the rows -/

/-- A row before all others is the last one in decreasing order. -/
theorem orderedInsert_last {key : ProcessingRun → RunOrderKey} {run : ProcessingRun}
    {runs : List ProcessingRun} (first : ∀ other ∈ runs, key run < key other) :
    runs.orderedInsert (Follows key) run = runs ++ [run] := by
  induction runs with
  | nil => rfl
  | cons other runs ih =>
    have after : ¬ Follows key run other := not_le.mpr (first other (List.mem_cons_self ..))
    rw [List.orderedInsert_cons, if_neg after,
      ih fun item member => first item (List.mem_cons_of_mem _ member)]
    rfl

/-- Rows in increasing order are in decreasing order when they are reversed. -/
theorem descending_eq_reverse {key : ProcessingRun → RunOrderKey} {runs : List ProcessingRun}
    (increasing : runs.Pairwise fun left right => key left < key right) :
    descending key runs = runs.reverse := by
  unfold descending
  induction runs with
  | nil => rfl
  | cons run runs ih =>
    obtain ⟨first, later⟩ := List.pairwise_cons.mp increasing
    rw [List.insertionSort_cons, ih later, List.reverse_cons]
    exact orderedInsert_last fun other member => first other (List.mem_reverse.mp member)

/-- The output of a kind of the last completed run of an entity that has one. -/
def lastOutput (rows : List ProcessingRun) (entityName : PyStr) (outputType : OutputType)
    (excluded : Option PyStr) : Option SilverOutput :=
  (completedRuns rows entityName excluded).reverse.findSome? (·.output? outputType)

/-- The last run of an identity. -/
def lastIdentity (rows : List ProcessingRun) (identity : RunIdentity) : Option ProcessingRun :=
  (rows.filter fun run => run.identity = identity).getLast?

/-- Both queries return what the last run wrote. -/
structure ReturnsLast (table : ManifestTable) : Prop where
  /-- `latest_output`. -/
  output : ∀ entityName outputType excluded,
    latestOutput table entityName outputType excluded =
      lastOutput table.rows entityName outputType excluded
  /-- `find_latest_identity`. -/
  identity : ∀ identity, findLatestIdentity table identity = lastIdentity table.rows identity

/-- In chronological order the last row is the newest one. -/
theorem Chronological.returns_last {table : ManifestTable} (order : Chronological table.rows) :
    ReturnsLast table where
  output := by
    intro entityName outputType excluded
    unfold latestOutput latestAmong lastOutput
    rw [descending_eq_reverse]
    refine (order.increasing.filter _).imp_of_mem fun {left right} one two below => ?_
    obtain ⟨leftRow, leftFacts⟩ := List.mem_filter.mp one
    obtain ⟨rightRow, rightFacts⟩ := List.mem_filter.mp two
    rw [decide_eq_true_eq] at leftFacts rightFacts
    unfold ProcessingRun.completionKey
    rw [order.completed left leftRow leftFacts.2.1, order.completed right rightRow rightFacts.2.1]
    exact Prod.Lex.toLex_lt_toLex.mpr (Or.inl below)
  identity := by
    intro identity
    unfold findLatestIdentity lastIdentity
    rw [descending_eq_reverse, List.head?_reverse]
    exact (order.increasing.filter _).imp fun below => Prod.Lex.toLex_lt_toLex.mpr (Or.inl below)

/-! ## Histories -/

/-- Histories of the processor in which the clock shows times that meet a condition. -/
def Timed (deployment : Deployment) (contract : Except PyError SettlementContract)
    (clock : World → Instant → Prop) (events : List (Event Call Choice)) : Prop :=
  (processor deployment contract).Admitted (fun _ _ => True) (Clocked clock) events
    (.done (), .empty)

/-- Whether a choice is admitted is decided when the condition on the clock is. -/
instance (clock : World → Instant → Prop) [∀ world now, Decidable (clock world now)]
    (op : signature.Op) (choice : Choice) (world : World) :
    Decidable (Clocked clock op choice world) :=
  match op with
  | .now => inferInstanceAs (Decidable (clock world choice.clock))
  | .newRunId => .isTrue trivial
  | .wallClock => .isTrue trivial
  | .findLatestIdentity _ => .isTrue trivial
  | .register _ => .isTrue trivial
  | .transition .. => .isTrue trivial
  | .getRun _ => .isTrue trivial
  | .latestOutput .. => .isTrue trivial
  | .readBronze _ => .isTrue trivial
  | .readSilver _ => .isTrue trivial
  | .serialize _ => .isTrue trivial
  | .put .. => .isTrue trivial

/-- Whether a history is one of these is decided when the condition on the clock is. -/
instance (deployment : Deployment) (contract : Except PyError SettlementContract)
    (clock : World → Instant → Prop) [∀ world now, Decidable (clock world now)]
    (events : List (Event Call Choice)) : Decidable (Timed deployment contract clock events) :=
  have each : ∀ (_ : Call) (_ : World), Decidable True := fun _ _ => .isTrue trivial
  have every : ∀ (op : signature.Op) choice world, Decidable (Clocked clock op choice world) :=
    fun _ _ _ => inferInstance
  @Service.admittedDecidable signature PyError World Choice Call (fun _ _ => True) (Clocked clock)
    each every (processor deployment contract) events (.done (), .empty)

/-- The order of the texts of two instants is their order unless both lie in one second and the
earlier one has no fraction; and at every moment of every history of calls, of both pipelines, whose
clock readings increase and never fall so, `latest_output` and `find_latest_identity` return what
the last run wrote. -/
theorem newest_run_returned (deployment : Deployment)
    (contract : Except PyError SettlementContract) :
    (∀ left right : Instant, left.micros < right.micros →
      (left.utcIso < right.utcIso ↔ ¬ (left.seconds = right.seconds ∧ left.microsecond = 0))) ∧
    ∀ events, Timed deployment contract LaterApart events →
      ReturnsLast ((processor deployment contract).moment events .empty).manifest := by
  refine ⟨fun left right below => Instant.utcIso_lt_iff below, fun events timed => ?_⟩
  have tracks : Tracks Ordered Ordered := ⟨fun _ => id, fun one two => two ∘ one, id⟩
  have kept := (processor deployment contract).keeps_admitted
    (I := fun world => Chronological world.manifest.rows) tracks
    (fun _ _ ordered order => ordered order) ?_ events (.done (), .empty) timed
    Chronological.nil trivial
  · exact kept.1.returns_last
  · intro call world order _
    refine ⟨order, id, ?_⟩
    cases call with
    | cdc request => exact Meets.bind (processCdc_orders request order)
    | settlement request => exact Meets.bind (processSettlement_orders contract request order)

/-! ## Runs of both pipelines -/

/-- A time after 1970-01-01T00:00:00Z, in microseconds. -/
def after (micros : Fin 2000000) : Instant where
  micros := epochDay * dayMicros + micros
  representable := by
    have small := micros.isLt
    unfold epochDay calendarDays dayMicros
    omega

/-- The tables of the run on the second object at a time. -/
def secondTables (now : Instant) : List Table :=
  customerTables (runOf ⟨customerObject 2, false, false⟩ [66] now) (snapshotRows createdTables)
    laterRows

/-- The Bronze object of a settlement file, without metadata. -/
def sampleSettlement : SettlementObject where
  uri := "sample"
  bucket := [98]
  objectKey := py "settlements/partner_id=VCB/settlement_date=2026-07-22/" ++ Settlement.sampleName
  checksumSha256 := sha256.hexdigest (Settlement.sampleHeader ++ Settlement.sampleRows)
  metadata := []

/-- The tables of the run on it at a time. -/
def sampleTables (now : Instant) : List Table :=
  match normalizeSettlementBytes Settlement.settlementV1
      (Settlement.sampleHeader ++ Settlement.sampleRows) sampleSettlement [67] now with
  | .ok (rows, rejections, _) => [.settlements rows, .rejections rejections]
  | .error _ => []

/-- Two objects of customers, of which the second one is processed later, and the settlement
file. -/
def tickedDeployment : Deployment :=
  { customerDeployment (createdTables ++ secondTables (after 500000) ++
      secondTables (after 1500000) ++ sampleTables (after 1000001))
      fun number => if number = 1 then createdRows else laterRows with
    bronze := fun object =>
      if object.uri = py "sample" then .ok (Settlement.sampleHeader ++ Settlement.sampleRows)
      else match object.uri with
        | [number] => .ok [UInt8.ofNat number]
        | _ => .error ⟨.osError, "No such file or directory"⟩ }

/-- An undisturbed call at a time and under a run identifier. -/
def callOf (call : Call) (runId : PyStr) (now : Instant) : List (Event Call Choice) :=
  .start call :: List.replicate 24 (.step { clock := now, runId })

/-- The customers are processed twice, half a second apart. -/
def halfSecond : List (Event Call Choice) :=
  callOf (.cdc ⟨customerObject 1, false, false⟩) [65] Instant.epoch ++
    callOf (.cdc ⟨customerObject 2, false, false⟩) [66] (after 500000)

/-- The customers are processed twice, a second and a half apart, and the settlement file between
the two runs. -/
def nextSecond : List (Event Call Choice) :=
  callOf (.cdc ⟨customerObject 1, false, false⟩) [65] Instant.epoch ++
    callOf (.settlement ⟨sampleSettlement, false, false⟩) [67] (after 1000001) ++
    callOf (.cdc ⟨customerObject 2, false, false⟩) [66] (after 1500000)

set_option maxRecDepth 10000 in
/-- Its readings never fall into one second with a full one, and all its runs complete. -/
theorem nextSecond_completes :
    Timed tickedDeployment (.ok Settlement.settlementV1) LaterApart nextSecond ∧
    ((processor tickedDeployment (.ok Settlement.settlementV1)).moment nextSecond
        .empty).manifest.rows.map (fun run => (run.entityName, run.status)) =
      [(Entity.customers.name, .completed), (py "settlements", .completed),
        (Entity.customers.name, .completed)] := by
  decide +kernel

/-- More than a second later, the snapshot of the second run is the latest one, and so are the
settlements of the run between. -/
theorem next_second_returned :
    Timed tickedDeployment (.ok Settlement.settlementV1) LaterApart nextSecond ∧
    ((processor tickedDeployment (.ok Settlement.settlementV1)).moment nextSecond
        .empty).manifest.rows.map (fun run => (run.entityName, run.status)) =
      [(Entity.customers.name, .completed), (py "settlements", .completed),
        (Entity.customers.name, .completed)] ∧
    ReturnsLast ((processor tickedDeployment (.ok Settlement.settlementV1)).moment nextSecond
      .empty).manifest := by
  obtain ⟨timed, completed⟩ := nextSecond_completes
  exact ⟨timed, completed, (newest_run_returned tickedDeployment _).2 _ timed⟩

set_option maxRecDepth 10000 in
/-- Half a second later, the readings increase as well, but the snapshot of the first run is
returned. -/
theorem half_second_forgotten :
    Timed tickedDeployment (.ok Settlement.settlementV1) Later halfSecond ∧
    ¬ ReturnsLast ((processor tickedDeployment (.ok Settlement.settlementV1)).moment halfSecond
      .empty).manifest := by
  have facts : Timed tickedDeployment (.ok Settlement.settlementV1) Later halfSecond ∧
      latestOutput ((processor tickedDeployment (.ok Settlement.settlementV1)).moment halfSecond
          .empty).manifest Entity.customers.name .latestAll none ≠
        lastOutput ((processor tickedDeployment (.ok Settlement.settlementV1)).moment halfSecond
          .empty).manifest.rows Entity.customers.name .latestAll none := by
    decide +kernel
  exact ⟨facts.1, fun returns => facts.2 (returns.output _ _ _)⟩

end Silver
