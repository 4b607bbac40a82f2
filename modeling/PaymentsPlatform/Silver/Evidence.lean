import PaymentsPlatform.Silver.Layout

/-!
# The evidence behind a completed run

What a run computed and wrote: the rows it read, the events it accepted, the state it started
from, the state it built and the tables it wrote. A completed row of the manifest is explained by
such work. Rows are in the order in which the runs started, and in a history of calls one after
another this is the order in which they completed; the state a run started from is the newest
snapshot among the rows before its own.
-/

namespace Silver

open Python Effects

/-- A table that is written when it has rows. -/
def planSome (outputType : OutputType) (table : Table) : List (OutputType × Table) :=
  if table.rowCount = 0 then [] else [(outputType, table)]

/-- The tables of the entity's own rows. -/
def planEntityRows (entity : Entity) (build : Build) : List (OutputType × Table) :=
  if entity = .transactionEvents then planSome .events (.state entity build.eventRows)
  else [(.latestAll, .state entity (latestRows build.state)),
    (.current, .state entity (currentRows (latestRows build.state)))]

/-- The tables a run writes, in order. -/
def planTables (entity : Entity) (events : List NormalizedCdcEvent) (build : Build) :
    List (OutputType × Table) :=
  planSome .history (.history events) ++ planEntityRows entity build ++
    planSome .rejections (.rejections build.rejections) ++
    planSome .unresolvedReferences (.unresolved build.unresolved)

/-- A table of a run is stored as an output describes it. -/
structure Stored (deployment : Deployment) (objects : PyStr → Option Bytes) (runId : PyStr)
    (planned : OutputType × Table) (output : SilverOutput) : Prop where
  /-- The kind of output. -/
  outputType : output.outputType = planned.1
  /-- The rows. -/
  recordCount : output.recordCount = planned.2.rowCount
  /-- The address is one of the run. -/
  address : IsAddress deployment runId planned.1 output.objectUri
  /-- The object is there, with this digest. -/
  present : ∃ data, deployment.format.write planned.2 = .ok data ∧
    objects output.objectUri = some data ∧ output.checksumSha256 = deployment.sha.hexdigest data

/-- Stored objects stay. -/
def Preserved (before after : PyStr → Option Bytes) : Prop :=
  ∀ uri data, before uri = some data → after uri = some data

/-- A stored table stays stored. -/
theorem Stored.mono {deployment : Deployment} {before after : PyStr → Option Bytes}
    {runId : PyStr} {planned : OutputType × Table} {output : SilverOutput}
    (kept : Preserved before after) (stored : Stored deployment before runId planned output) :
    Stored deployment after runId planned output := by
  obtain ⟨data, written, present, digest⟩ := stored.present
  exact ⟨stored.outputType, stored.recordCount, stored.address,
    ⟨data, written, kept _ _ present, digest⟩⟩

/-- The rows of an object that holds rows of an entity. -/
def readRows (deployment : Deployment) (objects : PyStr → Option Bytes) (uri : PyStr)
    (entity : Entity) : Option (List StateRow) :=
  match objects uri with
  | none => none
  | some data =>
    match deployment.format.read data with
    | .ok (.state other rows) => if other = entity then some rows else none
    | _ => none

/-- Rows that are read stay readable. -/
theorem readRows_mono {deployment : Deployment} {before after : PyStr → Option Bytes}
    {uri : PyStr} {entity : Entity} {rows : List StateRow} (kept : Preserved before after)
    (found : readRows deployment before uri entity = some rows) :
    readRows deployment after uri entity = some rows := by
  unfold readRows at found ⊢
  cases present : before uri with
  | none =>
    rw [present] at found
    cases found
  | some data =>
    rw [present] at found
    rw [kept uri data present]
    exact found

/-- The state a run starts from: the newest snapshot among the given rows. -/
def priorState (deployment : Deployment) (objects : PyStr → Option Bytes)
    (rows : List ProcessingRun) (run : Run) : Option StateTable :=
  match latestAmong rows run.entityName .latestAll
    (if run.forceReprocess then some run.object.checksumSha256 else none) with
  | none => some .empty
  | some output => (Entity.ofName run.entityName).bind fun entity =>
      (readRows deployment objects output.objectUri entity).map (indexRows entity)

/-- The state a run starts from does not depend on objects written later. -/
theorem priorState_mono {deployment : Deployment} {before after : PyStr → Option Bytes}
    {rows : List ProcessingRun} {run : Run} {state : StateTable} (kept : Preserved before after)
    (found : priorState deployment before rows run = some state) :
    priorState deployment after rows run = some state := by
  unfold priorState at found ⊢
  cases latest : latestAmong rows run.entityName .latestAll
      (if run.forceReprocess then some run.object.checksumSha256 else none) with
  | none =>
    rw [latest] at found
    exact found
  | some output =>
    rw [latest] at found
    dsimp only at found ⊢
    obtain ⟨entity, named, rest⟩ := Option.bind_eq_some_iff.mp found
    obtain ⟨table, read, rfl⟩ := Option.map_eq_some_iff.mp rest
    rw [named, Option.bind_some, readRows_mono kept read]
    rfl

/-- What a run worked on and what it built. -/
structure Work where
  /-- The run. -/
  run : Run
  /-- The entity. -/
  entity : Entity
  /-- The rows of the object. -/
  rows : List BronzeRow
  /-- The events of the object. -/
  events : List NormalizedCdcEvent
  /-- The rows that are no events. -/
  rejections : List QualityRejection
  /-- The state before. -/
  state : StateTable
  /-- The keys that can be referred to. -/
  known : KnownKeys
  /-- What the loop built. -/
  build : Build

/-- The events a run takes over: one for each coordinate. -/
def Work.accepted (work : Work) : List NormalizedCdcEvent := (deduplicateEvents work.events).1

/-- What the loop starts with. -/
def Work.start (work : Work) : Build where
  state := work.state
  known := work.known
  rejections := work.rejections ++
    (deduplicateEvents work.events).2.map (duplicateRejection work.run)

/-- The work of a run is done: from its object and the state before to the build. -/
structure Done (deployment : Deployment) (objects : PyStr → Option Bytes)
    (earlier : List ProcessingRun) (work : Work) : Prop where
  /-- The key of the object names the entity. -/
  keyed : work.run.entityName = entityFromKey work.run.object.objectKey
  /-- The entity is known. -/
  named : Entity.ofName work.run.entityName = some work.entity
  /-- The rows are those of the object. -/
  read : ∃ payload, deployment.bronze work.run.object = .ok payload ∧
    decodeBronze deployment work.run.object payload = .ok work.rows
  /-- The events are those of the rows. -/
  normalized : normalizeCdcTable (work.run.context deployment) work.rows =
    .ok (work.events, work.rejections)
  /-- The state before is the newest snapshot. -/
  prior : priorState deployment objects earlier work.run = some work.state
  /-- The build is the merge of the events into it. -/
  merged : mergeEvents work.run.entityName work.run.object.uri work.run.now work.start
    (sortEvents work.accepted) = .ok work.build

/-- A row of the manifest is the completion of some work. -/
structure Explains (deployment : Deployment) (objects : PyStr → Option Bytes)
    (earlier : List ProcessingRun) (work : Work) (row : ProcessingRun) : Prop where
  /-- The row is the one the run registered. -/
  same : SameRun (registeredRun deployment work.run) row
  /-- The work is done. -/
  done : Done deployment objects earlier work
  /-- The run completed when it says. -/
  completedAt : row.completedAt = some work.run.now.utcIso
  /-- Its outputs are stored. -/
  outputs : List.Forall₂ (Stored deployment objects row.runId)
    (planTables work.entity work.accepted work.build) row.outputs

/-- Work stays done. -/
theorem Done.mono {deployment : Deployment} {before after : PyStr → Option Bytes}
    {earlier : List ProcessingRun} {work : Work} (kept : Preserved before after)
    (done : Done deployment before earlier work) : Done deployment after earlier work :=
  ⟨done.keyed, done.named, done.read, done.normalized, priorState_mono kept done.prior, done.merged⟩

/-- A row stays explained. -/
theorem Explains.mono {deployment : Deployment} {before after : PyStr → Option Bytes}
    {earlier : List ProcessingRun} {work : Work} {row : ProcessingRun}
    (kept : Preserved before after) (explains : Explains deployment before earlier work row) :
    Explains deployment after earlier work row :=
  ⟨explains.same, explains.done.mono kept, explains.completedAt,
    explains.outputs.imp fun _ _ stored => stored.mono kept⟩

/-! ## Steps -/

/-- The conditions of a history: which calls are made. -/
structure Conditions where
  /-- The call is made. -/
  request : ProcessRequest → Prop := fun _ => True

/-- The choices of the environment. A run identifier is one path segment, as `uuid4` gives it. -/
def Admits : Op → Choice → World → Prop
  | .newRunId, choice, _ => 47 ∉ choice.runId
  | _, _, _ => True

/-- What a call may do to the world: store an object at an address of its run, register its run,
change the status of the last row, or complete it with evidence. -/
inductive Advance (deployment : Deployment) (conditions : Conditions) (before after : World) : Prop
  | stores (manifest : after.manifest = before.manifest)
      (grown : ∀ uri, after.objects uri = before.objects uri ∨
        before.objects uri = none ∧ ∃ row ∈ before.manifest.rows, ∃ outputType,
          IsAddress deployment row.runId outputType uri)
  | registers (request : ProcessRequest) (runId : PyStr) (now : Instant)
      (called : conditions.request request) (plain : 47 ∉ runId)
      (fresh : ∀ row ∈ before.manifest.rows, row.runId ≠ runId)
      (first : request.forceReprocess = false →
        findLatestIdentity before.manifest (identityOf deployment request.object) = none)
      (rows : after.manifest.rows =
        before.manifest.rows ++ [registeredRun deployment (runOf request runId now)])
      (objects : after.objects = before.objects)
  | moves (earlier : List ProcessingRun) (row next : ProcessingRun)
      (here : before.manifest.rows = earlier ++ [row])
      (there : after.manifest.rows = earlier ++ [next]) (same : SameRun row next)
      (unfinished : row.status ≠ .completed) (open' : next.status ≠ .completed)
      (objects : after.objects = before.objects)
  | completes (earlier : List ProcessingRun) (row next : ProcessingRun) (work : Work)
      (here : before.manifest.rows = earlier ++ [row])
      (there : after.manifest.rows = earlier ++ [next]) (same : SameRun row next)
      (unfinished : row.status ≠ .completed) (completed : next.status = .completed)
      (objects : after.objects = before.objects)
      (called : ∃ request, conditions.request request ∧
        work.run = runOf request work.run.runId work.run.now)
      (explains : Explains deployment before.objects earlier work next)

/-- Stored objects stay. -/
theorem Advance.preserved {deployment : Deployment} {conditions : Conditions}
    {before after : World} (advance : Advance deployment conditions before after) :
    Preserved before.objects after.objects := by
  intro uri data present
  cases advance with
  | stores manifest grown =>
    obtain same | ⟨absent, -⟩ := grown uri
    · exact same.trans present
    · rw [absent] at present
      cases present
  | registers request runId now called plain fresh first rows objects =>
    rw [objects]
    exact present
  | moves earlier row next here there same unfinished open' objects =>
    rw [objects]
    exact present
  | completes earlier row next work here there same unfinished completed objects called explains =>
    rw [objects]
    exact present

end Silver
