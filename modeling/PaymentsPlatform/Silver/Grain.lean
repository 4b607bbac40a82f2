import PaymentsPlatform.Silver.Merging
import PaymentsPlatform.Silver.Publication
import PaymentsPlatform.Silver.Representatives

/-!
# The grain of the append-only outputs

`HISTORY` and `EVENTS` outputs add up over the runs. Inside one object a coordinate is accepted
once, but a coordinate that occurs in two objects is accepted in both runs: over a history of calls
without force a coordinate is published once exactly when no two processed objects have a valid row
of that coordinate.
-/

namespace Silver

open Python Effects

variable {deployment : Deployment}

/-! ## The events of an object -/

/-- The rows of an object. -/
def objectRows (deployment : Deployment) (object : InputObject) : List BronzeRow :=
  match deployment.bronze object with
  | .error _ => []
  | .ok payload =>
    match decodeBronze deployment object payload with
    | .error _ => []
    | .ok rows => rows

/-- A context without a run. -/
def plainContext (deployment : Deployment) : RunContext where
  sha := deployment.sha
  recursionLimit := deployment.recursionLimit
  inputUri := []
  runId := []
  processedAt := Instant.epoch
  silverSchemaVersion := []

/-- What identifies the event of a row that is valid: its coordinate and its identity. -/
def rowIdentity (deployment : Deployment) (row : BronzeRow) : Option (Coordinate × PyStr) :=
  match normalizeRow (plainContext deployment) row with
  | .ok event => some (event.coordinate, event.eventId)
  | .error _ => none

/-- The identities of the valid rows of an object. -/
def validIdentities (deployment : Deployment) (object : InputObject) : List (Coordinate × PyStr) :=
  (objectRows deployment object).filterMap (rowIdentity deployment)

/-- The coordinates of the valid rows of an object. -/
def validCoordinates (deployment : Deployment) (object : InputObject) : List Coordinate :=
  (validIdentities deployment object).map Prod.fst

/-- Whether a row is valid, and its identity, do not depend on the run. -/
theorem normalizeRow_identity (deployment : Deployment) (run : Run) (row : BronzeRow) :
    rowIdentity deployment row =
      match normalizeRow (run.context deployment) row with
      | .ok event => some (event.coordinate, event.eventId)
      | .error _ => none := by
  have same : identify (plainContext deployment) row = identify (run.context deployment) row := rfl
  unfold rowIdentity normalizeRow
  rw [same]
  cases identify (run.context deployment) row with
  | error problem => rfl
  | ok identity =>
    dsimp only
    unfold complete
    cases epochMs row.sourceTsMs with
    | error problem => rfl
    | ok sourceTs =>
      cases epochMs row.connectorTsMs with
      | error problem => rfl
      | ok connectorTs =>
        cases epochMs row.kafkaMessageTsMs with
        | error problem => rfl
        | ok kafkaMessageTs =>
          cases row.ingestedAt with
          | none => rfl
          | some ingestedAt => rfl

/-- The events of a table have the identities of its valid rows. -/
theorem normalizeCdcTable_identities (run : Run) {rows : List BronzeRow}
    {events : List NormalizedCdcEvent} {rejections : List QualityRejection}
    (normalized : normalizeCdcTable (run.context deployment) rows = .ok (events, rejections)) :
    events.map (fun event => (event.coordinate, event.eventId)) =
      rows.filterMap (rowIdentity deployment) := by
  obtain ⟨-, rfl, -⟩ := normalizeCdcTable_ok_iff.mp normalized
  rw [List.map_filterMap]
  refine List.filterMap_congr fun row _ => ?_
  rw [normalizeRow_identity deployment run row, rowEvent]
  cases normalizeRow (run.context deployment) row <;> rfl

/-- Valid rows of different coordinates have different identities: the digests of the coordinates
of the object do not collide. -/
def Distinguished (deployment : Deployment) (object : InputObject) : Prop :=
  ∀ one ∈ validIdentities deployment object, ∀ two ∈ validIdentities deployment object,
    one.2 = two.2 → one.1 = two.1

/-- The coordinates a run accepts are those of the valid rows of its object, each once. -/
theorem Done.accepted {objects : PyStr → Option Bytes} {earlier : List ProcessingRun}
    {work : Work} (done : Done deployment objects earlier work) :
    (work.accepted.map NormalizedCdcEvent.coordinate).Nodup ∧
      (∀ coordinate ∈ work.accepted.map NormalizedCdcEvent.coordinate,
        coordinate ∈ validCoordinates deployment work.run.object) ∧
      (Distinguished deployment work.run.object →
        ∀ coordinate ∈ validCoordinates deployment work.run.object,
          coordinate ∈ work.accepted.map NormalizedCdcEvent.coordinate) := by
  obtain ⟨payload, content, decoded⟩ := done.read
  have rows : objectRows deployment work.run.object = work.rows := by
    unfold objectRows
    rw [content]
    dsimp only
    rw [decoded]
  have identities : work.events.map (fun event => (event.coordinate, event.eventId)) =
      validIdentities deployment work.run.object := by
    unfold validIdentities
    rw [rows]
    exact normalizeCdcTable_identities work.run done.normalized
  have coordinates : work.events.map NormalizedCdcEvent.coordinate =
      validCoordinates deployment work.run.object := by
    unfold validCoordinates
    rw [← identities, List.map_map]
    rfl
  obtain ⟨inside, apart⟩ := deduplicateEvents_accepted work.events
  refine ⟨apart, ?_, ?_⟩
  · intro coordinate member
    obtain ⟨event, accepted, rfl⟩ := List.mem_map.mp member
    rw [← coordinates]
    exact List.mem_map_of_mem (inside event accepted)
  · intro distinguished coordinate member
    rw [← coordinates] at member
    obtain ⟨event, present, rfl⟩ := List.mem_map.mp member
    have listed : ∀ other ∈ work.events,
        (other.coordinate, other.eventId) ∈ validIdentities deployment work.run.object := by
      intro other listed
      rw [← identities]
      exact List.mem_map_of_mem listed
    have identified : Identified work.events := fun one left two right same =>
      distinguished _ (listed one left) _ (listed two right) same
    exact ((deduplicateEvents_deduplicated identified).covers _).mpr (List.mem_map_of_mem present)

/-! ## The rows of the append-only outputs -/

/-- The events of a table. -/
def Table.historyRows : Table → List NormalizedCdcEvent
  | .history rows => rows
  | _ => []

/-- The rows of a table of an entity. -/
def Table.stateRows : Table → List StateRow
  | .state _ rows => rows
  | _ => []

/-- The table an output of a kind refers to. -/
def outputTable (deployment : Deployment) (objects : PyStr → Option Bytes) (kind : OutputType)
    (output : SilverOutput) : Option Table :=
  if output.outputType = kind then
    (objects output.objectUri).bind fun data => (deployment.format.read data).toOption
  else none

/-- The events in the `HISTORY` outputs of the completed runs. -/
def publishedHistory (deployment : Deployment) (world : World) : List NormalizedCdcEvent :=
  (world.manifest.rows.filter fun run => run.status = .completed).flatMap fun run =>
    (run.outputs.filterMap (outputTable deployment world.objects .history)).flatMap
      Table.historyRows

/-- The rows in the `EVENTS` outputs of the completed runs. -/
def publishedEvents (deployment : Deployment) (world : World) : List StateRow :=
  (world.manifest.rows.filter fun run => run.status = .completed).flatMap fun run =>
    (run.outputs.filterMap (outputTable deployment world.objects .events)).flatMap
      Table.stateRows

/-- The tables of a kind are the planned ones. -/
theorem outputTables {objects : PyStr → Option Bytes} {runId : PyStr}
    {plan : List (OutputType × Table)} {outputs : List SilverOutput}
    (stored : List.Forall₂ (Stored deployment objects runId) plan outputs) (kind : OutputType) :
    outputs.filterMap (outputTable deployment objects kind) =
      (plan.filter fun planned => planned.1 = kind).map fun planned => planned.2.narrow := by
  induction stored with
  | nil => rfl
  | @cons planned output plan outputs first _ ih =>
    obtain ⟨data, written, present, -⟩ := first.present
    rw [List.filterMap_cons, List.filter_cons, ih]
    unfold outputTable
    rw [first.outputType]
    by_cases here : planned.1 = kind
    · rw [if_pos here, present, if_pos (by simpa using here)]
      rw [Option.bind_some, deployment.format.read_write _ _ written]
      rfl
    · rw [if_neg here, if_neg (by simpa using here)]

/-- The planned tables of a kind, when only one is planned. -/
theorem planSome_filter (kind other : OutputType) (table : Table) :
    ((planSome other table).filter fun planned => planned.1 = kind) =
      if other = kind then planSome other table else [] := by
  unfold planSome
  split
  · split <;> rfl
  · rw [List.filter_cons]
    split <;> simp_all

/-- The events in the history of a completed run are the accepted ones, as they are read back. -/
theorem Explains.history {objects : PyStr → Option Bytes} {earlier : List ProcessingRun}
    {work : Work} {row : ProcessingRun} (explains : Explains deployment objects earlier work row) :
    (row.outputs.filterMap (outputTable deployment objects .history)).flatMap Table.historyRows =
      work.accepted.map NormalizedCdcEvent.narrow := by
  rw [outputTables explains.outputs]
  have planned : ((planTables work.entity work.accepted work.build).filter fun planned =>
      planned.1 = .history) = planSome .history (.history work.accepted) := by
    unfold planTables planEntityRows
    rw [List.filter_append, List.filter_append, List.filter_append, planSome_filter,
      planSome_filter, planSome_filter]
    by_cases events : work.entity = .transactionEvents
    · rw [if_pos events, planSome_filter]
      simp
    · rw [if_neg events]
      simp
  rw [planned]
  unfold planSome
  split
  · rename_i empty
    rw [List.length_eq_zero_iff.mp empty]
    rfl
  · simp [Table.narrow, Table.historyRows]

/-- Their coordinates are those of the accepted events. -/
theorem Explains.historyCoordinates {objects : PyStr → Option Bytes}
    {earlier : List ProcessingRun} {work : Work} {row : ProcessingRun}
    (explains : Explains deployment objects earlier work row) :
    ((row.outputs.filterMap (outputTable deployment objects .history)).flatMap
      Table.historyRows).map NormalizedCdcEvent.coordinate =
      work.accepted.map NormalizedCdcEvent.coordinate := by
  rw [explains.history, List.map_map]
  exact List.map_congr_left fun event _ => event.narrow_coordinate

/-- The rows in the events of a completed run have the coordinates of accepted events, each once. -/
theorem Explains.events {objects : PyStr → Option Bytes} {earlier : List ProcessingRun}
    {work : Work} {row : ProcessingRun} (explains : Explains deployment objects earlier work row) :
    ∃ sorted : List NormalizedCdcEvent, sorted.Perm work.accepted ∧
      (((row.outputs.filterMap (outputTable deployment objects .events)).flatMap
        Table.stateRows).map StateRow.coordinate).Sublist
          (sorted.map NormalizedCdcEvent.coordinate) := by
  refine ⟨sortEvents work.accepted, List.perm_insertionSort Precedes work.accepted, ?_⟩
  rw [outputTables explains.outputs]
  obtain ⟨rows, appended, inside⟩ := mergeEvents_eventRows explains.done.merged
  have built : work.build.eventRows = rows := appended
  have planned : ((planTables work.entity work.accepted work.build).filter fun planned =>
      planned.1 = .events) = [] ∨
      ((planTables work.entity work.accepted work.build).filter fun planned =>
        planned.1 = .events) = planSome .events (.state work.entity rows) := by
    unfold planTables planEntityRows
    rw [List.filter_append, List.filter_append, List.filter_append, planSome_filter,
      planSome_filter, planSome_filter, built]
    by_cases events : work.entity = .transactionEvents
    · rw [if_pos events, planSome_filter]
      exact Or.inr (by simp)
    · rw [if_neg events]
      exact Or.inl (by simp)
  rcases planned with none | some
  · rw [none]
    exact List.nil_sublist _
  · rw [some]
    unfold planSome
    split
    · exact List.nil_sublist _
    · have narrowed : (rows.map (StateRow.narrow work.entity)).map StateRow.coordinate =
          rows.map StateRow.coordinate := by
        rw [List.map_map]
        rfl
      simp only [List.map_cons, List.map_nil, List.flatMap_cons, List.flatMap_nil, List.append_nil,
        Table.narrow, Table.stateRows, narrowed]
      exact inside

/-! ## One run for each identity -/

/-- No identity has two runs. -/
def OncePerIdentity (world : World) : Prop :=
  (world.manifest.rows.map ProcessingRun.identity).Nodup

/-- An identity that is not found has no row. -/
theorem findLatestIdentity_eq_none {table : ManifestTable} {identity : RunIdentity}
    (absent : findLatestIdentity table identity = none) :
    ∀ run ∈ table.rows, run.identity ≠ identity := by
  intro run member same
  unfold findLatestIdentity at absent
  have inside : run ∈ descending ProcessingRun.startKey
      (table.rows.filter fun run => run.identity = identity) :=
    mem_descending.mpr (List.mem_filter.mpr ⟨member, by simpa using same⟩)
  rw [List.head?_eq_none_iff.mp absent] at inside
  cases inside

/-- The same run has the same identity. -/
theorem SameRun.identity {first second : ProcessingRun} (same : SameRun first second) :
    second.identity = first.identity := by
  unfold ProcessingRun.identity
  rw [same.pipelineName, same.inputChecksum, same.codeVersion, same.schemaVersion]

/-- A permitted step of calls without force starts no identity twice. -/
theorem Advance.once {conditions : Conditions} {before after : World}
    (normal : ∀ request, conditions.request request → request.forceReprocess = false)
    (advance : Advance deployment conditions before after) (once : OncePerIdentity before) :
    OncePerIdentity after := by
  have replaced : ∀ earlier row next, before.manifest.rows = earlier ++ [row] →
      after.manifest.rows = earlier ++ [next] → SameRun row next → OncePerIdentity after := by
    intro earlier row next here there same
    unfold OncePerIdentity at once ⊢
    rw [here, List.map_append, List.map_singleton] at once
    rw [there, List.map_append, List.map_singleton, same.identity]
    exact once
  cases advance with
  | stores manifest grown =>
    unfold OncePerIdentity
    rw [manifest]
    exact once
  | registers request runId now called plain fresh first rows objects =>
    unfold OncePerIdentity
    rw [rows, List.map_append, List.map_singleton, List.nodup_append]
    refine ⟨once, List.nodup_singleton _, ?_⟩
    intro left inside right last
    obtain ⟨run, member, rfl⟩ := List.mem_map.mp inside
    rw [List.mem_singleton.mp last]
    exact findLatestIdentity_eq_none (first (normal request called)) run member
  | moves earlier row next here there same unfinished open' objects =>
    exact replaced earlier row next here there same
  | completes earlier row next work here there same unfinished completed objects called explains =>
    exact replaced earlier row next here there same

/-! ## Published once -/

/-- The calls of a history are those of the list. -/
def callsOf (events : List (Event ProcessRequest Choice)) : Conditions where
  request := fun request => .start request ∈ events

/-- A history makes the calls of its list. -/
theorem Possible.calls {events : List (Event ProcessRequest Choice)}
    {state : Program signature PyError Unit × World}
    (possible : Possible deployment {} events state) :
    Possible deployment (callsOf events) events state :=
  (service deployment).admitted_imp events state (fun _ _ member _ => member)
    (fun op _ _ _ admitted => by cases op <;> exact admitted) possible

/-- What a completed run contributes: coordinates of the valid rows of the object of a call, each
once, and all of them when identities do not clash. -/
structure Contributes (deployment : Deployment) (world : World) (request : ProcessRequest)
    (run : ProcessingRun) : Prop where
  /-- The run processed the object. -/
  checksum : run.inputChecksum = request.object.checksumSha256
  /-- The identity of the run. -/
  identity : run.identity = identityOf deployment request.object
  /-- The events of its history. -/
  history : (((run.outputs.filterMap (outputTable deployment world.objects .history)).flatMap
    Table.historyRows).map NormalizedCdcEvent.coordinate).Nodup
  /-- They are events of the object. -/
  inside : ∀ coordinate ∈ ((run.outputs.filterMap
    (outputTable deployment world.objects .history)).flatMap Table.historyRows).map
      NormalizedCdcEvent.coordinate, coordinate ∈ validCoordinates deployment request.object
  /-- All of them. -/
  whole : Distinguished deployment request.object →
    ∀ coordinate ∈ validCoordinates deployment request.object,
      coordinate ∈ ((run.outputs.filterMap
        (outputTable deployment world.objects .history)).flatMap Table.historyRows).map
          NormalizedCdcEvent.coordinate
  /-- The appended rows. -/
  events : (((run.outputs.filterMap (outputTable deployment world.objects .events)).flatMap
    Table.stateRows).map StateRow.coordinate).Nodup
  /-- They are of events of the object. -/
  eventsInside : ∀ coordinate ∈ ((run.outputs.filterMap
    (outputTable deployment world.objects .events)).flatMap Table.stateRows).map
      StateRow.coordinate, coordinate ∈ validCoordinates deployment request.object

/-- Every completed run contributes the events of the object of a call. -/
theorem Sound.contributes {conditions : Conditions} {world : World}
    (sound : Sound deployment conditions world) {run : ProcessingRun}
    (member : run ∈ world.manifest.rows) (status : run.status = .completed) :
    ∃ request, conditions.request request ∧ Contributes deployment world request run := by
  obtain ⟨earlier, later, rows⟩ := List.append_of_mem member
  obtain ⟨work, ⟨request, called, runs⟩, explains⟩ :=
    sound.recorded earlier run later rows status
  have object : work.run.object = request.object := by rw [runs]; rfl
  obtain ⟨apart, inside, whole⟩ := explains.done.accepted
  obtain ⟨sorted, perm, sublist⟩ := explains.events
  rw [object] at inside whole
  refine ⟨request, called, ?_, ?_, ?_, ?_, ?_, ?_, ?_⟩
  · rw [explains.same.inputChecksum, ← object]
    rfl
  · rw [explains.same.identity, ← object]
    rfl
  · rw [explains.historyCoordinates]
    exact apart
  · rw [explains.historyCoordinates]
    exact inside
  · rw [explains.historyCoordinates]
    exact whole
  · exact ((perm.map NormalizedCdcEvent.coordinate).nodup_iff.mpr apart).sublist sublist
  · intro coordinate present
    exact inside coordinate ((perm.map NormalizedCdcEvent.coordinate).mem_iff.mp
      (sublist.subset present))

/-- The history of calls is over: no call was forced, every run completed, and every object that was
called for has its run. -/
structure Processed (deployment : Deployment) (events : List (Event ProcessRequest Choice)) :
    Prop where
  /-- Run identifiers are path segments. -/
  possible : Possible deployment {} events (.done (), .empty)
  /-- No call is forced. -/
  normal : ∀ request, .start request ∈ events → request.forceReprocess = false
  /-- Every run completed. -/
  completed : ∀ run ∈ ((service deployment).moment events .empty).manifest.rows,
    run.status = .completed
  /-- Every object has its run. -/
  covered : ∀ request, .start request ∈ events →
    ∃ run ∈ ((service deployment).moment events .empty).manifest.rows,
      run.inputChecksum = request.object.checksumSha256
  /-- Objects with one checksum have one content. -/
  identified : ∀ one two, .start one ∈ events → .start two ∈ events →
    one.object.checksumSha256 = two.object.checksumSha256 →
    deployment.bronze one.object = deployment.bronze two.object
  /-- The identities of the events of an object do not collide. -/
  distinguished : ∀ request, .start request ∈ events → Distinguished deployment request.object

/-- Each coordinate is in at most one row of all `HISTORY` outputs, and of all `EVENTS` outputs. -/
def PublishedOnce (deployment : Deployment) (world : World) : Prop :=
  ((publishedHistory deployment world).map NormalizedCdcEvent.coordinate).Nodup ∧
    ((publishedEvents deployment world).map StateRow.coordinate).Nodup

/-- Two objects of different content have no valid row of the same coordinate. -/
def NoOverlap (deployment : Deployment) (events : List (Event ProcessRequest Choice)) : Prop :=
  ∀ one two, .start one ∈ events → .start two ∈ events →
    one.object.checksumSha256 ≠ two.object.checksumSha256 →
    (validCoordinates deployment one.object).Disjoint (validCoordinates deployment two.object)

/-- Objects of one content and one checksum have the same valid rows. -/
theorem validCoordinates_congr {one two : InputObject}
    (checksum : one.checksumSha256 = two.checksumSha256)
    (content : deployment.bronze one = deployment.bronze two) :
    validCoordinates deployment one = validCoordinates deployment two := by
  unfold validCoordinates validIdentities objectRows decodeBronze checkContent
  rw [content, checksum]

/-- Items of runs are different exactly when each run has different ones and no two runs share
one. -/
theorem nodup_contributions {α : Type} {rows : List ProcessingRun} (distinct : rows.Nodup)
    (items : ProcessingRun → List α) (each : ∀ run ∈ rows, (items run).Nodup) :
    (rows.flatMap items).Nodup ↔ ∀ one ∈ rows, ∀ two ∈ rows, one ≠ two →
      (items one).Disjoint (items two) := by
  rw [List.nodup_flatMap]
  constructor
  · rintro ⟨-, apart⟩ one left two right different
    have symmetric : Std.Symm (Function.onFun List.Disjoint items) :=
      ⟨fun _ _ clear _ left right => clear right left⟩
    exact apart.forall left right different
  · intro clear
    exact ⟨each, distinct.pairwise_of_forall_ne fun one left two right different =>
      clear one left two right different⟩

/-- After every object was processed without force and all runs completed, each Kafka coordinate is
published once in `HISTORY` and once in `EVENTS` exactly when no two processed objects have a valid
row of the same coordinate. -/
theorem coordinates_published_once_iff (deployment : Deployment)
    (events : List (Event ProcessRequest Choice)) (processed : Processed deployment events) :
    PublishedOnce deployment ((service deployment).moment events .empty) ↔
      NoOverlap deployment events := by
  obtain ⟨⟨sound, once⟩, -, -⟩ := reached_with (I := OncePerIdentity)
    (fun _ _ advance _ once => advance.once processed.normal once) processed.possible.calls
    Sound.empty List.nodup_nil trivial
  change Sound deployment _ ((service deployment).moment events .empty) at sound
  change OncePerIdentity ((service deployment).moment events .empty) at once
  obtain ⟨-, -, completed, covered, identified, distinguished⟩ := processed
  generalize (service deployment).moment events .empty = world at *
  have distinct : world.manifest.rows.Nodup := world.manifest.nodup.of_map _
  have contributes : ∀ run ∈ world.manifest.rows, ∃ request, .start request ∈ events ∧
      Contributes deployment world request run :=
    fun run member => sound.contributes member (completed run member)
  have all : (world.manifest.rows.filter fun run => run.status = .completed) =
      world.manifest.rows :=
    List.filter_eq_self.mpr fun run member => by simpa using completed run member
  unfold PublishedOnce publishedHistory publishedEvents
  rw [all, List.map_flatMap, List.map_flatMap,
    nodup_contributions distinct _ fun run member =>
      let ⟨_, _, part⟩ := contributes run member
      part.history,
    nodup_contributions distinct _ fun run member =>
      let ⟨_, _, part⟩ := contributes run member
      part.events]
  constructor
  · rintro ⟨apart, -⟩ one two first second different coordinate left right
    obtain ⟨run, member, checksum⟩ := covered one first
    obtain ⟨run', member', checksum'⟩ := covered two second
    obtain ⟨request, called, part⟩ := contributes run member
    obtain ⟨request', called', part'⟩ := contributes run' member'
    have same := part.checksum.symm.trans checksum
    have same' := part'.checksum.symm.trans checksum'
    refine apart run member run' member' ?_
      (part.whole (distinguished request called) coordinate ?_)
      (part'.whole (distinguished request' called') coordinate ?_)
    · rintro rfl
      exact different (checksum.symm.trans checksum')
    · rw [validCoordinates_congr same (identified request one called first same)]
      exact left
    · rw [validCoordinates_congr same' (identified request' two called' second same')]
      exact right
  · intro clear
    have apart : ∀ one ∈ world.manifest.rows, ∀ two ∈ world.manifest.rows, one ≠ two →
        ∃ request request', (validCoordinates deployment request.object).Disjoint
          (validCoordinates deployment request'.object) ∧
          Contributes deployment world request one ∧ Contributes deployment world request' two := by
      intro one left two right different
      obtain ⟨request, called, part⟩ := contributes one left
      obtain ⟨request', called', part'⟩ := contributes two right
      refine ⟨request, request', clear request request' called called' ?_, part, part'⟩
      intro checksum
      refine different (List.inj_on_of_nodup_map once left right ?_)
      rw [part.identity, part'.identity]
      unfold identityOf
      rw [checksum]
    constructor
    · intro one left two right different coordinate here there
      obtain ⟨request, request', disjoint, part, part'⟩ := apart one left two right different
      exact disjoint (part.inside coordinate here) (part'.inside coordinate there)
    · intro one left two right different coordinate here there
      obtain ⟨request, request', disjoint, part, part'⟩ := apart one left two right different
      exact disjoint (part.eventsInside coordinate here) (part'.eventsInside coordinate there)

/-! ## A range that is replayed -/

/-- Valid rows of different identities do not clash. -/
theorem Distinguished.of_nodup {object : InputObject}
    (apart : ((validIdentities deployment object).map Prod.snd).Nodup) :
    Distinguished deployment object := by
  intro one left two right same
  rw [List.inj_on_of_nodup_map apart left right same]

/-- A history whose calls left the rows of their completed runs. -/
theorem Processed.of_rows {events : List (Event ProcessRequest Choice)}
    (requests : List ProcessRequest)
    (calls : ∀ request, .start request ∈ events → request ∈ requests)
    (plain : ∀ choice, .step choice ∈ events → 47 ∉ choice.runId)
    (normal : ∀ request ∈ requests, request.forceReprocess = false)
    (rows : ((service deployment).moment events .empty).manifest.rows.map
        (fun run => (run.status, run.inputChecksum)) =
      requests.map fun request => (.completed, request.object.checksumSha256))
    (identified : (requests.map fun request => request.object.checksumSha256).Nodup)
    (apart : ∀ request ∈ requests,
      ((validIdentities deployment request.object).map Prod.snd).Nodup) :
    Processed deployment events where
  possible := possible_of_plain plain
  normal := fun request member => normal request (calls request member)
  completed := by
    intro run member
    have pair : (run.status, run.inputChecksum) ∈
        ((service deployment).moment events .empty).manifest.rows.map
          (fun run => (run.status, run.inputChecksum)) := List.mem_map_of_mem member
    rw [rows] at pair
    obtain ⟨request, -, same⟩ := List.mem_map.mp pair
    exact (Prod.mk.inj same).1.symm
  covered := by
    intro request member
    have pair : (ProcessingStatus.completed, request.object.checksumSha256) ∈
        ((service deployment).moment events .empty).manifest.rows.map
          (fun run => (run.status, run.inputChecksum)) := by
      rw [rows]
      exact List.mem_map.mpr ⟨request, calls request member, rfl⟩
    obtain ⟨run, registered, same⟩ := List.mem_map.mp pair
    exact ⟨run, registered, (Prod.mk.inj same).2⟩
  identified := fun one two left right same => by
    rw [List.inj_on_of_nodup_map identified (calls one left) (calls two right) same]
  distinguished := fun request member =>
    Distinguished.of_nodup (apart request (calls request member))

/-- The tables of the run on the first object. -/
def createdTables : List Table :=
  customerTables (runOf ⟨customerObject 1, false, false⟩ [65] Instant.epoch) [] createdRows

/-- The rows of the snapshot in a list of tables. -/
def snapshotRows (tables : List Table) : List StateRow :=
  match tables.find? fun table => !table.stateRows.isEmpty with
  | some table => table.narrow.stateRows
  | none => []

/-- The tables of the two runs, given the rows of the second object. -/
def bothTables (rows : List BronzeRow) : List Table :=
  createdTables ++ customerTables (runOf ⟨customerObject 2, false, false⟩ [66] Instant.epoch)
    (snapshotRows createdTables) rows

/-- A later event of the customer of the first object. -/
def laterRows : List BronzeRow :=
  [customerRow 2 [117] (py "\x7b\"customer_id\":\"a\"\x7d")]

/-- Two objects, of which the second one starts with the offset after the first. -/
def apartDeployment : Deployment :=
  customerDeployment (bothTables laterRows) fun number =>
    if number = 1 then createdRows else laterRows

/-- Two objects, of which the second one starts with the row of the first. -/
def replayedDeployment : Deployment :=
  customerDeployment (bothTables (createdRows ++ laterRows)) fun number =>
    if number = 1 then createdRows else createdRows ++ laterRows

/-- Both are processed. -/
def bothHistory : List (Event ProcessRequest Choice) :=
  callAt ⟨customerObject 1, false, false⟩ [65] Instant.epoch ++
    callAt ⟨customerObject 2, false, false⟩ [66] Instant.epoch

/-- The calls of the history. -/
theorem start_mem_bothHistory {request : ProcessRequest} (member : .start request ∈ bothHistory) :
    request = ⟨customerObject 1, false, false⟩ ∨ request = ⟨customerObject 2, false, false⟩ := by
  rcases List.mem_append.mp member with first | second
  · exact Or.inl (start_mem_callAt first)
  · exact Or.inr (start_mem_callAt second)

/-- Both runs complete. -/
def BothComplete (deployment : Deployment) : Prop :=
  ((service deployment).moment bothHistory .empty).manifest.rows.map
      (fun run => (run.status, run.inputChecksum)) =
    [(.completed, (customerObject 1).checksumSha256),
      (.completed, (customerObject 2).checksumSha256)]

set_option maxRecDepth 10000 in
/-- The history is over when both runs completed and no object has one identity twice. -/
theorem processed_of_complete {deployment : Deployment} (complete : BothComplete deployment)
    (apart : ((validIdentities deployment (customerObject 1)).map Prod.snd).Nodup ∧
      ((validIdentities deployment (customerObject 2)).map Prod.snd).Nodup) :
    Processed deployment bothHistory := by
  refine Processed.of_rows [⟨customerObject 1, false, false⟩, ⟨customerObject 2, false, false⟩]
    ?_ ?_ (by decide) complete (by decide +kernel) ?_
  · intro request member
    rcases start_mem_bothHistory member with rfl | rfl
    · exact List.mem_cons_self ..
    · exact List.mem_cons_of_mem _ (List.mem_singleton_self _)
  · intro choice member
    rcases List.mem_append.mp member with first | second
    · rw [step_mem_callAt first]
      decide
    · rw [step_mem_callAt second]
      decide
  · intro request member
    rcases List.mem_cons.mp member with rfl | last
    · exact apart.1
    · rw [List.mem_singleton.mp last]
      exact apart.2

set_option maxRecDepth 10000 in
/-- Two objects with different offsets: each event is published once. -/
theorem apart_events_published_once :
    Processed apartDeployment bothHistory ∧
      PublishedOnce apartDeployment ((service apartDeployment).moment bothHistory .empty) := by
  have complete : BothComplete apartDeployment := by
    unfold BothComplete
    decide +kernel
  have processed : Processed apartDeployment bothHistory :=
    processed_of_complete complete ⟨by decide +kernel, by decide +kernel⟩
  refine ⟨processed, (coordinates_published_once_iff apartDeployment bothHistory processed).mpr ?_⟩
  have first : validCoordinates apartDeployment (customerObject 1) = [([116], 0, 1)] := by
    decide +kernel
  have second : validCoordinates apartDeployment (customerObject 2) = [([116], 0, 2)] := by
    decide +kernel
  intro one two left right different
  rcases start_mem_bothHistory left with rfl | rfl
  · rcases start_mem_bothHistory right with rfl | rfl
    · exact absurd rfl different
    · rw [first, second, List.disjoint_singleton]
      decide
  · rcases start_mem_bothHistory right with rfl | rfl
    · rw [first, second, List.disjoint_singleton]
      decide
    · exact absurd rfl different

set_option maxRecDepth 10000 in
/-- Every object is processed once without force and all runs complete, but the event that both
objects contain is published twice. -/
theorem replayed_event_published_twice :
    Processed replayedDeployment bothHistory ∧
      ¬ PublishedOnce replayedDeployment
        ((service replayedDeployment).moment bothHistory .empty) := by
  have overlaps : BothComplete replayedDeployment ∧ ¬ ((publishedHistory replayedDeployment
      ((service replayedDeployment).moment bothHistory .empty)).map
        NormalizedCdcEvent.coordinate).Nodup := by
    unfold BothComplete
    decide +kernel
  exact ⟨processed_of_complete overlaps.1 ⟨by decide +kernel, by decide +kernel⟩,
    fun once => overlaps.2 once.1⟩

end Silver
