import PaymentsPlatform.Orchestration.Tasks
import PaymentsPlatform.Silver.Discovery
import PaymentsPlatform.Silver.Grain
import PaymentsPlatform.Silver.SettlementRuns

/-!
# Incremental processing

`_process` of the Silver command discovers objects and processes them one after the other;
`discover_unprocessed_bronze` asks before whether there is anything to process. Both bound the
discovery first and look at the manifest afterwards, so an object is only reached while fewer
matching objects than the bound come before it.
-/

namespace Incremental

open Python Effects Silver

/-! ## The code -/

/-- The pipeline of a source. -/
def pipelineOf : SourceType → PyStr
  | .cdc => cdcPipeline
  | .settlement => settlementPipeline

/-- The identity `_existing` looks for. -/
def identityFor (deployment : Deployment) (sourceType : SourceType) (item : InputObject) :
    RunIdentity :=
  { identityOf deployment item with pipelineName := pipelineOf sourceType }

/-- The row `process_settlement` registers. -/
def settlementRun (deployment : Deployment) (item : InputObject) (runId : PyStr) (now : Instant) :
    ProcessingRun :=
  { registeredRun deployment ⟨item, "settlements", runId, now, false⟩ with
    pipelineName := pipelineOf .settlement }

/-- `process_settlement` without force, whatever it does inside its `try`. -/
def processSettlement (deployment : Deployment)
    (settle : InputObject → PyStr → Instant → Action ProcessingResult) (item : InputObject) :
    Action ProcessingResult := do
  match ← perform (.findLatestIdentity (identityFor deployment .settlement item)) with
  | some prior => return skippedResult prior
  | none =>
    let now ← perform .now
    let runId ← perform .newRunId
    perform (.register (settlementRun deployment item runId now))
    settle item runId now

/-- It is the call of the processor, neither forced nor dry. -/
theorem processSettlement_eq (deployment : Deployment)
    (contract : Except PyError Settlement.SettlementContract) (object : SettlementObject) :
    Silver.processSettlement deployment contract ⟨object, false, false⟩ =
      processSettlement deployment (fun _ runId now => settleRun deployment contract object
        (Silver.settlementRun ⟨object, false, false⟩ runId now)) object.toInputObject := by
  unfold Silver.processSettlement processSettlement
  refine congrArg (Program.bind _) (funext fun prior => ?_)
  cases prior with
  | none => rfl
  | some prior => rfl

/-- The processing of one object, neither forced nor dry. -/
def processItem (deployment : Deployment)
    (settle : InputObject → PyStr → Instant → Action ProcessingResult) (sourceType : SourceType)
    (item : InputObject) : Action ProcessingResult :=
  match sourceType with
  | .cdc => processCdc deployment ⟨item, false, false⟩
  | .settlement => processSettlement deployment settle item

/-- The loop of `_process`. -/
def processItems (deployment : Deployment)
    (settle : InputObject → PyStr → Instant → Action ProcessingResult) (sourceType : SourceType) :
    List InputObject → Action (List ProcessingResult)
  | [] => return []
  | item :: items => do
    let result ← processItem deployment settle sourceType item
    let results ← processItems deployment settle sourceType items
    return result :: results

/-- `_process`, up to what it prints. -/
def processCommand (deployment : Deployment)
    (settle : InputObject → PyStr → Instant → Action ProcessingResult) (bucket : BronzeBucket)
    (request : DiscoverRequest) : Action (List ProcessingResult) := do
  let objects ← Program.ofExcept (discover bucket request)
  processItems deployment settle request.sourceType objects

/-- Whether an object has no row for its identity. -/
def pending (deployment : Deployment) (sourceType : SourceType) (table : ManifestTable)
    (item : InputObject) : Bool :=
  findLatestIdentity table (identityFor deployment sourceType item) = none

/-- `discover_unprocessed_bronze`. -/
def discoverUnprocessedBronze (deployment : Deployment) (bucket : BronzeBucket)
    (table : ManifestTable) (sourceType : SourceType) (entity inputPrefix : Option PyStr)
    (maxObjects : Int) : Except PyError Orchestration.TaskResult := do
  let inputs ← discover bucket { sourceType, inputPrefix, entity, maxObjects }
  let unprocessed := inputs.filter (pending deployment sourceType table)
  return {
    status := if unprocessed = [] then .skipped else .succeeded
    recordsRead := inputs.length
    inputAssets := unprocessed.map (·.uri)
    metadata := [("discovered_objects", .int inputs.length),
      ("unprocessed_objects", .int unprocessed.length)] }

/-! ## What the discovery reaches -/

variable {deployment : Deployment} {bucket : BronzeBucket} {request : DiscoverRequest}

/-- The objects of a listing that match the source and the filters. -/
def matching (bucket : BronzeBucket) (request : DiscoverRequest) : List InputObject :=
  ((listObjects bucket ((given request.inputPrefix).getD
    (defaultPrefix request.sourceType))).map (inputFromStored bucket)).filter
      (matchesItem request)

/-- Whether an object is replayed before another one. -/
def replayedEarlier (sourceType : SourceType) (one two : InputObject) : Bool :=
  match replayKey sourceType one, replayKey sourceType two with
  | .ok left, .ok right => left < right
  | _, _ => false

/-- An item of a strictly sorted list is among the first ones when few items come before it. -/
theorem mem_take_iff {α : Type} {before : α → α → Prop} [DecidableRel before]
    (one_way : ∀ left right, before left right → ¬ before right left) {items : List α} {item : α}
    (sorted : items.Pairwise before) (member : item ∈ items) (count : Nat) :
    item ∈ items.take count ↔ (items.filter fun other => before other item).length < count := by
  obtain ⟨front, back, rfl⟩ := List.append_of_mem member
  obtain ⟨-, rear, across⟩ := List.pairwise_append.mp sorted
  obtain ⟨after, -⟩ := List.pairwise_cons.mp rear
  have earlier : ∀ other ∈ front, before other item := fun other inside =>
    across other inside item (List.mem_cons_self ..)
  have self : ¬ before item item := fun loops => one_way item item loops loops
  have count_eq : ((front ++ item :: back).filter fun other => before other item) = front := by
    rw [List.filter_append, List.filter_cons_of_neg (by simpa using self),
      List.filter_eq_self.mpr fun other inside => by simpa using earlier other inside,
      List.filter_eq_nil_iff.mpr fun other inside => by
        simpa using one_way _ _ (after other inside),
      List.append_nil]
  rw [count_eq]
  constructor
  · intro inside
    by_contra long
    rw [List.take_append_of_le_length (Nat.le_of_not_lt long)] at inside
    exact self (earlier item (List.mem_of_mem_take inside))
  · intro short
    rw [List.take_append]
    refine List.mem_append_right _ ?_
    obtain ⟨more, equal⟩ := Nat.exists_eq_add_of_lt short
    rw [show count - front.length = more + 1 by omega, List.take_succ_cons]
    exact List.mem_cons_self ..

/-- What the objects of a discovery are sorted by. -/
theorem withKeys_ok {sourceType : SourceType} {items : List InputObject}
    {keyed : List (ReplayKey × InputObject)} (read : withKeys sourceType items = .ok keyed) :
    keyed.map Prod.snd = items ∧ ∀ entry ∈ keyed, replayKey sourceType entry.2 = .ok entry.1 := by
  induction items generalizing keyed with
  | nil =>
    cases read
    exact ⟨rfl, fun _ member => by cases member⟩
  | cons item items ih =>
    rw [withKeys] at read
    cases key : replayKey sourceType item with
    | error problem => rw [key] at read; cases read
    | ok value =>
      cases rest : withKeys sourceType items with
      | error problem => rw [key, rest] at read; cases read
      | ok others =>
        rw [key, rest] at read
        cases read
        obtain ⟨same, keys⟩ := ih rest
        refine ⟨by rw [List.map_cons, same], ?_⟩
        intro entry member
        rcases List.mem_cons.mp member with rfl | later
        · exact key
        · exact keys entry later

/-- The objects are sorted when each of them has a key to be sorted by. -/
theorem withKeys_ok_iff {sourceType : SourceType} {items : List InputObject} :
    (∃ keyed, withKeys sourceType items = .ok keyed) ↔
      ∀ item ∈ items, ∃ key, replayKey sourceType item = .ok key := by
  constructor
  · rintro ⟨keyed, read⟩ item member
    obtain ⟨rfl, keys⟩ := withKeys_ok read
    obtain ⟨entry, inside, rfl⟩ := List.mem_map.mp member
    exact ⟨entry.1, keys entry inside⟩
  · intro keys
    induction items with
    | nil => exact ⟨[], rfl⟩
    | cons item items ih =>
      obtain ⟨key, found⟩ := keys item (List.mem_cons_self ..)
      obtain ⟨keyed, read⟩ := ih fun other member => keys other (List.mem_cons_of_mem _ member)
      exact ⟨(key, item) :: keyed, by rw [withKeys, found, read]; rfl⟩

/-- Objects that are sorted by the same key have the same object key. -/
theorem replayKey_objectKey {sourceType : SourceType} {one two : InputObject} {key : ReplayKey}
    (first : replayKey sourceType one = .ok key) (second : replayKey sourceType two = .ok key) :
    one.objectKey = two.objectKey := by
  have last : ∀ {item : InputObject}, replayKey sourceType item = .ok key →
      (ofLex (ofLex (ofLex (ofLex key).2).2).2).2 = item.objectKey := by
    intro item read
    unfold replayKey at read
    cases sourceType with
    | settlement =>
      cases read
      rfl
    | cdc =>
      dsimp only at read
      cases partition : intOrZero (partitionValue item.objectKey "partition") with
      | error problem => rw [partition] at read; cases read
      | ok number =>
        cases offset : intOrZero (partitionValue item.objectKey "offset_start") with
        | error problem => rw [partition, offset] at read; cases read
        | ok start =>
          rw [partition, offset] at read
          cases read
          rfl
  exact (last first).symm.trans (last second)

/-- A bucket has one object for each key. -/
def BronzeBucket.Keyed (bucket : BronzeBucket) : Prop :=
  (bucket.objects.map fun stored => stored.location.key).Nodup

instance (bucket : BronzeBucket) : Decidable (BronzeBucket.Keyed bucket) :=
  inferInstanceAs (Decidable (List.Nodup _))

/-- Matching objects have different keys. -/
theorem matching_nodup (keyed : BronzeBucket.Keyed bucket) (request : DiscoverRequest) :
    ((matching bucket request).map (·.objectKey)).Nodup := by
  unfold matching listObjects
  refine List.Nodup.sublist ((List.filter_sublist).map _) ?_
  rw [List.map_map]
  exact List.Nodup.sublist ((List.filter_sublist).map _) keyed

/-- Without a named object, the discovery sorts the matching objects. -/
theorem discover_listing (listing : request.inputObject = none) :
    discover bucket request = (withKeys request.sourceType (matching bucket request)).map
      fun keyed => sliceTo request.maxObjects ((keyed.insertionSort KeyedOrder).map Prod.snd) := by
  have looked : candidates bucket request = .ok ((listObjects bucket
      ((given request.inputPrefix).getD (defaultPrefix request.sourceType))).map
        (inputFromStored bucket)) := by
    unfold candidates
    rw [listing]
    rfl
  unfold discover matching
  rw [looked]
  change ((withKeys request.sourceType _).bind _) = _
  cases withKeys request.sourceType (List.filter (matchesItem request) _) <;> rfl

/-- Every matching object has a key to be sorted by. -/
def Sortable (bucket : BronzeBucket) (request : DiscoverRequest) : Prop :=
  ∀ item ∈ matching bucket request, ∃ key, replayKey request.sourceType item = .ok key

/-- The discovery ends normally when all matching objects can be sorted. -/
theorem discover_ok_iff (listing : request.inputObject = none) :
    (∃ found, discover bucket request = .ok found) ↔ Sortable bucket request := by
  rw [discover_listing listing]
  unfold Sortable
  rw [← withKeys_ok_iff]
  constructor
  · rintro ⟨found, read⟩
    cases keys : withKeys request.sourceType (matching bucket request) with
    | error problem => rw [keys] at read; cases read
    | ok keyed => exact ⟨keyed, rfl⟩
  · rintro ⟨keyed, read⟩
    exact ⟨_, by rw [read]; rfl⟩

/-- An object is discovered when it matches and fewer matching objects than the bound come before
it. -/
theorem mem_discover (listing : request.inputObject = none) (positive : 1 ≤ request.maxObjects)
    (keyed : BronzeBucket.Keyed bucket) {found : List InputObject}
    (discovered : discover bucket request = .ok found) (item : InputObject) :
    item ∈ found ↔ item ∈ matching bucket request ∧
      ((matching bucket request).filter fun other =>
        replayedEarlier request.sourceType other item).length < request.maxObjects.toNat := by
  rw [discover_listing listing] at discovered
  cases keys : withKeys request.sourceType (matching bucket request) with
  | error problem => rw [keys] at discovered; cases discovered
  | ok entries =>
    rw [keys] at discovered
    cases discovered
    obtain ⟨same, read⟩ := withKeys_ok keys
    have distinct := matching_nodup keyed request
    rw [← same] at distinct ⊢
    have sorted : (entries.insertionSort KeyedOrder).Pairwise fun left right =>
        left.1 < right.1 := by
      have perm := List.perm_insertionSort KeyedOrder entries
      have apart : (entries.insertionSort KeyedOrder).Pairwise fun left right =>
          left.1 ≠ right.1 := by
        have names : ((entries.insertionSort KeyedOrder).map fun entry =>
            entry.2.objectKey).Nodup := by
          rw [List.map_map] at distinct
          exact (perm.map _).nodup_iff.mpr distinct
        refine (List.pairwise_map.mp names).imp_of_mem
          fun {left right} one two different equal => ?_
        have first := read left (perm.mem_iff.mp one)
        have second := read right (perm.mem_iff.mp two)
        rw [equal] at first
        exact different (replayKey_objectKey first second)
      exact ((List.pairwise_insertionSort KeyedOrder entries).and apart).imp fun both =>
        lt_of_le_of_ne both.1 both.2
    unfold sliceTo
    beta_reduce
    rw [if_pos (by omega), ← List.map_take, List.mem_map, List.mem_map]
    have counted : ∀ entry ∈ entries,
        ((entries.map Prod.snd).filter fun other =>
          replayedEarlier request.sourceType other entry.2).length =
        ((entries.insertionSort KeyedOrder).filter fun other => other.1 < entry.1).length := by
      intro entry member
      rw [List.filter_map, List.length_map]
      rw [((List.perm_insertionSort KeyedOrder entries).filter _).length_eq]
      refine congrArg List.length (List.filter_congr fun other inside => ?_)
      change replayedEarlier request.sourceType other.2 entry.2 = _
      unfold replayedEarlier
      rw [read other inside, read entry member]
    constructor
    · rintro ⟨entry, inside, rfl⟩
      have member : entry ∈ entries := (List.perm_insertionSort KeyedOrder entries).mem_iff.mp
        (List.mem_of_mem_take inside)
      refine ⟨⟨entry, member, rfl⟩, ?_⟩
      rw [counted entry member]
      exact (mem_take_iff (fun _ _ => lt_asymm) sorted
        (List.mem_of_mem_take inside) _).mp inside
    · rintro ⟨⟨entry, member, rfl⟩, few⟩
      rw [counted entry member] at few
      exact ⟨entry, (mem_take_iff (fun _ _ => lt_asymm) sorted
        ((List.perm_insertionSort KeyedOrder entries).mem_iff.mpr member) _).mpr few, rfl⟩

/-! ## What the run starts -/

variable {settle : InputObject → PyStr → Instant → Action ProcessingResult}
  {sourceType : SourceType}

/-- An identity has a row. -/
def Recorded (world : World) (identity : RunIdentity) : Prop :=
  ∃ run ∈ world.manifest.rows, run.identity = identity

/-- Identities with a row keep one. -/
def Gains (before after : World) : Prop :=
  ∀ identity, Recorded before identity → Recorded after identity

/-- Rows that are gained stay. -/
theorem gains_tracks : Tracks Gains Gains where
  refl := fun _ _ recorded => recorded
  trans := fun one two identity recorded => two identity (one identity recorded)
  step := fun gains => gains

/-- A row that is put in the place of one of the same identity records all identities. -/
theorem gains_put {world : World} {row next : ProcessingRun}
    (found : world.manifest.get next.runId = some row) (same : next.identity = row.identity) :
    Gains world { world with manifest := world.manifest.put next } := by
  rintro identity ⟨run, member, rfl⟩
  have stored := Relational.Table.get_put world.manifest next run.runId
  by_cases here : run.runId = next.runId
  · obtain ⟨inside, key⟩ := Relational.Table.get_eq_some.mp found
    have equal : run = row :=
      List.inj_on_of_nodup_map world.manifest.nodup member inside (here.trans key.symm)
    rw [if_pos here] at stored
    exact ⟨next, (Relational.Table.get_eq_some.mp stored).1, by rw [same, equal]⟩
  · rw [if_neg here, Relational.Table.get_eq_some.mpr ⟨member, rfl⟩] at stored
    exact ⟨run, (Relational.Table.get_eq_some.mp stored).1, rfl⟩

/-- No effect takes the row of an identity away. -/
theorem effect_gains (op : Op) (choice : Choice) (world : World) :
    Gains world (effect deployment op choice world).2 := by
  have same : ∀ after : World, after.manifest = world.manifest → Gains world after := by
    intro after equal identity recorded
    unfold Recorded
    rw [equal]
    exact recorded
  cases op with
  | register run =>
    obtain ⟨absent, done⟩ | ⟨problem, done⟩ := register_spec world.manifest run
    · simp only [effect, done]
      rintro identity ⟨row, member, found⟩
      exact ⟨row, List.mem_append_left _ member, found⟩
    · simp only [effect, done]
      exact same _ rfl
  | transition runId status updates =>
    obtain ⟨current, found, -, done⟩ | ⟨problem, -, done⟩ :=
      transition_spec world.manifest runId status updates
    · obtain ⟨kept, -⟩ := current.assign_same status updates
      simp only [effect, done]
      refine gains_put ?_ kept.identity
      rw [kept.runId, (Relational.Table.get_eq_some.mp found).2]
      exact found
    · simp only [effect, done]
      exact same _ rfl
  | put uri data =>
    refine same _ ?_
    change (putEffect deployment.sha uri data world).2.manifest = world.manifest
    unfold putEffect
    cases world.objects uri with
    | none => rfl
    | some existing =>
      dsimp only
      split <;> rfl
  | _ => exact same _ rfl

/-- A part of a run, with what holds where it ends normally. -/
def Ends (deployment : Deployment) {α : Type} (post : α → World → Prop) (program : Action α)
    (world : World) : Prop :=
  Meets (machine deployment) (.sequential (fun _ _ _ => True) Gains) post (fun _ _ => True) program
    world

/-- One effect, from what it answers when it takes place. -/
theorem ends_perform {op : Op} {post : op.Answer → World → Prop} {world : World}
    (takes : ∀ choice answer, (effect deployment op choice world).1 = .ok answer →
      post answer (effect deployment op choice world).2) :
    Ends deployment post (perform op) world := by
  refine Meets.request ?_
  rintro moved ⟨rfl⟩ choice -
  obtain act | ⟨fault, -, act | act⟩ := act_cases deployment op choice world
  · rw [act]
    refine ⟨effect_gains op choice world, ?_⟩
    cases outcome : (effect deployment op choice world).1 with
    | ok answer => exact takes choice answer outcome
    | error problem => trivial
  · rw [act]
    exact ⟨gains_tracks.refl world, trivial⟩
  · rw [act]
    exact ⟨effect_gains op choice world, trivial⟩

/-- Whatever a program does, it takes no identity away. -/
theorem ends_gains {α : Type} (program : Action α) (world : World) :
    Ends deployment (fun _ end' => Gains world end') program world := by
  have free : Ends deployment (fun _ _ => True) program world := by
    induction program generalizing world with
    | done value => trivial
    | raised problem => trivial
    | perform op next ih =>
      rintro moved ⟨rfl⟩ choice -
      refine ⟨?_, ih _ _⟩
      obtain act | ⟨fault, -, act | act⟩ := act_cases deployment op choice world
      · rw [act]
        exact effect_gains op choice world
      · rw [act]
        exact gains_tracks.refl world
      · rw [act]
        exact effect_gains op choice world
  exact (Meets.along gains_tracks free).mono (fun _ _ ends => ends.1) fun _ _ _ => trivial

/-- What is recorded before a program is recorded where it ends. -/
theorem ends_recorded {α : Type} {identity : RunIdentity} (program : Action α) {world : World}
    (recorded : Recorded world identity) :
    Ends deployment (fun _ end' => Recorded end' identity) program world :=
  (ends_gains program world).mono (fun _ _ gains => gains identity recorded) fun _ _ _ => trivial

/-- An identity that is found is recorded. -/
theorem recorded_of_found {world : World} {identity : RunIdentity} {run : ProcessingRun}
    (found : findLatestIdentity world.manifest identity = some run) : Recorded world identity := by
  unfold findLatestIdentity at found
  have inside := mem_descending.mp (List.mem_of_mem_head? found)
  obtain ⟨member, same⟩ := List.mem_filter.mp inside
  exact ⟨run, member, by simpa using same⟩

/-- A program that looks an identity up first, and records it when it is not found. -/
theorem ends_lookup {α : Type} {identity : RunIdentity} {world : World}
    {next : Option ProcessingRun → Action α}
    (registers : Ends deployment (fun _ end' => Recorded end' identity) (next none) world) :
    Ends deployment (fun _ end' => Recorded end' identity)
      ((perform (Op.findLatestIdentity identity)).bind next) world := by
  have looks : Ends deployment (fun (prior : Option ProcessingRun) end' => end' = world ∧
      findLatestIdentity world.manifest identity = prior)
      (perform (Op.findLatestIdentity identity)) world :=
    ends_perform fun choice answer looked => ⟨rfl, Except.ok.inj looked⟩
  refine Meets.bind (looks.mono ?_ fun _ _ ends => ends)
  rintro prior end' ⟨rfl, looked⟩
  cases prior with
  | none => exact registers
  | some run => exact ends_recorded _ (recorded_of_found looked)

/-- A registration records the identity of its run. -/
theorem ends_register {run : ProcessingRun} {world : World} :
    Ends deployment (fun _ end' => Recorded end' run.identity) (perform (.register run)) world := by
  refine ends_perform fun choice answer outcome => ?_
  obtain ⟨absent, done⟩ | ⟨problem, done⟩ := register_spec world.manifest run
  · simp only [effect, done]
    exact ⟨run, List.mem_append_right _ (List.mem_singleton_self _), rfl⟩
  · simp only [effect, done] at outcome
    cases outcome

/-- A run that registers itself at the clock and under a new identifier. -/
theorem ends_start {α : Type} {identity : RunIdentity} {run : PyStr → Instant → ProcessingRun}
    {body : PyStr → Instant → Action α} (named : ∀ runId now, (run runId now).identity = identity)
    (world : World) :
    Ends deployment (fun _ end' => Recorded end' identity)
      ((perform Op.now).bind fun now => (perform Op.newRunId).bind fun runId =>
        (perform (Op.register (run runId now))).bind fun _ => body runId now) world := by
  have reads : ∀ (op : Op) (world : World), Ends deployment (fun _ _ => True) (perform op) world :=
    fun op world => ends_perform fun _ _ _ => trivial
  refine Meets.bind ((reads .now world).mono (fun now world₁ _ => ?_) fun _ _ ends => ends)
  refine Meets.bind ((reads .newRunId world₁).mono (fun runId world₂ _ => ?_) fun _ _ ends => ends)
  refine Meets.bind (ends_register.mono (fun _ world₃ recorded => ?_) fun _ _ ends => ends)
  exact ends_recorded _ (named runId now ▸ recorded)

/-- An object has a row after its processing ended. -/
theorem processItem_ends (item : InputObject) (world : World) :
    Ends deployment (fun _ end' => Recorded end' (identityFor deployment sourceType item))
      (processItem deployment settle sourceType item) world := by
  cases sourceType with
  | cdc =>
    refine ends_lookup (@ends_start deployment _ _
      (fun runId now => registeredRun deployment (runOf ⟨item, false, false⟩ runId now))
      (fun runId now => (processBody deployment (runOf ⟨item, false, false⟩ runId now)).handle
        (processHandler (runOf ⟨item, false, false⟩ runId now))) (fun _ _ => rfl) world)
  | settlement =>
    refine ends_lookup (@ends_start deployment _ _ (settlementRun deployment item)
      (settle item) (fun _ _ => rfl) world)

/-- Every object has a row after the loop ended. -/
theorem processItems_ends (items : List InputObject) (world : World) :
    Ends deployment (fun _ end' => ∀ item ∈ items,
        Recorded end' (identityFor deployment sourceType item))
      (processItems deployment settle sourceType items) world := by
  induction items generalizing world with
  | nil => exact fun _ member => by cases member
  | cons item items ih =>
    refine Meets.bind ((processItem_ends item world).mono (fun result middle recorded => ?_)
      fun _ _ ends => ends)
    refine Meets.bind ((Meets.along gains_tracks (ih middle)).mono (fun results end' ends => ?_)
      fun _ _ ends => trivial)
    intro other member
    rcases List.mem_cons.mp member with rfl | later
    · exact ends.1 _ recorded
    · exact ends.2 other later

/-- A part of a run that changes nothing. -/
def Still (deployment : Deployment) {α : Type} (program : Action α) (world : World) : Prop :=
  Meets (machine deployment) (.sequential (fun _ _ _ => True) Eq) (fun _ end' => end' = world)
    (fun _ end' => end' = world) program world

/-- The lookup of an identity that is found. -/
theorem still_lookup {α : Type} {identity : RunIdentity} {world : World}
    {next : Option ProcessingRun → Action α} {run : ProcessingRun}
    (found : findLatestIdentity world.manifest identity = some run)
    (skips : Still deployment (next (some run)) world) :
    Still deployment ((perform (Op.findLatestIdentity identity)).bind next) world := by
  refine Meets.bind (Meets.request ?_)
  rintro moved ⟨rfl⟩ choice -
  obtain act | ⟨fault, -, act | act⟩ :=
    act_cases deployment (Op.findLatestIdentity identity) choice world
  · rw [act]
    refine ⟨rfl, ?_⟩
    change Still deployment (next (findLatestIdentity world.manifest identity)) world
    rw [found]
    exact skips
  · rw [act]
    exact ⟨rfl, rfl⟩
  · rw [act]
    exact ⟨rfl, rfl⟩

/-- The processing of an object that has a row. -/
theorem processItem_still {item : InputObject} {world : World}
    (done : pending deployment sourceType world.manifest item = false) :
    Still deployment (processItem deployment settle sourceType item) world := by
  obtain ⟨run, found⟩ := Option.ne_none_iff_exists'.mp (of_decide_eq_false done)
  cases sourceType with
  | cdc => exact still_lookup found rfl
  | settlement => exact still_lookup found rfl

/-- The loop over objects that have rows. -/
theorem processItems_still {items : List InputObject} {world : World}
    (done : ∀ item ∈ items, pending deployment sourceType world.manifest item = false) :
    Still deployment (processItems deployment settle sourceType items) world := by
  induction items with
  | nil => rfl
  | cons item items ih =>
    refine Meets.bind ((processItem_still (done item (List.mem_cons_self ..))).mono ?_
      fun _ _ ends => ends)
    rintro result middle rfl
    refine Meets.bind ((ih fun other member => done other (List.mem_cons_of_mem _ member)).mono ?_
      fun _ _ ends => ends)
    rintro results end' rfl
    rfl

/-- The world after a run that changes nothing. -/
theorem Still.world {α : Type} {program : Action α} {world : World}
    (still : Still deployment program world) (choices : List Choice) :
    ((machine deployment).run choices (program, world)).2 = world := by
  obtain ⟨-, path⟩ := Meets.run choices still (Admitted.of_forall _ _ fun _ _ _ _ => trivial)
  generalize ((machine deployment).run choices (program, world)).2 = after at path
  induction path with
  | refl => rfl
  | tail _ step ih => rw [← step, ih]

/-- An object has no row exactly when its identity is not recorded. -/
theorem pending_iff {item : InputObject} {world : World} :
    pending deployment sourceType world.manifest item = true ↔
      ¬ Recorded world (identityFor deployment sourceType item) := by
  unfold pending
  rw [decide_eq_true_eq]
  constructor
  · rintro absent ⟨run, member, same⟩
    exact findLatestIdentity_eq_none absent run member same
  · intro unrecorded
    by_contra present
    obtain ⟨run, found⟩ := Option.ne_none_iff_exists'.mp present
    exact unrecorded (recorded_of_found found)

/-! ## Progress -/

/-- The run of the command starts processing for an object without a row, and the check before it,
which knows no dates, does not report `SKIPPED`. -/
def Progresses (deployment : Deployment)
    (settle : InputObject → PyStr → Instant → Action ProcessingResult) (bucket : BronzeBucket)
    (request : DiscoverRequest) (world : World) (choices : List Choice) : Prop :=
  (∃ item ∈ matching bucket request,
    pending deployment request.sourceType world.manifest item = true ∧
    Recorded ((machine deployment).run choices
      (processCommand deployment settle bucket request, world)).2
      (identityFor deployment request.sourceType item)) ∧
  (request.fromDate = none → request.toDate = none →
    ∃ result, discoverUnprocessedBronze deployment bucket world.manifest request.sourceType
      request.entity request.inputPrefix request.maxObjects = .ok result ∧
      result.status ≠ .skipped)

/-- Every matching object can be sorted, and fewer matching objects than the bound come before one
without a row. -/
def WithinReach (deployment : Deployment) (bucket : BronzeBucket) (request : DiscoverRequest)
    (table : ManifestTable) : Prop :=
  Sortable bucket request ∧ ∃ item ∈ matching bucket request,
    pending deployment request.sourceType table item = true ∧
    ((matching bucket request).filter fun other =>
      replayedEarlier request.sourceType other item).length < request.maxObjects.toNat

/-- The command without the discovery. -/
theorem processCommand_found {found : List InputObject}
    (discovered : discover bucket request = .ok found) :
    processCommand deployment settle bucket request =
      processItems deployment settle request.sourceType found := by
  unfold processCommand
  rw [discovered]
  rfl

/-- A Bronze object of customers as it is listed. -/
def listedCustomer (number : UInt8) (name : PyStr) : Cdc.StoredObject where
  location := ⟨[98], py "cdc/entity=customers/" ++ name⟩
  uri := [number.toNat]
  checksumSha256 := (customerObject number).checksumSha256
  sizeBytes := 1
  contentType := []
  metadata := []

/-- A bucket with two objects of customers. -/
def customerBucket : BronzeBucket where
  backend := .minio 3
  objects := [listedCustomer 2 (py "z.parquet"), listedCustomer 1 (py "part.parquet")]
  resolve := fun _ => .error ⟨.valueError, "Only s3:// or local Bronze object paths are supported"⟩
  fileDigest := fun uri => uri

/-- A request for one object. -/
def oneObject : DiscoverRequest where
  sourceType := .cdc
  maxObjects := 1

/-- The settlement processing that does nothing. -/
def settleNothing : InputObject → PyStr → Instant → Action ProcessingResult :=
  fun _ _ _ => .raised ⟨.valueError, "No settlement"⟩

/-- Undisturbed effects of a run. -/
def calmChoices : List Choice := List.replicate 24 { clock := Instant.epoch, runId := [65] }

/-- A program ended normally. -/
def ended {α : Type} : Action α → Bool
  | .done _ => true
  | _ => false

/-- What a program that ended normally returned. -/
theorem ended_result {α : Type} {program : Action α} (ends : ended program = true) :
    ∃ result, program = .done result := by
  cases program with
  | done result => exact ⟨result, rfl⟩
  | raised problem => cases ends
  | perform op next => cases ends

/-- The loop over the objects that are discovered ends normally. -/
def loopEnds (world : World) : Bool :=
  (discover customerBucket oneObject).toOption.all fun found =>
    ended ((machine firstDeployment).run calmChoices
      (processItems firstDeployment settleNothing .cdc found, world)).1

/-- The results of a loop that ends normally. -/
theorem loopEnds_results {world : World} (ends : loopEnds world = true) (found : List InputObject)
    (discovered : discover customerBucket oneObject = .ok found) :
    ∃ results, ((machine firstDeployment).run calmChoices
      (processItems firstDeployment settleNothing .cdc found, world)).1 = .done results := by
  unfold loopEnds at ends
  rw [discovered, Except.toOption, Option.all_some] at ends
  exact ended_result ends

end Incremental
