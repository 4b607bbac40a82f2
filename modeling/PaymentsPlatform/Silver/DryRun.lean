import PaymentsPlatform.Silver.Conservation

/-!
# The dry run of a CDC object

`process_cdc` with `dry_run` reads, normalizes and deduplicates the object and stops there. The
real run goes on: it compares every event with the coordinate that is recorded for its key and
projects its payload, and it counts what it refuses there as well. The two counts agree exactly
when nothing is refused.
-/

namespace Silver

open Python Effects

/-! ## Events that the loop refuses -/

/-- How an event stands to the coordinate that is recorded for its key. -/
def comparedWith (recorded : Option Coordinate) (event : Coordinate) : Standing :=
  match recorded with
  | none => .newer
  | some (topic, partition, offset) =>
    if topic = event.1 then
      if partition = event.2.1 then
        if event.2.2 < offset then .outOfOrder
        else if event.2.2 = offset then .repeated
        else .newer
      else .moved
    else .newer

/-- A row is compared by its coordinate only. -/
theorem standing_eq (prior : Option StateRow) (event : NormalizedCdcEvent) :
    standing prior event =
      comparedWith (prior.map StateRow.coordinate) event.coordinate := by
  cases prior with
  | none => rfl
  | some row => rfl

/-- A newer event that is no tombstone has no projection. -/
def Unprojectable (event : NormalizedCdcEvent) : Prop :=
  match projectEntityState event with
  | .error (.quality _ _) => True
  | _ => False

instance (event : NormalizedCdcEvent) : Decidable (Unprojectable event) := by
  unfold Unprojectable
  split
  · exact .isTrue trivial
  · exact .isFalse id

/-- The loop refuses an event: it precedes the recorded coordinate, it is in another partition, or
it is newer and has no projection. -/
def Refused (recorded : Option Coordinate) (event : NormalizedCdcEvent) : Prop :=
  comparedWith recorded event.coordinate = .outOfOrder ∨
    comparedWith recorded event.coordinate = .moved ∨
    (comparedWith recorded event.coordinate = .newer ∧ event.isTombstone = false ∧
      Unprojectable event)

instance (recorded : Option Coordinate) (event : NormalizedCdcEvent) :
    Decidable (Refused recorded event) := inferInstanceAs (Decidable (_ ∨ _ ∨ _))

/-- The coordinate that is recorded for a key after an event of it. -/
def recordedAfter (recorded : Option Coordinate) (event : NormalizedCdcEvent) :
    Option Coordinate :=
  match comparedWith recorded event.coordinate with
  | .newer =>
    if event.isTombstone then recorded.map fun _ => event.coordinate
    else match projectEntityState event with
      | .ok _ => some event.coordinate
      | .error _ => recorded
  | _ => recorded

/-- What is recorded for every key after an event; `transaction_events` records nothing. -/
def recordNext (entityName : PyStr) (recorded : PyStr → Option Coordinate)
    (event : NormalizedCdcEvent) : PyStr → Option Coordinate :=
  if entityName = Entity.transactionEvents.name then recorded
  else Function.update recorded event.businessKey
    (recordedAfter (recorded event.businessKey) event)

/-- No event is refused when its turn comes. -/
def Unrefused (entityName : PyStr) :
    (PyStr → Option Coordinate) → List NormalizedCdcEvent → Prop
  | _, [] => True
  | recorded, event :: events => ¬ Refused (recorded event.businessKey) event ∧
      Unrefused entityName (recordNext entityName recorded event) events

instance unrefusedDecidable (entityName : PyStr) : (recorded : PyStr → Option Coordinate) →
    (events : List NormalizedCdcEvent) → Decidable (Unrefused entityName recorded events)
  | _, [] => .isTrue trivial
  | recorded, event :: events =>
    @instDecidableAnd _ _ inferInstance
      (unrefusedDecidable entityName (recordNext entityName recorded event) events)

/-- What a state records for its keys. -/
def recordedIn (state : StateTable) (key : PyStr) : Option Coordinate :=
  (rowOf state key).map StateRow.coordinate

variable {entityName uri : PyStr} {now : Instant} {event : NormalizedCdcEvent}
  {build next last : Build}

/-- The row an event writes is what is recorded. -/
theorem recordedAfter_written (prior : Option StateRow) (event : NormalizedCdcEvent) :
    recordedAfter (prior.map StateRow.coordinate) event =
      ((written prior event).or prior).map StateRow.coordinate := by
  unfold recordedAfter
  rw [← standing_eq]
  cases writes : written prior event with
  | some row =>
    rw [Option.some_or, Option.map_some, written_coordinate writes]
    unfold written at writes
    cases stands : standing prior event with
    | newer =>
      rw [stands] at writes
      dsimp only at writes ⊢
      unfold applyEvent at writes
      by_cases tombstone : event.isTombstone = true
      · rw [if_pos tombstone] at writes ⊢
        cases prior with
        | none => cases writes
        | some old => rfl
      · rw [if_neg tombstone] at writes ⊢
        cases projected : projectEntityState event with
        | ok own => rfl
        | error problem => rw [projected] at writes; cases writes
    | repeated | outOfOrder | moved => rw [stands] at writes; cases writes
  | none =>
    rw [Option.none_or]
    unfold written at writes
    cases stands : standing prior event with
    | newer =>
      rw [stands] at writes
      dsimp only at writes ⊢
      unfold applyEvent at writes
      by_cases tombstone : event.isTombstone = true
      · rw [if_pos tombstone] at writes ⊢
        cases prior with
        | none => rfl
        | some old => cases writes
      · rw [if_neg tombstone] at writes ⊢
        cases projected : projectEntityState event with
        | ok own => rw [projected] at writes; cases writes
        | error problem => rfl
    | repeated | outOfOrder | moved => rfl

/-- One pass of the loop records what the event leaves. -/
theorem mergeEvent_recorded (merged : mergeEvent entityName uri now build event = .ok next) :
    recordedIn next.state = recordNext entityName (recordedIn build.state) event := by
  have after := recordedAfter_written (rowOf build.state event.businessKey) event
  unfold recordNext
  obtain ⟨nothing, state, -⟩ | ⟨row, writes, ⟨events, state, -⟩ | ⟨other, state, -⟩⟩ :=
    mergeEvent_spec merged
  · rw [state]
    split
    · rfl
    · rw [nothing, Option.none_or] at after
      exact (Function.update_eq_self_iff.mpr after).symm
  · rw [state, if_pos events]
  · rw [state, if_neg other]
    rw [writes, Option.some_or] at after
    funext key
    unfold recordedIn rowOf
    rw [Relational.Table.get_put]
    by_cases same : key = event.businessKey
    · rw [same, Function.update_self, if_pos rfl]
      exact after.symm
    · rw [Function.update_of_ne same, if_neg same]

/-- One pass of the loop makes a rejection exactly when it refuses the event. -/
theorem mergeEvent_refusal (merged : mergeEvent entityName uri now build event = .ok next) :
    (Refused (recordedIn build.state event.businessKey) event ∧
      next.rejections.length = build.rejections.length + 1) ∨
    (¬ Refused (recordedIn build.state event.businessKey) event ∧
      next.rejections = build.rejections) := by
  have compared := standing_eq (rowOf build.state event.businessKey) event
  change _ = comparedWith (recordedIn build.state event.businessKey) event.coordinate at compared
  have grown : ∀ {code message}, next = build.reject uri event code message now →
      next.rejections.length = build.rejections.length + 1 := by
    rintro code message rfl
    simp [Build.reject]
  unfold mergeEvent at merged
  dsimp only at merged
  rw [show (build.state.get event.businessKey).map Prod.snd =
    rowOf build.state event.businessKey from rfl] at merged
  unfold Refused
  cases stands : standing (rowOf build.state event.businessKey) event with
  | repeated =>
    rw [stands] at merged compared
    refine Or.inr ⟨?_, by rw [← Except.ok.inj merged]⟩
    rw [← compared]
    simp
  | outOfOrder =>
    rw [stands] at merged compared
    exact Or.inl ⟨Or.inl compared.symm, grown (Except.ok.inj merged).symm⟩
  | moved =>
    rw [stands] at merged compared
    exact Or.inl ⟨Or.inr (Or.inl compared.symm), grown (Except.ok.inj merged).symm⟩
  | newer =>
    rw [stands] at merged compared
    rw [← compared]
    dsimp only at merged
    unfold applyEvent at merged
    by_cases tombstone : event.isTombstone = true
    · rw [if_pos tombstone] at merged
      refine Or.inr ⟨by simp [tombstone], ?_⟩
      cases prior : rowOf build.state event.businessKey with
      | none =>
        rw [prior] at merged
        rw [← Except.ok.inj merged]
      | some row =>
        rw [prior] at merged
        exact accept_rejections merged
    · rw [if_neg tombstone] at merged
      unfold Unprojectable
      cases projected : projectEntityState event with
      | ok row =>
        rw [projected] at merged
        exact Or.inr ⟨by simp, accept_rejections merged⟩
      | error problem =>
        rw [projected] at merged
        cases problem with
        | raised error => cases merged
        | quality code message =>
          exact Or.inl ⟨by simpa using tombstone, grown (Except.ok.inj merged).symm⟩

/-- The loop makes no rejection exactly when no event is refused. -/
theorem mergeEvents_unrefused {events : List NormalizedCdcEvent}
    (merged : mergeEvents entityName uri now build events = .ok last) :
    last.rejections.length = build.rejections.length ↔
      Unrefused entityName (recordedIn build.state) events := by
  induction events generalizing build with
  | nil =>
    cases merged
    exact ⟨fun _ => trivial, fun _ => rfl⟩
  | cons event events ih =>
    rw [mergeEvents] at merged
    obtain ⟨next, here, merged⟩ := bind_eq_ok.mp merged
    obtain ⟨-, added, -, grown, -⟩ := mergeEvents_rejections merged
    have more : last.rejections.length = next.rejections.length + added.length := by
      rw [grown, List.length_append]
    rw [Unrefused, ← mergeEvent_recorded here, ← ih merged]
    obtain ⟨refused, step⟩ | ⟨fine, step⟩ := mergeEvent_refusal here
    · constructor
      · intro same
        omega
      · rintro ⟨fine, -⟩
        exact absurd refused fine
    · rw [step]
      exact ⟨fun same => ⟨fine, same⟩, fun both => both.2⟩

/-! ## What does not depend on the run -/

/-- The same event in another run. -/
def NormalizedCdcEvent.relabel (context : RunContext) (event : NormalizedCdcEvent) :
    NormalizedCdcEvent :=
  { event with
    processedAt := context.processedAt
    processingRunId := context.runId
    silverSchemaVersion := context.silverSchemaVersion }

@[simp] theorem relabel_coordinate (context : RunContext) (event : NormalizedCdcEvent) :
    (event.relabel context).coordinate = event.coordinate := rfl

@[simp] theorem relabel_eventId (context : RunContext) (event : NormalizedCdcEvent) :
    (event.relabel context).eventId = event.eventId := rfl

@[simp] theorem relabel_isTombstone (context : RunContext) (event : NormalizedCdcEvent) :
    (event.relabel context).isTombstone = event.isTombstone := rfl

@[simp] theorem relabel_businessKey (context : RunContext) (event : NormalizedCdcEvent) :
    (event.relabel context).businessKey = event.businessKey := rfl

/-- Two runs read rows alike. -/
structure ReadsAlike (context other : RunContext) : Prop where
  /-- The same digest. -/
  sha : other.sha = context.sha
  /-- The same limit of nesting. -/
  recursionLimit : other.recursionLimit = context.recursionLimit

variable {context other : RunContext}

/-- A row is the same event in every run. -/
theorem normalizeRow_relabel (alike : ReadsAlike context other) (row : BronzeRow) :
    normalizeRow other row = (normalizeRow context row).map (·.relabel other) := by
  have identified : identify other row = identify context row := by
    unfold identify
    rw [alike.sha, alike.recursionLimit]
  unfold normalizeRow
  rw [identified]
  cases identify context row with
  | error problem => rfl
  | ok identity =>
    unfold complete
    cases epochMs row.sourceTsMs with
    | error problem => rfl
    | ok sourceTs =>
    cases epochMs row.connectorTsMs with
    | error problem => rfl
    | ok connectorTs =>
    cases epochMs row.kafkaMessageTsMs with
    | error problem => rfl
    | ok kafkaMessageTs =>
    cases row.ingestedAt with
    | none => rfl
    | some ingestedAt => rfl

/-- The event of a row in another run. -/
theorem rowEvent_relabel (alike : ReadsAlike context other) (row : BronzeRow) :
    rowEvent other row = (rowEvent context row).map (·.relabel other) := by
  unfold rowEvent
  rw [normalizeRow_relabel alike]
  cases normalizeRow context row <;> rfl

/-- The events of the rows in another run. -/
theorem events_relabel (alike : ReadsAlike context other) (rows : List BronzeRow) :
    rows.filterMap (rowEvent other) =
      (rows.filterMap (rowEvent context)).map (·.relabel other) := by
  rw [List.map_filterMap]
  exact List.filterMap_congr fun row _ => rowEvent_relabel alike row

/-- A row raises in every run or in none. -/
theorem rowRaises_alike (alike : ReadsAlike context other) (row : BronzeRow) :
    rowRaises other row = rowRaises context row := by
  unfold rowRaises
  rw [normalizeRow_relabel alike]
  cases normalizeRow context row with
  | ok event => rfl
  | error problem => rfl

/-- The loop of `deduplicate_events` in another run. -/
theorem deduplicateLoop_relabel (context : RunContext) (coordinates : List Coordinate)
    (eventIds : List PyStr) (events : List NormalizedCdcEvent) :
    deduplicateLoop coordinates eventIds (events.map (·.relabel context)) =
      ((deduplicateLoop coordinates eventIds events).1.map (·.relabel context),
        (deduplicateLoop coordinates eventIds events).2.map fun duplicate =>
          (duplicate.1.relabel context, duplicate.2)) := by
  induction events generalizing coordinates eventIds with
  | nil => rfl
  | cons event events ih =>
    rw [List.map_cons, deduplicateLoop, deduplicateLoop, relabel_coordinate, relabel_eventId]
    by_cases seen : event.coordinate ∈ coordinates
    · rw [if_pos seen, if_pos seen, ih]
      rfl
    · rw [if_neg seen, if_neg seen]
      by_cases known : event.eventId ∈ eventIds
      · rw [if_pos known, if_pos known, ih]
        rfl
      · rw [if_neg known, if_neg known, ih]
        rfl

/-- `deduplicate_events` in another run. -/
theorem deduplicateEvents_relabel (context : RunContext) (events : List NormalizedCdcEvent) :
    deduplicateEvents (events.map (·.relabel context)) =
      ((deduplicateEvents events).1.map (·.relabel context),
        (deduplicateEvents events).2.map fun duplicate =>
          (duplicate.1.relabel context, duplicate.2)) := by
  unfold deduplicateEvents sortEvents
  rw [← List.map_insertionSort Precedes Precedes (·.relabel context) events
    fun _ _ _ _ => Iff.rfl]
  exact deduplicateLoop_relabel context [] [] _

/-- The projection of an event in another run. -/
theorem projectEntityState_relabel (context : RunContext) (event : NormalizedCdcEvent) :
    projectEntityState (event.relabel context) = (projectEntityState event).map fun row =>
      { row with lineage := (event.relabel context).lineage event.isDeleted } := by
  unfold projectEntityState
  rw [show (event.relabel context).payload = event.payload from rfl,
    show (event.relabel context).entity = event.entity from rfl,
    show (event.relabel context).isDeleted = event.isDeleted from rfl]
  cases event.payload with
  | none => rfl
  | some object =>
    dsimp only
    cases projectColumns event.entity (canonicalObject object) <;> rfl

/-- An event is refused in every run or in none. -/
theorem refused_relabel (context : RunContext) (recorded : Option Coordinate)
    (event : NormalizedCdcEvent) :
    Refused recorded (event.relabel context) ↔ Refused recorded event := by
  have same : Unprojectable (event.relabel context) ↔ Unprojectable event := by
    unfold Unprojectable
    rw [projectEntityState_relabel]
    cases projectEntityState event with
    | ok row => exact Iff.rfl
    | error problem => exact Iff.rfl
  unfold Refused
  rw [same, relabel_coordinate, relabel_isTombstone]

/-- What is recorded after an event is the same in every run. -/
theorem recordNext_relabel (context : RunContext) (entityName : PyStr)
    (recorded : PyStr → Option Coordinate) (event : NormalizedCdcEvent) :
    recordNext entityName recorded (event.relabel context) =
      recordNext entityName recorded event := by
  have same : ∀ old, recordedAfter old (event.relabel context) = recordedAfter old event := by
    intro old
    unfold recordedAfter
    rw [projectEntityState_relabel, relabel_coordinate, relabel_isTombstone]
    cases projectEntityState event <;> rfl
  unfold recordNext
  rw [same, relabel_businessKey]

/-- No event is refused in every run or in none. -/
theorem unrefused_relabel (context : RunContext) (entityName : PyStr)
    (recorded : PyStr → Option Coordinate) (events : List NormalizedCdcEvent) :
    Unrefused entityName recorded (events.map (·.relabel context)) ↔
      Unrefused entityName recorded events := by
  induction events generalizing recorded with
  | nil => exact Iff.rfl
  | cons event events ih =>
    rw [List.map_cons, Unrefused, Unrefused, recordNext_relabel, ih, refused_relabel,
      relabel_businessKey]

/-! ## The dry run -/

/-- The context in which the events of an object are read when no run is given. -/
def objectContext (deployment : Deployment) (object : InputObject) : RunContext where
  sha := deployment.sha
  recursionLimit := deployment.recursionLimit
  inputUri := object.uri
  runId := []
  processedAt := Instant.epoch
  silverSchemaVersion := deployment.settings.silverSchemaVersion

/-- The events of the rows of an object, one for each coordinate, in order. -/
def objectEvents (deployment : Deployment) (object : InputObject) (rows : List BronzeRow) :
    List NormalizedCdcEvent :=
  (deduplicateEvents (rows.filterMap (rowEvent (objectContext deployment object)))).1

/-- The rows of an object. -/
def HasRows (deployment : Deployment) (object : InputObject) (rows : List BronzeRow) : Prop :=
  ∃ payload, deployment.bronze object = .ok payload ∧
    decodeBronze deployment object payload = .ok rows

/-- An object has one list of rows. -/
theorem HasRows.unique {deployment : Deployment} {object : InputObject}
    {rows rows' : List BronzeRow} (has : HasRows deployment object rows)
    (has' : HasRows deployment object rows') : rows' = rows := by
  obtain ⟨payload, content, decoded⟩ := has
  obtain ⟨payload', content', decoded'⟩ := has'
  obtain rfl := Except.ok.inj (content.symm.trans content')
  exact Except.ok.inj (decoded'.symm.trans decoded)

/-- The rows that are rejected before the loop are those without an event of their own. -/
theorem rejected_before (context : RunContext) (rows : List BronzeRow) :
    (rows.filterMap (rowRejected context)).length +
        (deduplicateEvents (rows.filterMap (rowEvent context))).2.length +
      (deduplicateEvents (rows.filterMap (rowEvent context))).1.length = rows.length := by
  have counted := rows_length context rows
  have split := (deduplicateEvents_perm (rows.filterMap (rowEvent context))).length_eq
  rw [List.length_append, List.length_map] at split
  omega

variable {deployment : Deployment} {request : ProcessRequest}

/-- A part of a call that is not disturbed: every effect takes place. -/
abbrev Undisturbed {α : Type} (deployment : Deployment) (post : α → World → Prop)
    (program : Action α) (world : World) : Prop :=
  Meets (machine deployment) (.sequential (fun _ choice _ => choice.fault = none) fun _ _ => True)
    post (fun _ _ => False) program world

/-- One effect that takes place. -/
theorem undisturbed_perform {op : Op} {post : op.Answer → World → Prop} {world : World}
    (takes : ∀ choice, ∃ answer, (effect deployment op choice world).1 = .ok answer ∧
      post answer (effect deployment op choice world).2) :
    Undisturbed deployment post (perform op) world := by
  refine Meets.request ?_
  rintro moved ⟨rfl⟩ choice fine
  have acted : (machine deployment).act op choice world = effect deployment op choice world := by
    unfold machine
    dsimp only
    rw [fine]
  obtain ⟨answer, outcome, ends⟩ := takes choice
  rw [acted, outcome]
  exact ⟨trivial, ends⟩

/-- Sequencing. -/
theorem Undisturbed.seq {α β : Type} {M : α → World → Prop} {post : β → World → Prop}
    {program : Action α} {next : α → Action β} {world : World}
    (first : Undisturbed deployment M program world)
    (rest : ∀ value end', M value end' → Undisturbed deployment post (next value) end') :
    Undisturbed deployment post (program.bind next) world :=
  Meets.bind (first.mono rest fun _ _ no => no)

/-- The dry run returns the rows of its object, and as rejected those without an event of their
own. -/
theorem dryRun_undisturbed {rows : List BronzeRow} {world : World} (dry : request.dryRun = true)
    (due : Due deployment request world) (has : HasRows deployment request.object rows)
    (quiet : ∀ row ∈ rows, rowRaises (objectContext deployment request.object) row = none) :
    Undisturbed deployment (fun predicted _ => predicted.inputRecordCount = rows.length ∧
      predicted.rejectedRecordCount +
        (objectEvents deployment request.object rows).length = rows.length)
      (processCdc deployment request) world := by
  obtain ⟨payload, content, decoded⟩ := has
  have starts : Undisturbed deployment (fun predicted _ =>
      predicted.inputRecordCount = rows.length ∧ predicted.rejectedRecordCount +
        (objectEvents deployment request.object rows).length = rows.length)
      (startRun deployment request) world := by
    refine Undisturbed.seq (M := fun _ end' => end' = world)
      (undisturbed_perform fun _ => ⟨_, rfl, rfl⟩) ?_
    rintro now world rfl
    refine Undisturbed.seq (M := fun _ end' => end' = world)
      (undisturbed_perform fun _ => ⟨_, rfl, rfl⟩) ?_
    rintro runId world rfl
    rw [if_pos dry]
    refine Undisturbed.seq (M := fun answer end' => answer = rows ∧ end' = world) ?_ ?_
    · refine Undisturbed.seq (M := fun answer end' => answer = payload ∧ end' = world)
        (undisturbed_perform fun _ => ⟨payload, content, rfl, rfl⟩) ?_
      rintro _ world ⟨rfl, rfl⟩
      rw [show (runOf request runId now).object = request.object from rfl, decoded]
      exact ⟨rfl, rfl⟩
    rintro read world ⟨same, rfl⟩
    obtain rfl := same.symm
    have alike : ReadsAlike (objectContext deployment request.object)
        ((runOf request runId now).context deployment) := ⟨rfl, rfl⟩
    have normalized : normalizeCdcTable ((runOf request runId now).context deployment) rows =
        .ok (rows.filterMap (rowEvent ((runOf request runId now).context deployment)),
          rows.filterMap (rowRejected ((runOf request runId now).context deployment))) :=
      normalizeCdcTable_ok_iff.mpr ⟨fun row member =>
        (rowRaises_alike alike row).trans (quiet row member), rfl, rfl⟩
    rw [normalized]
    refine ⟨rfl, ?_⟩
    have counted := rejected_before ((runOf request runId now).context deployment) rows
    have kept : (deduplicateEvents
        (rows.filterMap (rowEvent ((runOf request runId now).context deployment)))).1.length =
          (objectEvents deployment request.object rows).length := by
      rw [events_relabel alike, deduplicateEvents_relabel, List.length_map]
      rfl
    rw [kept] at counted
    exact counted
  refine Undisturbed.seq (M := fun prior end' => end' = world ∧
    prior = findLatestIdentity world.manifest (identityOf deployment request.object))
    (undisturbed_perform fun _ => ⟨_, rfl, rfl, rfl⟩) ?_
  rintro prior world ⟨rfl, found⟩
  cases prior with
  | none => exact starts
  | some prior =>
    cases forced : request.forceReprocess with
    | true => exact starts
    | false =>
      obtain unknown | again := due
      · rw [unknown] at found
        cases found
      · rw [forced] at again
        cases again

/-- The effects of a dry run only look. -/
def Reads (op : Op) : Prop := op = .newRunId ∨ Looks op

/-- What reads changes nothing. -/
theorem Reads.act {op : Op} (reads : Reads op) (choice : Choice) (world : World) :
    ((machine deployment).act op choice world).2 = world := by
  obtain rfl | looks := reads
  · obtain act | ⟨fault, -, act | act⟩ := act_cases deployment .newRunId choice world
    · rw [act]
      rfl
    · rw [act]
    · rw [act]
      rfl
  · exact looks.act choice world

/-- A dry run only reads. -/
theorem dryRun_reads (dry : request.dryRun = true) :
    (processCdc deployment request).Uses Reads := by
  have starts : (startRun deployment request).Uses Reads := by
    refine .bind (.request (Or.inr trivial)) fun now =>
      .bind (.request (Or.inl rfl)) fun runId => ?_
    rw [if_pos dry]
    refine .bind (.bind (.request (Or.inr trivial)) fun _ => .ofExcept _) fun rows => ?_
    exact .bind (.ofExcept _) fun _ => trivial
  refine .bind (.request (Or.inr trivial)) fun prior => ?_
  cases prior with
  | none => exact starts
  | some prior =>
    cases request.forceReprocess with
    | false => trivial
    | true => exact starts

/-- The dry run reports the rejections of a result: it changes nothing at any moment, whatever
fails, and when nothing fails it returns the counts of the result. -/
structure DryRunReports (deployment : Deployment) (object : InputObject) (force : Bool)
    (before : World) (result : ProcessingResult) : Prop where
  /-- Nothing changes. -/
  unchanged : ∀ choices : List Choice, ((machine deployment).run choices
    (processCdc deployment ⟨object, force, true⟩, before)).2 = before
  /-- The counts are those of the result. -/
  counts : ∀ dry : Nat → Choice, (∀ index, (dry index).fault = none) → ∃ count predicted,
    (machine deployment).run ((List.range count).map dry)
      (processCdc deployment ⟨object, force, true⟩, before) = (.done predicted, before) ∧
    predicted.inputRecordCount = result.inputRecordCount ∧
    predicted.rejectedRecordCount = result.rejectedRecordCount

/-- The count that a dry run reports, when it reports that of a result. -/
theorem DryRunReports.rejected {object : InputObject} {force : Bool} {before : World}
    {result : ProcessingResult} {rows : List BronzeRow}
    (reports : DryRunReports deployment object force before result)
    (due : Due deployment ⟨object, force, true⟩ before) (has : HasRows deployment object rows)
    (quiet : ∀ row ∈ rows, rowRaises (objectContext deployment object) row = none) :
    result.rejectedRecordCount + (objectEvents deployment object rows).length = rows.length := by
  obtain ⟨count, predicted, ended, -, same⟩ := reports.counts (fun _ => {}) fun _ => rfl
  have dry : Undisturbed deployment (fun predicted _ =>
      predicted.inputRecordCount = rows.length ∧ predicted.rejectedRecordCount +
        (objectEvents deployment object rows).length = rows.length)
      (processCdc deployment ⟨object, force, true⟩) before :=
    dryRun_undisturbed rfl due has quiet
  have calm : ∀ choice ∈ (List.range count).map fun _ => ({} : Choice), ∀ op world,
      (fun (_ : Op) (choice : Choice) (_ : World) => choice.fault = none) op choice world := by
    intro choice member op world
    obtain ⟨index, -, rfl⟩ := List.mem_map.mp member
    rfl
  have counted := (Meets.run _ dry (Admitted.of_forall _ _ calm)).1
  rw [ended] at counted
  have rejected := counted.2
  rw [same] at rejected
  exact rejected

/-- No event of an object is refused by the newest published snapshot of its entity. -/
def NoneRefused (deployment : Deployment) (object : InputObject) (force : Bool)
    (before : World) : Prop :=
  ∀ rows state, HasRows deployment object rows →
    priorState deployment before.objects before.manifest.rows
      (runOf ⟨object, force, false⟩ [] Instant.epoch) = some state →
    Unrefused (entityFromKey object.objectKey) (recordedIn state)
      (objectEvents deployment object rows)

/-- The rejections that a completed run counts: those before the loop, and no others exactly when
no event is refused. -/
theorem Completion.rejected_iff {object : InputObject} {force : Bool} {before : World}
    {objects : PyStr → Option Bytes} {work : Work} {row : ProcessingRun}
    (completion :
      Completion deployment objects before.manifest.rows ⟨object, force, false⟩ work row)
    (prior : priorState deployment before.objects before.manifest.rows work.run =
      some work.state) :
    (row.rejectedRecordCount + (objectEvents deployment object work.rows).length =
      work.rows.length) ↔ NoneRefused deployment object force before := by
  have called := completion.called
  have isObject : work.run.object = object := by
    rw [called]
    rfl
  have named : work.run.entityName = entityFromKey object.objectKey := by
    rw [called]
    rfl
  have alike : ReadsAlike (objectContext deployment object) (work.run.context deployment) :=
    ⟨rfl, rfl⟩
  obtain ⟨-, events, rejections⟩ := normalizeCdcTable_ok_iff.mp completion.done.normalized
  have accepted : work.accepted =
      (objectEvents deployment object work.rows).map (·.relabel (work.run.context deployment)) := by
    unfold Work.accepted
    rw [events, events_relabel alike, deduplicateEvents_relabel]
    rfl
  have merged := completion.done.merged
  rw [sortEvents_accepted] at merged
  have unrefused := mergeEvents_unrefused merged
  rw [accepted, unrefused_relabel, named] at unrefused
  have balance := (accounts_of_work completion.done.normalized completion.done.merged).balance
  have starts : work.start.rejections.length =
      work.rejections.length + work.duplicates.length := by
    unfold Work.start Work.duplicates
    rw [List.length_append, List.length_map]
  rw [accepted, List.length_map] at balance
  rw [completion.rejected]
  have counted : work.build.rejections.length +
      (objectEvents deployment object work.rows).length = work.rows.length ↔
      work.build.rejections.length = work.start.rejections.length := by
    constructor
    · intro same
      omega
    · intro same
      omega
  rw [counted, unrefused]
  have has : HasRows deployment object work.rows := by
    rw [← isObject]
    exact completion.done.read
  constructor
  · intro fine rows state has' prior'
    obtain rfl := HasRows.unique has has'
    rw [called] at prior
    obtain rfl := Option.some.inj (prior.symm.trans prior')
    exact fine
  · intro fine
    refine fine work.rows work.state has ?_
    rw [called] at prior
    exact prior

/-- The completed row behind a result that is neither skipped nor dry. -/
theorem completed_call {object : InputObject} {force : Bool} {before after : World}
    {choices : List Choice} {result : ProcessingResult}
    (real : (machine deployment).run choices
      (processCdc deployment ⟨object, force, false⟩, before) = (.done result, after))
    (completed : result.status = .completed) (fresh : result.skipped = false) :
    Due deployment ⟨object, force, false⟩ before ∧ ∃ row work, result = resultOf row ∧
      Completion deployment after.objects before.manifest.rows ⟨object, force, false⟩ work row ∧
      priorState deployment before.objects before.manifest.rows work.run = some work.state := by
  have conserves := processCdc_conserves deployment ⟨object, force, false⟩ before
  obtain ⟨ended, path⟩ :=
    Meets.run choices conserves (Admitted.of_forall _ _ fun _ _ _ _ => trivial)
  rw [real] at ended path
  obtain skipped | ⟨due, dry | ⟨runId, now, row, own, same⟩⟩ := ended
  · rw [fresh] at skipped
    cases skipped
  · cases dry
  · refine ⟨due, row, ?_⟩
    have member : row ∈ after.manifest.rows := by
      rw [own.rows]
      exact List.mem_append_right _ (List.mem_singleton_self row)
    have done : row.status = .completed := by
      rw [same] at completed
      exact completed
    rcases (Grows.along path).completed row member done with old | ⟨work, completion, prior⟩
    · -- the rows of the manifest have different keys
      have distinct := after.manifest.nodup
      rw [own.rows, List.map_append, List.nodup_append] at distinct
      exact absurd rfl (distinct.2.2 _ (List.mem_map_of_mem old) _ (List.mem_singleton_self _))
    · exact ⟨work, same, completion, prior⟩

/-- The dry run reports the rejections of a completed run exactly when no event of the object is
refused by the newest published snapshot. -/
theorem dry_run_reports_iff (deployment : Deployment) (object : InputObject) (force : Bool)
    (before after : World) (choices : List Choice) (result : ProcessingResult)
    (real : (machine deployment).run choices
      (processCdc deployment ⟨object, force, false⟩, before) = (.done result, after))
    (completed : result.status = .completed) (fresh : result.skipped = false) :
    DryRunReports deployment object force before result ↔
      NoneRefused deployment object force before := by
  obtain ⟨due, row, work, rfl, completion, prior⟩ := completed_call real completed fresh
  rw [← completion.rejected_iff prior]
  have isObject : work.run.object = object := by
    rw [completion.called]
    rfl
  have has : HasRows deployment object work.rows := by
    rw [← isObject]
    exact completion.done.read
  have quiet : ∀ row ∈ work.rows, rowRaises (objectContext deployment object) row = none := by
    intro row member
    have alike : ReadsAlike (objectContext deployment object) (work.run.context deployment) :=
      ⟨rfl, rfl⟩
    rw [← rowRaises_alike alike]
    exact (normalizeCdcTable_ok_iff.mp completion.done.normalized).1 row member
  have unchanged : ∀ choices : List Choice, ((machine deployment).run choices
      (processCdc deployment ⟨object, force, true⟩, before)).2 = before :=
    fun choices => (dryRun_reads rfl).run_world (fun _ reads => reads.act) choices before
  constructor
  · intro reports
    exact reports.rejected due has quiet
  · intro counted
    refine ⟨unchanged, fun stream faultless => ?_⟩
    have dry : Undisturbed deployment (fun predicted _ =>
        predicted.inputRecordCount = work.rows.length ∧ predicted.rejectedRecordCount +
          (objectEvents deployment object work.rows).length = work.rows.length)
        (processCdc deployment ⟨object, force, true⟩) before :=
      dryRun_undisturbed rfl due has quiet
    obtain ⟨count, ⟨predicted, end', ended, input, rejected⟩ | ⟨problem, end', -, no⟩⟩ :=
      Meets.completes stream (fun index _ _ => faultless index) dry
    · have same := unchanged ((List.range count).map stream)
      rw [ended] at same
      subst same
      refine ⟨count, predicted, ended, input.trans completion.input.symm, ?_⟩
      change predicted.rejectedRecordCount = row.rejectedRecordCount
      omega
    · exact no.elim

/-- The result of a call on the only object of a deployment, and whether it has a property. -/
def callGives (deployment : Deployment) (holds : ProcessingResult → Bool) : Bool :=
  match (machine deployment).run firstChoices (processCdc deployment firstRequest, .empty) with
  | (.done result, _) => holds result
  | _ => false

/-- A result with the property. -/
theorem callGives_result {deployment : Deployment} {holds : ProcessingResult → Bool}
    (gives : callGives deployment holds = true) : ∃ result after,
      (machine deployment).run firstChoices (processCdc deployment firstRequest, .empty) =
        (.done result, after) ∧ holds result = true := by
  unfold callGives at gives
  split at gives
  · rename_i result after ended
    exact ⟨result, after, ended, gives⟩
  · cases gives

set_option maxRecDepth 10000 in
/-- The dry run on the first object reports the two rows that the run rejects. -/
theorem first_dry_run_reports : ∃ result after,
    (machine firstDeployment).run firstChoices
      (processCdc firstDeployment firstRequest, .empty) = (.done result, after) ∧
    result.status = .completed ∧ result.skipped = false ∧ result.rejectedRecordCount = 2 ∧
    DryRunReports firstDeployment (customerObject 1) false .empty result := by
  have gives : callGives firstDeployment (fun result => result.status = .completed ∧
      result.skipped = false ∧ result.rejectedRecordCount = 2) = true := by decide +kernel
  obtain ⟨result, after, ended, holds⟩ := callGives_result gives
  obtain ⟨completed, fresh, two⟩ := of_decide_eq_true holds
  refine ⟨result, after, ended, completed, fresh, two, (dry_run_reports_iff firstDeployment
    (customerObject 1) false .empty after firstChoices result ended completed fresh).mpr ?_⟩
  intro rows state has prior
  have own : HasRows firstDeployment (customerObject 1) firstRows :=
    ⟨[1], by decide +kernel, by decide +kernel⟩
  obtain rfl := HasRows.unique own has
  obtain rfl := Option.some.inj prior
  decide +kernel

/-- A customer whose creation time is a truth value. -/
def undatedRows : List BronzeRow :=
  [customerRow 1 [99] (py "\x7b\"customer_id\":\"a\",\"created_at\":true\x7d")]

/-- One object with this row. -/
def undatedDeployment : Deployment :=
  customerDeployment (customerTables (runOf ⟨customerObject 1, false, false⟩ [65] Instant.epoch) []
    undatedRows) fun _ => undatedRows

set_option maxRecDepth 10000 in
/-- The run completes and rejects the row, which the dry run does not report. -/
theorem undated_row_unreported : ∃ result after,
    (machine undatedDeployment).run firstChoices
      (processCdc undatedDeployment firstRequest, .empty) = (.done result, after) ∧
    result.status = .completed ∧ result.skipped = false ∧
    ¬ DryRunReports undatedDeployment (customerObject 1) false .empty result := by
  have gives : callGives undatedDeployment (fun result => result.status = .completed ∧
      result.skipped = false ∧ result.rejectedRecordCount = 1) = true := by decide +kernel
  obtain ⟨result, after, ended, holds⟩ := callGives_result gives
  obtain ⟨completed, fresh, one⟩ := of_decide_eq_true holds
  refine ⟨result, after, ended, completed, fresh, fun reports => ?_⟩
  have own : HasRows undatedDeployment (customerObject 1) undatedRows :=
    ⟨[1], by decide +kernel, by decide +kernel⟩
  have counted := reports.rejected (Or.inl rfl) own (by decide +kernel)
  have events : (objectEvents undatedDeployment (customerObject 1) undatedRows).length = 1 := by
    decide +kernel
  rw [one, events] at counted
  cases counted

end Silver
