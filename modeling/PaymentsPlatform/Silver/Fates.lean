import PaymentsPlatform.Collections.Selections
import PaymentsPlatform.Silver.Evidence
import PaymentsPlatform.Silver.Merging
import PaymentsPlatform.Silver.Rows

/-!
# What becomes of every row

A row of a Bronze object is rejected when it is normalized, rejected as a duplicate, or accepted
into the history; an event of the history is applied, or rejected by the loop, or passed over. The
rejections of a run come from these three stages, and no row is the subject of two of them.
-/

namespace Silver

open Python Collections

variable {entityName uri : PyStr} {now : Instant} {event : NormalizedCdcEvent}
  {build next last : Build}

/-! ## The loop -/

/-- What becomes of an event in the loop. -/
inductive Fate (entityName uri : PyStr) (now : Instant) (event : NormalizedCdcEvent)
    (build next : Build) : Prop
  /-- It is applied to the state, or appended for `transaction_events`. -/
  | applied (row : StateRow) (lineage : row.lineage = event.lineage event.isDeleted)
      (takes : (entityName = Entity.transactionEvents.name ∧ next.state = build.state ∧
          next.eventRows = build.eventRows ++ [row]) ∨
        (entityName ≠ Entity.transactionEvents.name ∧
          next.state = build.state.put (event.businessKey, row) ∧
          next.eventRows = build.eventRows))
      (kept : next.rejections = build.rejections)
  /-- It is rejected as out of order. -/
  | outOfOrder (message : PyStr)
      (rejects : next = build.reject uri event .outOfOrderEvent message now)
  /-- It is rejected because it has no projection. -/
  | unprojected (code : QualityCode) (message : PyStr)
      (problem : projectEntityState event = .error (.quality code message))
      (rejects : next = build.reject uri event code message now)
  /-- It is a tombstone of an unknown key. -/
  | unknownTombstone (tombstone : event.isTombstone = true)
      (unknown : rowOf build.state event.businessKey = none) (passes : next = build)
  /-- It has the offset that is recorded for its key. -/
  | repeated (row : StateRow) (recorded : rowOf build.state event.businessKey = some row)
      (same : row.coordinate = event.coordinate) (passes : next = build)

/-- Taking over a row rejects nothing. -/
theorem accept_rejections {row : StateRow}
    (accepted : build.accept entityName event row now = .ok next) :
    next.rejections = build.rejections := by
  unfold Build.accept at accepted
  split at accepted
  · cases accepted
    rfl
  · obtain ⟨unresolved, -, accepted⟩ := bind_eq_ok.mp accepted
    cases accepted
    rfl

/-- An event that is repeated has the coordinate of the row of its key. -/
theorem standing_repeated {prior : Option StateRow} (stands : standing prior event = .repeated) :
    ∃ row, prior = some row ∧ row.coordinate = event.coordinate := by
  cases prior with
  | none => cases stands
  | some row =>
    refine ⟨row, rfl, ?_⟩
    unfold standing at stands
    dsimp only at stands
    split at stands
    · rename_i topic
      split at stands
      · rename_i partition
        split at stands
        · cases stands
        · split at stands
          · rename_i offset
            unfold StateRow.coordinate NormalizedCdcEvent.coordinate
            rw [topic, partition, offset]
          · cases stands
      · cases stands
    · cases stands

/-- One pass of the loop decides the fate of its event. -/
theorem mergeEvent_fate (merged : mergeEvent entityName uri now build event = .ok next) :
    Fate entityName uri now event build next := by
  unfold mergeEvent at merged
  dsimp only at merged
  rw [show (build.state.get event.businessKey).map Prod.snd =
    rowOf build.state event.businessKey from rfl] at merged
  cases stands : standing (rowOf build.state event.businessKey) event with
  | repeated =>
    rw [stands] at merged
    obtain ⟨row, recorded, same⟩ := standing_repeated stands
    exact .repeated row recorded same (Except.ok.inj merged).symm
  | outOfOrder =>
    rw [stands] at merged
    exact .outOfOrder _ (Except.ok.inj merged).symm
  | moved =>
    rw [stands] at merged
    exact .outOfOrder _ (Except.ok.inj merged).symm
  | newer =>
    rw [stands] at merged
    dsimp only at merged
    cases applied : applyEvent (rowOf build.state event.businessKey) event with
    | ok row =>
      rw [applied] at merged
      cases row with
      | some row =>
        exact .applied row (applyEvent_lineage applied) (accept_spec merged)
          (accept_rejections merged)
      | none =>
        unfold applyEvent at applied
        split at applied
        · rename_i tombstone
          exact .unknownTombstone tombstone (Option.map_eq_none_iff.mp (Except.ok.inj applied))
            (Except.ok.inj merged).symm
        · cases projected : projectEntityState event with
          | ok row => rw [projected] at applied; cases applied
          | error problem => rw [projected] at applied; cases applied
    | error problem =>
      rw [applied] at merged
      cases problem with
      | raised error => cases merged
      | quality code message =>
        unfold applyEvent at applied
        split at applied
        · cases applied
        · cases projected : projectEntityState event with
          | ok row => rw [projected] at applied; cases applied
          | error problem =>
            rw [projected] at applied
            rw [Except.error.inj applied] at projected
            exact .unprojected code message projected (Except.ok.inj merged).symm

/-- The loop over two parts of the events. -/
theorem mergeEvents_append (build : Build) (first second : List NormalizedCdcEvent) :
    mergeEvents entityName uri now build (first ++ second) =
      (mergeEvents entityName uri now build first).bind fun middle =>
        mergeEvents entityName uri now middle second := by
  induction first generalizing build with
  | nil => rfl
  | cons event first ih =>
    rw [List.cons_append, mergeEvents, mergeEvents]
    cases mergeEvent entityName uri now build event with
    | error problem => rfl
    | ok next => exact ih next

/-- The fate of an event of a run: where the loop meets it, and what it does with it. -/
def MeetsFate (entityName uri : PyStr) (now : Instant) (events : List NormalizedCdcEvent)
    (start last : Build) (event : NormalizedCdcEvent) : Prop :=
  ∃ earlier later build next, events = earlier ++ event :: later ∧
    mergeEvents entityName uri now start earlier = .ok build ∧
    mergeEvents entityName uri now next later = .ok last ∧
    Fate entityName uri now event build next

/-- Every event of a run meets its fate. -/
theorem mergeEvents_fates {events : List NormalizedCdcEvent}
    (merged : mergeEvents entityName uri now build events = .ok last) :
    ∀ event ∈ events, MeetsFate entityName uri now events build last event := by
  intro event member
  obtain ⟨earlier, later, rfl⟩ := List.append_of_mem member
  rw [mergeEvents_append] at merged
  obtain ⟨middle, reached, merged⟩ := bind_eq_ok.mp merged
  rw [mergeEvents] at merged
  obtain ⟨next, here, merged⟩ := bind_eq_ok.mp merged
  exact ⟨earlier, later, middle, next, rfl, reached, merged, mergeEvent_fate here⟩

/-- The loop makes a rejection about an event. -/
def Rejects (uri : PyStr) (now : Instant) (event : NormalizedCdcEvent)
    (rejected : QualityRejection) : Prop :=
  ∃ code message, rejected = eventRejection uri event code message now

/-- The loop makes at most one rejection about each event. -/
theorem mergeEvents_rejections {events : List NormalizedCdcEvent}
    (merged : mergeEvents entityName uri now build events = .ok last) :
    ∃ subjects added, subjects.Sublist events ∧ last.rejections = build.rejections ++ added ∧
      List.Forall₂ (Rejects uri now) subjects added := by
  induction events generalizing build with
  | nil =>
    cases merged
    exact ⟨[], [], List.Sublist.refl _, (List.append_nil _).symm, .nil⟩
  | cons event events ih =>
    rw [mergeEvents] at merged
    obtain ⟨next, here, merged⟩ := bind_eq_ok.mp merged
    obtain ⟨subjects, added, inside, grown, each⟩ := ih merged
    have passed : next.rejections = build.rejections → ∃ subjects added,
        subjects.Sublist (event :: events) ∧ last.rejections = build.rejections ++ added ∧
          List.Forall₂ (Rejects uri now) subjects added := by
      intro kept
      exact ⟨subjects, added, inside.cons event, by rw [grown, kept], each⟩
    have rejected : ∀ {code message}, next = build.reject uri event code message now →
        ∃ subjects added, subjects.Sublist (event :: events) ∧
          last.rejections = build.rejections ++ added ∧
          List.Forall₂ (Rejects uri now) subjects added := by
      rintro code message rfl
      refine ⟨event :: subjects, eventRejection uri event code message now :: added,
        inside.cons_cons event, ?_, .cons ⟨code, message, rfl⟩ each⟩
      rw [grown, Build.reject, List.append_assoc]
      rfl
    cases mergeEvent_fate here with
    | applied row lineage takes kept => exact passed kept
    | outOfOrder message rejects => exact rejected rejects
    | unprojected code message problem rejects => exact rejected rejects
    | unknownTombstone tombstone unknown passes => exact passed (by rw [passes])
    | repeated row recorded same passes => exact passed (by rw [passes])

/-! ## The rows of an object -/

/-- The coordinate of a row, `str` of its topic and its two numbers. -/
def BronzeRow.coordinate (row : BronzeRow) : Option Coordinate :=
  row.kafkaPartition.bind fun partition => row.kafkaOffset.map fun offset =>
    (row.kafkaTopic.getD "None", partition, offset)

/-- The event of a row has its coordinate. -/
theorem rowEvent_coordinate {context : RunContext} {row : BronzeRow}
    (read : rowEvent context row = some event) : row.coordinate = some event.coordinate := by
  obtain ⟨topic, partition, offset, -⟩ := rowEvent_identity read
  unfold BronzeRow.coordinate
  rw [partition, offset, topic]
  rfl

/-- A rejection of a run is about a row. -/
inductive Concerns (deployment : Deployment) (run : Run) (row : BronzeRow)
    (rejected : QualityRejection) : Prop
  /-- The row could not be normalized. -/
  | unreadable (found : rowRejected (run.context deployment) row = some rejected)
  /-- Its event is a duplicate. -/
  | duplicate (event : NormalizedCdcEvent) (code : QualityCode)
      (read : rowEvent (run.context deployment) row = some event)
      (made : rejected = duplicateRejection run (event, code))
  /-- Its event was rejected by the loop. -/
  | unmerged (event : NormalizedCdcEvent)
      (read : rowEvent (run.context deployment) row = some event)
      (made : Rejects run.object.uri run.now event rejected)

/-- The duplicates of a run. -/
def Work.duplicates (work : Work) : List (NormalizedCdcEvent × QualityCode) :=
  (deduplicateEvents work.events).2

/-- Every row of the work of a run is accounted for. -/
structure Accounts (deployment : Deployment) (work : Work) : Prop where
  /-- Every row is in the history, rejected when it was normalized, or rejected as a duplicate. -/
  balance : work.accepted.length + work.rejections.length + work.duplicates.length =
    work.rows.length
  /-- The coordinates of the history are different. -/
  distinct : (work.accepted.map NormalizedCdcEvent.coordinate).Nodup
  /-- They are coordinates of rows. -/
  recorded : ∀ event ∈ work.accepted, ∃ row ∈ work.rows, row.coordinate = some event.coordinate
  /-- No row is the subject of two rejections. -/
  subjects : ∃ rows : List BronzeRow, rows.Subperm work.rows ∧
    List.Forall₂ (Concerns deployment work.run) rows work.build.rejections
  /-- Every event of the history meets its fate. -/
  fates : ∀ event ∈ work.accepted, MeetsFate work.run.entityName work.run.object.uri
    work.run.now work.accepted work.start work.build event

/-- The accepted events are sorted already. -/
theorem sortEvents_accepted (work : Work) : sortEvents work.accepted = work.accepted :=
  (deduplicateEvents_sorted work.events).insertionSort_eq

variable {deployment : Deployment} {work : Work}

/-- The rows are the rows that are rejected and the rows that are read. -/
theorem rows_split (context : RunContext) (rows : List BronzeRow) :
    ((rows.filter fun row => (rowRejected context row).isSome) ++
      (rows.filter fun row => (rowEvent context row).isSome)).Perm rows := by
  have other : (fun row => (rowEvent context row).isSome) =
      fun row => !(rowRejected context row).isSome := by
    funext row
    have either := rowEvent_isSome_iff context row
    cases rejected : rowRejected context row with
    | none => rw [either.mpr rejected]; rfl
    | some found =>
      rw [rejected] at either
      cases read : rowEvent context row with
      | none => rfl
      | some event => rw [read] at either; cases either.mp rfl
  rw [other]
  exact List.filter_append_perm _ rows

/-- Every rejection of a run has a row of its own as its subject. -/
theorem rejections_subjects
    (normalized : normalizeCdcTable (work.run.context deployment) work.rows =
      .ok (work.events, work.rejections))
    (merged : mergeEvents work.run.entityName work.run.object.uri work.run.now work.start
      work.accepted = .ok work.build) :
    ∃ rows : List BronzeRow, rows.Subperm work.rows ∧
      List.Forall₂ (Concerns deployment work.run) rows work.build.rejections := by
  obtain ⟨-, events, rejections⟩ := normalizeCdcTable_ok_iff.mp normalized
  obtain ⟨merging, added, inside, grown, each⟩ := mergeEvents_rejections merged
  -- The subjects of the second and third stage are different events.
  have selected : (work.duplicates.map Prod.fst ++ merging).Subperm work.events := by
    have parts : (work.duplicates.map Prod.fst ++ work.accepted).Perm work.events :=
      List.perm_append_comm.trans (deduplicateEvents_perm work.events)
    exact (((List.Sublist.refl _).append inside).subperm).trans parts.subperm
  have read := filterMap_related (rowEvent (work.run.context deployment)) work.rows
  rw [← events] at read
  obtain ⟨later, chosen, of_rows⟩ := related_subperm read selected
  have refused := filterMap_related (rowRejected (work.run.context deployment)) work.rows
  rw [← rejections] at refused
  have doubled : List.Forall₂ (fun event rejected =>
      (∃ code, rejected = duplicateRejection work.run (event, code)) ∨
        Rejects work.run.object.uri work.run.now event rejected)
      (work.duplicates.map Prod.fst ++ merging)
      (work.duplicates.map (duplicateRejection work.run) ++ added) := by
    refine List.rel_append ?_ (each.imp fun _ _ made => Or.inr made)
    rw [List.forall₂_map_left_iff, List.forall₂_map_right_iff]
    exact List.forall₂_same.mpr fun duplicate _ => Or.inl ⟨duplicate.2, rfl⟩
  refine ⟨_, ((List.subperm_append_left _).mpr chosen).trans
    (rows_split (work.run.context deployment) work.rows).subperm, ?_⟩
  rw [grown, Work.start, List.append_assoc]
  refine List.rel_append (refused.imp fun _ _ found => .unreadable found) ?_
  refine (related_trans of_rows doubled).imp ?_
  rintro row rejected ⟨event, read, ⟨code, made⟩ | made⟩
  · exact .duplicate event code read made
  · exact .unmerged event read made

/-- The work that normalizes a table and merges its events accounts for every row. -/
theorem accounts_of_work
    (normalized : normalizeCdcTable (work.run.context deployment) work.rows =
      .ok (work.events, work.rejections))
    (merged : mergeEvents work.run.entityName work.run.object.uri work.run.now work.start
      (sortEvents work.accepted) = .ok work.build) : Accounts deployment work := by
  rw [sortEvents_accepted] at merged
  obtain ⟨-, events, rejections⟩ := normalizeCdcTable_ok_iff.mp normalized
  obtain ⟨inside, distinct⟩ := deduplicateEvents_accepted work.events
  refine ⟨?_, distinct, ?_, rejections_subjects normalized merged, mergeEvents_fates merged⟩
  · have parts := (deduplicateEvents_perm work.events).length_eq
    rw [List.length_append, List.length_map] at parts
    have rows := rows_length (work.run.context deployment) work.rows
    rw [← events, ← rejections] at rows
    unfold Work.accepted Work.duplicates
    omega
  · intro event member
    have listed := inside event member
    rw [events] at listed
    obtain ⟨row, present, read⟩ := List.mem_filterMap.mp listed
    exact ⟨row, present, rowEvent_coordinate read⟩

/-- No more rows are rejected than there are. -/
theorem Accounts.rejected_le (accounts : Accounts deployment work) :
    work.build.rejections.length ≤ work.rows.length := by
  obtain ⟨rows, inside, each⟩ := accounts.subjects
  rw [← each.length_eq]
  exact inside.length_le

end Silver
