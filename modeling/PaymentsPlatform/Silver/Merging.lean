import PaymentsPlatform.Silver.Processor

/-!
# Merging an event

What one pass of the loop does to the state and to the appended rows: it takes over the row the
event leads to, or it leaves both as they are.
-/

namespace Silver

open Python

/-- The row an event writes under its key: an event that is newer than the row of the key and
leads to a row. -/
def written (prior : Option StateRow) (event : NormalizedCdcEvent) : Option StateRow :=
  match standing prior event with
  | .newer =>
    match applyEvent prior event with
    | .ok row => row
    | .error _ => none
  | _ => none

/-- The row of an event has the lineage of the event. -/
theorem projectEntityState_lineage {event : NormalizedCdcEvent} {row : StateRow}
    (projected : projectEntityState event = .ok row) :
    row.lineage = event.lineage event.isDeleted := by
  unfold projectEntityState at projected
  split at projected
  · cases projected
  · rename_i object payload
    cases columns : projectColumns event.entity (canonicalObject object) with
    | error problem =>
      rw [columns] at projected
      cases projected
    | ok found =>
      rw [columns] at projected
      cases projected
      rfl

/-- The row an event leads to has its coordinate, and it is deleted when the event says so. -/
theorem applyEvent_lineage {prior : Option StateRow} {event : NormalizedCdcEvent} {row : StateRow}
    (applied : applyEvent prior event = .ok (some row)) :
    row.lineage = event.lineage event.isDeleted := by
  unfold applyEvent at applied
  split at applied
  · rename_i tombstone
    cases prior with
    | none => cases applied
    | some old =>
      cases applied
      have deleted : event.isDeleted = true := by
        unfold NormalizedCdcEvent.isTombstone at tombstone
        unfold NormalizedCdcEvent.isDeleted
        rw [tombstone, Bool.or_true]
      rw [deleted]
  · cases projected : projectEntityState event with
    | error problem =>
      rw [projected] at applied
      cases applied
    | ok found =>
      rw [projected] at applied
      cases applied
      exact projectEntityState_lineage projected

/-- The row an event writes has the lineage of the event. -/
theorem written_lineage {prior : Option StateRow} {event : NormalizedCdcEvent} {row : StateRow}
    (writes : written prior event = some row) : row.lineage = event.lineage event.isDeleted := by
  unfold written at writes
  split at writes
  · split at writes
    · rename_i applied
      subst writes
      exact applyEvent_lineage applied
    · cases writes
  · cases writes

/-- The row an event writes has its coordinate. -/
theorem written_coordinate {prior : Option StateRow} {event : NormalizedCdcEvent} {row : StateRow}
    (writes : written prior event = some row) : row.coordinate = event.coordinate := by
  unfold StateRow.coordinate NormalizedCdcEvent.coordinate
  rw [written_lineage writes]
  rfl

/-- What taking over a row does. -/
theorem accept_spec {build next : Build} {entityName : PyStr} {event : NormalizedCdcEvent}
    {row : StateRow} {now : Instant} (accepted : build.accept entityName event row now = .ok next) :
    (entityName = Entity.transactionEvents.name ∧ next.state = build.state ∧
      next.eventRows = build.eventRows ++ [row]) ∨
    (entityName ≠ Entity.transactionEvents.name ∧
      next.state = build.state.put (event.businessKey, row) ∧
      next.eventRows = build.eventRows) := by
  unfold Build.accept at accepted
  split at accepted
  · rename_i events
    cases accepted
    exact Or.inl ⟨events, rfl, rfl⟩
  · rename_i state
    dsimp only at accepted
    cases unresolved : classifyUnresolvedReferences event row
        ((entityName, event.businessKey) :: build.known) now with
    | error problem =>
      rw [unresolved] at accepted
      cases accepted
    | ok found =>
      rw [unresolved] at accepted
      cases accepted
      exact Or.inr ⟨state, rfl, rfl⟩

/-- The row a key has. -/
def rowOf (state : StateTable) (key : PyStr) : Option StateRow := (state.get key).map Prod.snd

/-- One pass of the loop: the row the event writes is taken over, or nothing changes. -/
theorem mergeEvent_spec {entityName uri : PyStr} {now : Instant} {build next : Build}
    {event : NormalizedCdcEvent} (merged : mergeEvent entityName uri now build event = .ok next) :
    (written (rowOf build.state event.businessKey) event = none ∧ next.state = build.state ∧
      next.eventRows = build.eventRows) ∨
    ∃ row, written (rowOf build.state event.businessKey) event = some row ∧
      ((entityName = Entity.transactionEvents.name ∧ next.state = build.state ∧
        next.eventRows = build.eventRows ++ [row]) ∨
      (entityName ≠ Entity.transactionEvents.name ∧
        next.state = build.state.put (event.businessKey, row) ∧
        next.eventRows = build.eventRows)) := by
  unfold mergeEvent at merged
  dsimp only at merged
  rw [show (build.state.get event.businessKey).map Prod.snd =
    rowOf build.state event.businessKey from rfl] at merged
  unfold written
  cases stands : standing (rowOf build.state event.businessKey) event with
  | repeated =>
    rw [stands] at merged
    cases merged
    exact Or.inl ⟨rfl, rfl, rfl⟩
  | outOfOrder =>
    rw [stands] at merged
    cases merged
    exact Or.inl ⟨rfl, rfl, rfl⟩
  | moved =>
    rw [stands] at merged
    cases merged
    exact Or.inl ⟨rfl, rfl, rfl⟩
  | newer =>
    rw [stands] at merged
    dsimp only at merged
    dsimp only
    cases applied : applyEvent (rowOf build.state event.businessKey) event with
    | error problem =>
      rw [applied] at merged
      cases problem with
      | quality code message =>
        cases merged
        exact Or.inl ⟨rfl, rfl, rfl⟩
      | raised error => cases merged
    | ok row =>
      rw [applied] at merged
      cases row with
      | none =>
        cases merged
        exact Or.inl ⟨rfl, rfl, rfl⟩
      | some row => exact Or.inr ⟨row, rfl, accept_spec merged⟩

/-- The rows the loop appends have different coordinates, those of events in order. -/
theorem mergeEvents_eventRows {entityName uri : PyStr} {now : Instant} {build next : Build}
    {events : List NormalizedCdcEvent}
    (merged : mergeEvents entityName uri now build events = .ok next) :
    ∃ rows, next.eventRows = build.eventRows ++ rows ∧
      (rows.map StateRow.coordinate).Sublist (events.map NormalizedCdcEvent.coordinate) := by
  induction events generalizing build with
  | nil =>
    cases merged
    exact ⟨[], (List.append_nil _).symm, List.Sublist.refl _⟩
  | cons event events ih =>
    rw [mergeEvents] at merged
    cases one : mergeEvent entityName uri now build event with
    | error problem =>
      rw [one] at merged
      cases merged
    | ok middle =>
      rw [one] at merged
      obtain ⟨rows, appended, inside⟩ := ih merged
      obtain ⟨-, -, same⟩ | ⟨row, writes, ⟨-, -, same⟩ | ⟨-, -, same⟩⟩ := mergeEvent_spec one
      · exact ⟨rows, by rw [appended, same], inside.cons _⟩
      · refine ⟨row :: rows, by rw [appended, same, List.append_assoc]; rfl, ?_⟩
        rw [List.map_cons, List.map_cons, written_coordinate writes]
        exact inside.cons_cons _
      · exact ⟨rows, by rw [appended, same], inside.cons _⟩

end Silver
