import PaymentsPlatform.Silver.Normalizer

/-!
# Deduplication and order of events

`deduplicate_events` keeps the first event of every coordinate and of every identity, in the order
of `event_order_key`, which starts with the coordinate.
-/

namespace Silver

open Python

/-- The order of the sort: topic, partition, offset, and what breaks ties. -/
abbrev EventOrderKey := PyStr ×ₗ Int ×ₗ Int ×ₗ Int ×ₗ Nat ×ₗ Nat ×ₗ Nat ×ₗ PyStr

/-- `event_order_key`. -/
def eventOrderKey (event : NormalizedCdcEvent) : EventOrderKey :=
  toLex (event.kafkaTopic, toLex (event.kafkaPartition, toLex (event.kafkaOffset,
    toLex (event.sourceLsn.getD (-1), toLex ((event.sourceTs.getD event.eventTime).micros,
      toLex ((event.connectorTs.getD event.eventTime).micros,
        toLex (event.ingestedAt.micros, event.eventId)))))))

/-- Earlier in the order of the sort. -/
def Precedes (left right : NormalizedCdcEvent) : Prop := eventOrderKey left ≤ eventOrderKey right

instance : DecidableRel Precedes := fun left right =>
  inferInstanceAs (Decidable (eventOrderKey left ≤ eventOrderKey right))

instance : Std.Total Precedes :=
  ⟨fun left right => le_total (eventOrderKey left) (eventOrderKey right)⟩

instance : IsTrans NormalizedCdcEvent Precedes := ⟨fun _ _ _ one two => le_trans one two⟩

/-- `sorted(events, key=event_order_key)`. -/
def sortEvents (events : List NormalizedCdcEvent) : List NormalizedCdcEvent :=
  events.insertionSort Precedes

/-- The loop of `deduplicate_events`. -/
def deduplicateLoop (coordinates : List Coordinate) (eventIds : List PyStr) :
    List NormalizedCdcEvent → List NormalizedCdcEvent × List (NormalizedCdcEvent × QualityCode)
  | [] => ([], [])
  | event :: events =>
    if event.coordinate ∈ coordinates then
      let (accepted, rejected) := deduplicateLoop coordinates eventIds events
      (accepted, (event, .duplicateCoordinate) :: rejected)
    else if event.eventId ∈ eventIds then
      let (accepted, rejected) := deduplicateLoop coordinates eventIds events
      (accepted, (event, .duplicateEvent) :: rejected)
    else
      let (accepted, rejected) :=
        deduplicateLoop (event.coordinate :: coordinates) (event.eventId :: eventIds) events
      (event :: accepted, rejected)

/-- `deduplicate_events`. -/
def deduplicateEvents (events : List NormalizedCdcEvent) :
    List NormalizedCdcEvent × List (NormalizedCdcEvent × QualityCode) :=
  deduplicateLoop [] [] (sortEvents events)

/-- What the loop accepts: events of the list, in order, of new and different coordinates. -/
theorem deduplicateLoop_accepted (coordinates : List Coordinate) (eventIds : List PyStr)
    (events : List NormalizedCdcEvent) :
    (deduplicateLoop coordinates eventIds events).1.Sublist events ∧
      ((deduplicateLoop coordinates eventIds events).1.map
        NormalizedCdcEvent.coordinate).Nodup ∧
      ∀ event ∈ (deduplicateLoop coordinates eventIds events).1,
        event.coordinate ∉ coordinates := by
  induction events generalizing coordinates eventIds with
  | nil => exact ⟨List.Sublist.refl [], List.nodup_nil, fun _ no => by cases no⟩
  | cons event events ih =>
    rw [deduplicateLoop]
    by_cases seen : event.coordinate ∈ coordinates
    · rw [if_pos seen]
      obtain ⟨inside, apart, fresh⟩ := ih coordinates eventIds
      exact ⟨inside.cons event, apart, fresh⟩
    · rw [if_neg seen]
      by_cases known : event.eventId ∈ eventIds
      · rw [if_pos known]
        obtain ⟨inside, apart, fresh⟩ := ih coordinates eventIds
        exact ⟨inside.cons event, apart, fresh⟩
      · rw [if_neg known]
        obtain ⟨inside, apart, fresh⟩ := ih (event.coordinate :: coordinates)
          (event.eventId :: eventIds)
        refine ⟨inside.cons_cons event, ?_, ?_⟩
        · rw [List.map_cons, List.nodup_cons]
          refine ⟨?_, apart⟩
          intro member
          obtain ⟨other, accepted, same⟩ := List.mem_map.mp member
          exact fresh other accepted (same ▸ List.mem_cons_self ..)
        · intro other member
          rcases List.mem_cons.mp member with rfl | later
          · exact seen
          · exact fun old => fresh other later (List.mem_cons_of_mem _ old)

/-- The loop loses no event. -/
theorem deduplicateLoop_perm (coordinates : List Coordinate) (eventIds : List PyStr)
    (events : List NormalizedCdcEvent) :
    ((deduplicateLoop coordinates eventIds events).1 ++
      (deduplicateLoop coordinates eventIds events).2.map Prod.fst).Perm events := by
  induction events generalizing coordinates eventIds with
  | nil => exact List.Perm.refl []
  | cons event events ih =>
    rw [deduplicateLoop]
    split
    · exact List.perm_middle.trans ((ih coordinates eventIds).cons event)
    · split
      · exact List.perm_middle.trans ((ih coordinates eventIds).cons event)
      · exact (ih _ _).cons event

/-- The accepted and the rejected events are the events, with multiplicity. -/
theorem deduplicateEvents_perm (events : List NormalizedCdcEvent) :
    ((deduplicateEvents events).1 ++ (deduplicateEvents events).2.map Prod.fst).Perm events :=
  (deduplicateLoop_perm [] [] (sortEvents events)).trans
    (List.perm_insertionSort Precedes events)

/-- The accepted events are events of the table, of different coordinates. -/
theorem deduplicateEvents_accepted (events : List NormalizedCdcEvent) :
    (∀ event ∈ (deduplicateEvents events).1, event ∈ events) ∧
      ((deduplicateEvents events).1.map NormalizedCdcEvent.coordinate).Nodup := by
  obtain ⟨inside, apart, -⟩ := deduplicateLoop_accepted [] [] (sortEvents events)
  exact ⟨fun event member => (List.mem_insertionSort Precedes).mp (inside.subset member), apart⟩

/-- The accepted events are in order. -/
theorem deduplicateEvents_sorted (events : List NormalizedCdcEvent) :
    (deduplicateEvents events).1.Pairwise Precedes :=
  (List.pairwise_insertionSort Precedes events).sublist
    (deduplicateLoop_accepted [] [] (sortEvents events)).1

end Silver
