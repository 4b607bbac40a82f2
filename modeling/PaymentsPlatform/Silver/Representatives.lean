import PaymentsPlatform.Collections.Firsts
import PaymentsPlatform.Silver.Deduplication
import PaymentsPlatform.Silver.Rows

/-!
# The representative of a coordinate

When the identities of events do not collide, the second check of `deduplicate_events` never fires,
and the loop keeps the first event of every coordinate in the order of `event_order_key`: the least
one, whatever the order the events arrive in.
-/

namespace Silver

open Python Collections

/-- Events of different coordinates have different identities. -/
def Identified (events : List NormalizedCdcEvent) : Prop :=
  ∀ one ∈ events, ∀ two ∈ events, one.eventId = two.eventId → one.coordinate = two.coordinate

/-- The identities digest the coordinates of the events without a collision. -/
def CollisionFree (sha : Sha256) (events : List NormalizedCdcEvent) : Prop :=
  ∀ one ∈ events, ∀ two ∈ events,
    Cdc.deterministicEventId sha one.kafkaTopic one.kafkaPartition one.kafkaOffset =
        Cdc.deterministicEventId sha two.kafkaTopic two.kafkaPartition two.kafkaOffset →
      one.coordinate = two.coordinate

/-- The events of a table carry the digests of their coordinates. -/
theorem normalizeCdcTable_identified {context : RunContext} {rows : List BronzeRow}
    {events : List NormalizedCdcEvent} {rejections : List QualityRejection}
    (normalized : normalizeCdcTable context rows = .ok (events, rejections))
    (apart : CollisionFree context.sha events) : Identified events := by
  obtain ⟨-, rfl, -⟩ := normalizeCdcTable_ok_iff.mp normalized
  have digest : ∀ event ∈ rows.filterMap (rowEvent context), event.eventId =
      Cdc.deterministicEventId context.sha event.kafkaTopic event.kafkaPartition
        event.kafkaOffset := by
    intro event member
    obtain ⟨row, -, read⟩ := List.mem_filterMap.mp member
    exact (rowEvent_identity read).2.2.2.2
  intro one left two right same
  rw [digest one left, digest two right] at same
  exact apart one left two right same

/-- The loop keeps the first event of every coordinate and rejects the others by coordinate. -/
theorem deduplicateLoop_eq {coordinates : List Coordinate} {eventIds : List PyStr}
    {events : List NormalizedCdcEvent} (identified : Identified events)
    (known : ∀ event ∈ events, event.eventId ∈ eventIds → event.coordinate ∈ coordinates) :
    deduplicateLoop coordinates eventIds events =
      (firsts NormalizedCdcEvent.coordinate coordinates events,
        (repeats NormalizedCdcEvent.coordinate coordinates events).map
          fun event => (event, .duplicateCoordinate)) := by
  induction events generalizing coordinates eventIds with
  | nil => rfl
  | cons event events ih =>
    have later : Identified events := fun one left two right =>
      identified one (List.mem_cons_of_mem _ left) two (List.mem_cons_of_mem _ right)
    rw [deduplicateLoop, firsts, repeats]
    by_cases seen : event.coordinate ∈ coordinates
    · rw [if_pos seen, if_pos seen, if_pos seen, ih later
        (fun other member => known other (List.mem_cons_of_mem _ member))]
      rfl
    · have unknown : event.eventId ∉ eventIds := fun clash =>
        seen (known event (List.mem_cons_self ..) clash)
      have extended : ∀ other ∈ events, other.eventId ∈ event.eventId :: eventIds →
          other.coordinate ∈ event.coordinate :: coordinates := by
        intro other member clash
        rcases List.mem_cons.mp clash with same | old
        · rw [identified other (List.mem_cons_of_mem _ member) event (List.mem_cons_self ..) same]
          exact List.mem_cons_self ..
        · exact List.mem_cons_of_mem _ (known other (List.mem_cons_of_mem _ member) old)
      rw [if_neg seen, if_neg seen, if_neg seen, if_neg unknown, ih later extended]

/-- `deduplicate_events` as one pass over the sorted events. -/
theorem deduplicateEvents_eq {events : List NormalizedCdcEvent} (identified : Identified events) :
    deduplicateEvents events =
      (firsts NormalizedCdcEvent.coordinate [] (sortEvents events),
        (repeats NormalizedCdcEvent.coordinate [] (sortEvents events)).map
          fun event => (event, .duplicateCoordinate)) := by
  refine deduplicateLoop_eq ?_ (fun _ _ no => (by cases no))
  intro one left two right
  exact identified one ((List.mem_insertionSort Precedes).mp left) two
    ((List.mem_insertionSort Precedes).mp right)

/-! ## The order of the sort -/

/-- Coordinates compare by topic, then by partition, then by offset. -/
def Coordinate.toOrder (coordinate : Coordinate) : PyStr ×ₗ Int ×ₗ Int :=
  toLex (coordinate.1, toLex (coordinate.2.1, coordinate.2.2))

/-- The coordinate that an order key starts with. -/
def keyCoordinate (key : EventOrderKey) : Coordinate :=
  ((ofLex key).1, (ofLex (ofLex key).2).1, (ofLex (ofLex (ofLex key).2).2).1)

/-- The order of the keys extends that of the coordinates. -/
theorem keyCoordinate_le {left right : EventOrderKey} (ordered : left ≤ right) :
    (keyCoordinate left).toOrder ≤ (keyCoordinate right).toOrder := by
  unfold Coordinate.toOrder keyCoordinate
  rw [Prod.Lex.toLex_le_toLex]
  rcases Prod.Lex.le_iff.mp ordered with topic | ⟨topic, rest⟩
  · exact Or.inl topic
  · refine Or.inr ⟨topic, ?_⟩
    rw [Prod.Lex.toLex_le_toLex]
    rcases Prod.Lex.le_iff.mp rest with partition | ⟨partition, rest⟩
    · exact Or.inl partition
    · refine Or.inr ⟨partition, ?_⟩
      rcases Prod.Lex.le_iff.mp rest with offset | ⟨offset, -⟩
      · exact le_of_lt offset
      · exact le_of_eq offset

/-- The order of coordinates distinguishes them. -/
theorem Coordinate.toOrder_injective : Function.Injective Coordinate.toOrder := by
  rintro ⟨topic, partition, offset⟩ ⟨topic', partition', offset'⟩ same
  exact same

/-- Sorted events have the order keys of any permutation of theirs, sorted. -/
theorem sortEvents_keys {events others : List NormalizedCdcEvent} (permuted : others.Perm events) :
    (sortEvents others).map eventOrderKey = (sortEvents events).map eventOrderKey := by
  have sorted : ∀ list : List NormalizedCdcEvent,
      ((sortEvents list).map eventOrderKey).Pairwise (· ≤ ·) := by
    intro list
    rw [List.pairwise_map]
    exact List.pairwise_insertionSort Precedes list
  refine List.Perm.eq_of_pairwise' (sorted others) (sorted events) (List.Perm.map _ ?_)
  exact ((List.perm_insertionSort Precedes others).trans permuted).trans
    (List.perm_insertionSort Precedes events).symm

/-! ## The representatives -/

/-- What deduplication makes of a list of events. -/
structure Deduplicated (events accepted : List NormalizedCdcEvent)
    (rejected : List (NormalizedCdcEvent × QualityCode)) : Prop where
  /-- No coordinate has two accepted events. -/
  distinct : (accepted.map NormalizedCdcEvent.coordinate).Nodup
  /-- Every coordinate of the list has an accepted event, and no other has. -/
  covers : ∀ coordinate, coordinate ∈ accepted.map NormalizedCdcEvent.coordinate ↔
    coordinate ∈ events.map NormalizedCdcEvent.coordinate
  /-- The coordinates of the accepted events increase. -/
  increasing : accepted.Pairwise fun one two => one.coordinate.toOrder < two.coordinate.toOrder
  /-- An accepted event is least among the events of its coordinate. -/
  least : ∀ event ∈ accepted, ∀ other ∈ events, other.coordinate = event.coordinate →
    eventOrderKey event ≤ eventOrderKey other
  /-- The accepted and the rejected events are the list, with multiplicity. -/
  rest : (accepted ++ rejected.map Prod.fst).Perm events
  /-- Every rejection names the coordinate. -/
  coded : ∀ entry ∈ rejected, entry.2 = .duplicateCoordinate

/-- Events that are sorted and of different coordinates have increasing coordinates. -/
theorem increasing_coordinates {events : List NormalizedCdcEvent}
    (sorted : events.Pairwise Precedes)
    (distinct : (events.map NormalizedCdcEvent.coordinate).Nodup) :
    events.Pairwise fun one two => one.coordinate.toOrder < two.coordinate.toOrder := by
  have apart : events.Pairwise fun one two => one.coordinate ≠ two.coordinate :=
    List.pairwise_map.mp distinct
  refine (sorted.and apart).imp ?_
  rintro one two ⟨ordered, different⟩
  exact lt_of_le_of_ne (keyCoordinate_le ordered)
    (fun same => different (Coordinate.toOrder_injective same))

/-- Events whose identities do not collide are deduplicated to their representatives. -/
theorem deduplicateEvents_deduplicated {events : List NormalizedCdcEvent}
    (identified : Identified events) :
    Deduplicated events (deduplicateEvents events).1 (deduplicateEvents events).2 := by
  have sorted := deduplicateEvents_sorted events
  have rest := deduplicateEvents_perm events
  rw [deduplicateEvents_eq identified] at sorted rest ⊢
  have distinct := firsts_nodup NormalizedCdcEvent.coordinate [] (sortEvents events)
  refine ⟨distinct, ?_, increasing_coordinates sorted distinct, ?_, rest, ?_⟩
  · intro coordinate
    constructor
    · intro accepted
      obtain ⟨event, kept, rfl⟩ := List.mem_map.mp accepted
      exact List.mem_map_of_mem ((List.mem_insertionSort Precedes).mp
        ((firsts_sublist _ _ _).subset kept))
    · intro member
      obtain ⟨event, listed, rfl⟩ := List.mem_map.mp member
      rcases firsts_covers NormalizedCdcEvent.coordinate []
        ((List.mem_insertionSort Precedes).mpr listed) with no | kept
      · cases no
      · exact kept
  · intro event kept other listed same
    exact firsts_least (fun event => le_refl (eventOrderKey event))
      (List.pairwise_insertionSort Precedes events) kept
      ((List.mem_insertionSort Precedes).mpr listed) same
  · intro entry rejected
    obtain ⟨event, -, rfl⟩ := List.mem_map.mp rejected
    rfl

/-- The order keys of the accepted events do not depend on the order of the events. -/
theorem deduplicateEvents_keys {events others : List NormalizedCdcEvent}
    (identified : Identified events) (permuted : others.Perm events) :
    (deduplicateEvents others).1.map eventOrderKey =
      (deduplicateEvents events).1.map eventOrderKey := by
  have also : Identified others := fun one left two right =>
    identified one (permuted.subset left) two (permuted.subset right)
  have read : ∀ list : List NormalizedCdcEvent,
      (firsts NormalizedCdcEvent.coordinate [] list).map eventOrderKey =
        firsts keyCoordinate [] (list.map eventOrderKey) :=
    firsts_map eventOrderKey keyCoordinate []
  rw [deduplicateEvents_eq also, deduplicateEvents_eq identified, read, read,
    sortEvents_keys permuted]

/-- The events of a normalized table are deduplicated to the least event of every coordinate, in
the order of the coordinates, and every order of the events gives the same order keys. -/
theorem deduplication_canonical {context : RunContext} {rows : List BronzeRow}
    {events : List NormalizedCdcEvent} {rejections : List QualityRejection}
    (normalized : normalizeCdcTable context rows = .ok (events, rejections))
    (apart : CollisionFree context.sha events) :
    Deduplicated events (deduplicateEvents events).1 (deduplicateEvents events).2 ∧
      ∀ others, others.Perm events →
        (deduplicateEvents others).1.map eventOrderKey =
          (deduplicateEvents events).1.map eventOrderKey := by
  have identified := normalizeCdcTable_identified normalized apart
  exact ⟨deduplicateEvents_deduplicated identified,
    fun _ permuted => deduplicateEvents_keys identified permuted⟩

/-- A run with fixed values. -/
def sampleContext : RunContext := ⟨sha256, 100, [], [65], Instant.epoch, [49]⟩

/-- Three customers' rows, two of them of one offset. -/
def repeatedRows : List BronzeRow :=
  [customerRow 2 [99] (py "\x7b\"customer_id\":\"a\"\x7d"),
    customerRow 1 [117] (py "\x7b\"customer_id\":\"b\"\x7d"),
    customerRow 1 [99] (py "\x7b\"customer_id\":\"a\"\x7d")]

/-- Their events. -/
def repeatedEvents : List NormalizedCdcEvent := repeatedRows.filterMap (rowEvent sampleContext)

/-- The repeated offset has one representative. -/
theorem repeated_offset_deduplicated :
    normalizeCdcTable sampleContext repeatedRows = .ok (repeatedEvents, []) ∧
      repeatedEvents.length = 3 ∧ CollisionFree sampleContext.sha repeatedEvents ∧
      (deduplicateEvents repeatedEvents).1.length = 2 ∧
      Deduplicated repeatedEvents (deduplicateEvents repeatedEvents).1
        (deduplicateEvents repeatedEvents).2 := by
  have normalized : normalizeCdcTable sampleContext repeatedRows = .ok (repeatedEvents, []) := by
    refine normalizeCdcTable_ok_iff.mpr ⟨?_, rfl, ?_⟩
    · decide +kernel
    · decide +kernel
  have apart : CollisionFree sampleContext.sha repeatedEvents := by
    unfold CollisionFree
    decide +kernel
  exact ⟨normalized, by decide +kernel, apart, by decide +kernel,
    (deduplication_canonical normalized apart).1⟩

end Silver
