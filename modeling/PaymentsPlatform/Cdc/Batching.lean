import PaymentsPlatform.Cdc.Models
import PaymentsPlatform.Relational.Table

/-!
# Partition-aware batching

`PartitionBatcher` keeps one queue of events for each partition and cuts it into batches. A
queue is never empty and every event of it follows the one before: that is part of its type,
so `build_batch` never refuses what the batcher hands it. Each operation is described by a
conservation law: the events that were queued, with the new one at the end, are the events of
the batches it returned followed by what is still queued.
-/

namespace Cdc

open Python Relational

/-- The later event extends a queue that ends with the earlier one. -/
def Follows (earlier later : BronzeEvent) : Prop :=
  later.kafkaOffset = earlier.kafkaOffset + 1 ∧ later.entityName = earlier.entityName ∧
    later.eventDate = earlier.eventDate ∧ later.schemaVersion = earlier.schemaVersion

instance (earlier later : BronzeEvent) : Decidable (Follows earlier later) :=
  inferInstanceAs (Decidable (_ ∧ _ ∧ _ ∧ _))

/-- A batch of one contiguous offset range of one partition. -/
structure CdcBatch.Contiguous (batch : CdcBatch) : Prop where
  /-- There is an event. -/
  nonempty : batch.events ≠ []
  /-- The offsets are the range, in order. -/
  offsets : batch.events.map (·.kafkaOffset) = offsetRange batch.offsetStart batch.recordCount
  /-- The last offset closes the range. -/
  ends : batch.offsetEnd + 1 = batch.offsetStart + batch.recordCount
  /-- Every event belongs to the partition of the batch. -/
  placed : ∀ event ∈ batch.events, event.topicPartition = batch.topicPartition

/-- A batch of one entity, one date and one schema version. -/
structure CdcBatch.Uniform (batch : CdcBatch) : Prop where
  /-- Every event is of the entity. -/
  entity : ∀ event ∈ batch.events, event.entityName = batch.entityName
  /-- Every event is filed under the date. -/
  date : ∀ event ∈ batch.events, event.eventDate = batch.eventDate
  /-- Every event is of the schema version. -/
  version : ∀ event ∈ batch.events, event.schemaVersion = batch.schemaVersion

/-- The offsets of events that follow one another. -/
theorem offsets_of_chain {first : BronzeEvent} {rest : List BronzeEvent}
    (chained : (first :: rest).IsChain Follows) :
    (first :: rest).map (·.kafkaOffset) = offsetRange first.kafkaOffset (rest.length + 1) := by
  induction rest generalizing first with
  | nil => simp [offsetRange]
  | cons next rest ih =>
    obtain ⟨⟨step, -⟩, tail⟩ := List.isChain_cons_cons.mp chained
    rw [List.map_cons, ih tail, step]
    simp only [offsetRange, List.length_cons]
    rw [List.range_succ_eq_map (n := rest.length + 1)]
    simp only [List.map_cons, List.map_map]
    congr 1
    · simp
    · refine List.map_congr_left fun index _ => ?_
      simp only [Function.comp, Nat.succ_eq_add_one]
      omega

/-- Events that follow one another agree with the first on the labels of a batch. -/
theorem labels_of_chain {first : BronzeEvent} {rest : List BronzeEvent}
    (chained : (first :: rest).IsChain Follows) :
    ∀ event ∈ first :: rest, event.entityName = first.entityName ∧
      event.eventDate = first.eventDate ∧ event.schemaVersion = first.schemaVersion := by
  induction rest generalizing first with
  | nil =>
    intro event member
    rw [List.mem_singleton.mp member]
    exact ⟨rfl, rfl, rfl⟩
  | cons next rest ih =>
    obtain ⟨⟨-, entity, date, version⟩, tail⟩ := List.isChain_cons_cons.mp chained
    intro event member
    rcases List.mem_cons.mp member with rfl | later
    · exact ⟨rfl, rfl, rfl⟩
    · obtain ⟨entity', date', version'⟩ := ih tail event later
      exact ⟨entity'.trans entity, date'.trans date, version'.trans version⟩

/-- An offset of a range, by its position. -/
theorem mem_offsetRange {first offset : Int} {count : Nat} :
    offset ∈ offsetRange first count ↔ first ≤ offset ∧ offset < first + count := by
  simp only [offsetRange, List.mem_map, List.mem_range]
  constructor
  · rintro ⟨index, bound, rfl⟩
    omega
  · rintro ⟨low, high⟩
    exact ⟨(offset - first).toNat, by omega, by omega⟩

/-- The offsets of a range increase. -/
theorem offsetRange_sorted (first : Int) (count : Nat) :
    (offsetRange first count).Pairwise (· < ·) := by
  unfold offsetRange
  rw [List.pairwise_map]
  refine List.pairwise_lt_range.imp fun {left right} ordered => ?_
  omega

/-- Events that follow one another are ordered by offset. -/
theorem sorted_of_chain {events : List BronzeEvent} (chained : events.IsChain Follows) :
    events.Pairwise fun left right => left.kafkaOffset < right.kafkaOffset := by
  cases events with
  | nil => exact List.Pairwise.nil
  | cons first rest =>
    have sorted := offsetRange_sorted first.kafkaOffset (rest.length + 1)
    rw [← offsets_of_chain chained, List.pairwise_map] at sorted
    exact sorted

/-- `build_batch` accepts every queue of events that follow one another. -/
theorem buildBatch_of_chain (sha : Sha256) {key : TopicPartitionKey} {events : List BronzeEvent}
    (nonempty : events ≠ []) (chained : events.IsChain Follows)
    (placed : ∀ event ∈ events, event.topicPartition = key)
    (identified : ∀ event ∈ events, event.Identified) :
    ∃ batch, buildBatch sha events = .ok batch ∧ batch.events = events ∧
      batch.topicPartition = key ∧ batch.Contiguous ∧ batch.Uniform := by
  have ordered : events.insertionSort
      (fun left right => left.kafkaOffset ≤ right.kafkaOffset) = events :=
    List.Pairwise.insertionSort_eq ((sorted_of_chain chained).imp Int.le_of_lt)
  cases events with
  | nil => exact absurd rfl nonempty
  | cons first rest =>
    have offsets := offsets_of_chain chained
    have labels := labels_of_chain chained
    have home : first.topicPartition = key := placed first (List.mem_cons_self ..)
    obtain ⟨last, final⟩ : ∃ last, (first :: rest).getLast? = some last :=
      ⟨_, List.getLast?_eq_some_getLast nonempty⟩
    have ending : last.kafkaOffset + 1 = first.kafkaOffset + (rest.length + 1 : Nat) := by
      have mapped : ((first :: rest).map (·.kafkaOffset)).getLast? = some last.kafkaOffset := by
        rw [List.getLast?_map, final]
        rfl
      rw [offsets] at mapped
      simp only [offsetRange, List.getLast?_map, List.getLast?_range] at mapped
      simp only [Nat.succ_ne_zero, if_false, Option.map_some, Option.some.injEq] at mapped
      omega
    refine ⟨?batch, ?built, ?events, ?home, ?contiguous, ?uniform⟩
    case built =>
      unfold buildBatch
      rw [ordered]
      simp only [final]
      have first' := identified first (List.mem_cons_self ..)
      have last' := identified last (List.mem_of_getLast? final)
      have written : writeIdentity [first.kafkaPartition, first.kafkaOffset, last.kafkaOffset]
          [first.kafkaTopic, first.schemaVersion] = .ok () :=
        writeIdentity_ok.mpr (by simp [first'.topic, first'.version, first'.partition,
          first'.offset, last'.offset])
      rw [if_neg (by simpa using offsets), if_neg, if_neg, if_neg, if_neg, written]
      · rfl
      · simpa using fun event member => (labels event (List.mem_cons_of_mem _ member)).2.2
      · simpa using fun event member => (labels event (List.mem_cons_of_mem _ member)).2.1
      · simpa using fun event member => (labels event (List.mem_cons_of_mem _ member)).1
      · simpa [home] using fun event member => placed event (List.mem_cons_of_mem _ member)
    case events => rfl
    case home => exact home
    case contiguous =>
      exact {
        nonempty := nonempty
        offsets := offsets
        ends := ending
        placed := fun event member => (placed event member).trans home.symm }
    case uniform =>
      exact {
        entity := fun event member => (labels event member).1
        date := fun event member => (labels event member).2.1
        version := fun event member => (labels event member).2.2 }

/-- The queue of one partition: it has an event, and every event follows the one before. -/
structure PendingPartition where
  /-- The partition. -/
  key : TopicPartitionKey
  /-- The events in arrival order. -/
  events : List BronzeEvent
  /-- When the queue was started or last cut. -/
  firstSeenAt : Instant
  /-- An empty queue is removed. -/
  nonempty : events ≠ []
  /-- A boundary change flushes the queue first. -/
  chained : events.IsChain Follows
  /-- Events are queued under their own partition. -/
  placed : ∀ event ∈ events, event.topicPartition = key

namespace PendingPartition

/-- The last event of a queue. -/
def last (partition : PendingPartition) : BronzeEvent :=
  partition.events.getLast partition.nonempty

/-- A new queue with one event. -/
def start (event : BronzeEvent) (observedAt : Instant) : PendingPartition where
  key := event.topicPartition
  events := [event]
  firstSeenAt := observedAt
  nonempty := List.cons_ne_nil _ _
  chained := List.isChain_singleton _
  placed := fun other member => by rw [List.mem_singleton.mp member]

/-- A queue with one event more. -/
def extend (partition : PendingPartition) (event : BronzeEvent)
    (home : event.topicPartition = partition.key) (follows : Follows partition.last event) :
    PendingPartition where
  key := partition.key
  events := partition.events ++ [event]
  firstSeenAt := partition.firstSeenAt
  nonempty := List.append_ne_nil_of_right_ne_nil _ (List.cons_ne_nil _ _)
  chained := by
    refine List.IsChain.append partition.chained (List.isChain_singleton _) ?_
    intro final isFinal first isFirst
    rw [List.getLast?_eq_some_getLast partition.nonempty, Option.mem_some] at isFinal
    rw [List.head?_cons, Option.mem_some] at isFirst
    rw [← isFinal, ← isFirst]
    exact follows
  placed := by
    intro other member
    rcases List.mem_append.mp member with inside | new
    · exact partition.placed other inside
    · rw [List.mem_singleton.mp new, home]

/-- The queue without its first events, when some are left. -/
def drop (partition : PendingPartition) (count : Nat) (observedAt : Instant)
    (left : partition.events.drop count ≠ []) : PendingPartition where
  key := partition.key
  events := partition.events.drop count
  firstSeenAt := observedAt
  nonempty := left
  chained := partition.chained.drop count
  placed := fun event member => partition.placed event (List.mem_of_mem_drop member)

end PendingPartition

/-- The queues by partition, in the order in which they were started. -/
structure PartitionBatcher where
  /-- Events of a full batch. -/
  batchSize : Nat
  /-- Age in microseconds at which a queue is due. -/
  flushInterval : Int
  /-- The queues. -/
  pending : Table PendingPartition TopicPartitionKey PendingPartition.key
  /-- The constructor refuses other sizes. -/
  batchSize_pos : 0 < batchSize

namespace PartitionBatcher

/-- The events queued for a partition. -/
def queued (batcher : PartitionBatcher) (key : TopicPartitionKey) : List BronzeEvent :=
  ((batcher.pending.get key).map PendingPartition.events).getD []

/-- `_take`: cut the first events off a queue and build their batch. The queue is already
shorter when `build_batch` raises. -/
def take (sha : Sha256) (batcher : PartitionBatcher) (partition : PendingPartition) (count : Nat)
    (observedAt : Instant) : Except PyError CdcBatch × PartitionBatcher :=
  let pending :=
    if left : partition.events.drop count = [] then batcher.pending.delete partition.key
    else batcher.pending.put (partition.drop count observedAt left)
  (buildBatch sha (partition.events.take count), { batcher with pending })

/-- `flush_partition`: the whole queue as one batch. -/
def flushPartition (sha : Sha256) (batcher : PartitionBatcher) (key : TopicPartitionKey)
    (observedAt : Instant) : Except PyError (List CdcBatch) × PartitionBatcher :=
  match batcher.pending.get key with
  | none => (.ok [], batcher)
  | some partition =>
    let (built, batcher) := batcher.take sha partition partition.events.length observedAt
    (built.map fun batch => [batch], batcher)

/-- `flush_partitions`. -/
def flushPartitions (sha : Sha256) (observedAt : Instant) :
    PartitionBatcher → List TopicPartitionKey → Except PyError (List CdcBatch) × PartitionBatcher
  | batcher, [] => (.ok [], batcher)
  | batcher, key :: keys =>
    match batcher.flushPartition sha key observedAt with
    | (.error problem, batcher) => (.error problem, batcher)
    | (.ok first, batcher) =>
      let (rest, batcher) := flushPartitions sha observedAt batcher keys
      (rest.map (first ++ ·), batcher)

/-- `flush_all`. -/
def flushAll (sha : Sha256) (batcher : PartitionBatcher) (observedAt : Instant) :
    Except PyError (List CdcBatch) × PartitionBatcher :=
  batcher.flushPartitions sha observedAt (batcher.pending.rows.map PendingPartition.key)

/-- The order in which due partitions are flushed. -/
def keyBefore (left right : TopicPartitionKey) : Prop :=
  left.topic < right.topic ∨ (left.topic = right.topic ∧ left.partition ≤ right.partition)

instance (left right : TopicPartitionKey) : Decidable (keyBefore left right) :=
  inferInstanceAs (Decidable (_ ∨ _))

/-- `flush_due`: the queues started or cut at least the interval ago. -/
def flushDue (sha : Sha256) (batcher : PartitionBatcher) (observedAt : Instant) :
    Except PyError (List CdcBatch) × PartitionBatcher :=
  let due := batcher.pending.rows.filter fun partition =>
    batcher.flushInterval ≤ (observedAt.micros : Int) - partition.firstSeenAt.micros
  batcher.flushPartitions sha observedAt
    ((due.map PendingPartition.key).insertionSort keyBefore)

/-- The loop at the end of `add`: full batches are cut off while there are any. Each turn
removes an event, so the length of the queue bounds the turns. -/
def cutFull (sha : Sha256) (key : TopicPartitionKey) (observedAt : Instant) :
    Nat → PartitionBatcher → Except PyError (List CdcBatch) × PartitionBatcher
  | 0, batcher => (.ok [], batcher)
  | turns + 1, batcher =>
    match batcher.pending.get key with
    | none => (.ok [], batcher)
    | some partition =>
      if partition.events.length < batcher.batchSize then (.ok [], batcher)
      else match batcher.take sha partition batcher.batchSize observedAt with
        | (.error problem, batcher) => (.error problem, batcher)
        | (.ok batch, batcher) =>
          let (rest, batcher) := cutFull sha key observedAt turns batcher
          (rest.map (batch :: ·), batcher)

/-- Queue a partition and cut its full batches off. -/
def enqueue (sha : Sha256) (batcher : PartitionBatcher) (partition : PendingPartition)
    (observedAt : Instant) : Except PyError (List CdcBatch) × PartitionBatcher :=
  cutFull sha partition.key observedAt partition.events.length
    { batcher with pending := batcher.pending.put partition }

/-- `add`: an event that does not follow the queue flushes it and starts a new one. -/
def add (sha : Sha256) (batcher : PartitionBatcher) (event : BronzeEvent) (observedAt : Instant) :
    Except PyError (List CdcBatch) × PartitionBatcher :=
  match found : batcher.pending.get event.topicPartition with
  | none => batcher.enqueue sha (.start event observedAt) observedAt
  | some partition =>
    if follows : Follows partition.last event then
      batcher.enqueue sha (partition.extend event (Table.key_of_get found).symm follows) observedAt
    else match batcher.flushPartition sha event.topicPartition observedAt with
      | (.error problem, batcher) => (.error problem, batcher)
      | (.ok flushed, batcher) =>
        let (rest, batcher) := batcher.enqueue sha (.start event observedAt) observedAt
        (rest.map (flushed ++ ·), batcher)

/-- `add` starts a queue. -/
theorem add_of_none (sha : Sha256) {batcher : PartitionBatcher} {event : BronzeEvent}
    (found : batcher.pending.get event.topicPartition = none) (observedAt : Instant) :
    batcher.add sha event observedAt =
      batcher.enqueue sha (.start event observedAt) observedAt := by
  unfold add
  split
  · rfl
  · rename_i partition there
    cases found.symm.trans there

/-- `add` extends a queue. -/
theorem add_of_follows (sha : Sha256) {batcher : PartitionBatcher} {event : BronzeEvent}
    {partition : PendingPartition}
    (found : batcher.pending.get event.topicPartition = some partition)
    (follows : Follows partition.last event) (observedAt : Instant) :
    batcher.add sha event observedAt =
      batcher.enqueue sha (partition.extend event (Table.key_of_get found).symm follows)
        observedAt := by
  unfold add
  split
  · rename_i absent
    cases found.symm.trans absent
  · rename_i other there
    obtain rfl := Option.some.inj (found.symm.trans there)
    rw [dif_pos follows]

/-- `add` flushes a queue the event does not follow and starts a new one. -/
theorem add_of_boundary (sha : Sha256) {batcher : PartitionBatcher} {event : BronzeEvent}
    {partition : PendingPartition}
    (found : batcher.pending.get event.topicPartition = some partition)
    (boundary : ¬ Follows partition.last event) (observedAt : Instant) :
    batcher.add sha event observedAt =
      match batcher.flushPartition sha event.topicPartition observedAt with
      | (.error problem, batcher) => (.error problem, batcher)
      | (.ok flushed, batcher) =>
        let (rest, batcher) := batcher.enqueue sha (.start event observedAt) observedAt
        (rest.map (flushed ++ ·), batcher) := by
  unfold add
  split
  · rename_i absent
    cases found.symm.trans absent
  · rename_i other there
    obtain rfl := Option.some.inj (found.symm.trans there)
    rw [dif_neg boundary]

/-- What an operation did: it cut the batches, each a contiguous range, off the front of the
queues after the new events had been put at their end. -/
structure Cuts (before after : PartitionBatcher) (added : TopicPartitionKey → List BronzeEvent)
    (batches : List CdcBatch) : Prop where
  /-- Every batch is one contiguous range. -/
  contiguous : ∀ batch ∈ batches, batch.Contiguous
  /-- Every batch has one entity, date and schema version. -/
  uniform : ∀ batch ∈ batches, batch.Uniform
  /-- No event is lost, doubled or moved before another. -/
  conserved : ∀ key, before.queued key ++ added key =
    (batches.filter fun batch => batch.topicPartition = key).flatMap CdcBatch.events ++
      after.queued key

/-- No new event. -/
def nothing (_ : TopicPartitionKey) : List BronzeEvent := []

/-- One new event. -/
def arrival (event : BronzeEvent) (key : TopicPartitionKey) : List BronzeEvent :=
  if key = event.topicPartition then [event] else []

/-- An operation that did nothing. -/
theorem Cuts.refl (batcher : PartitionBatcher) : Cuts batcher batcher nothing [] :=
  ⟨by simp, by simp, by simp [nothing]⟩

/-- One operation after another. -/
theorem Cuts.trans {first second third : PartitionBatcher}
    {early late : TopicPartitionKey → List BronzeEvent} {batches more : List CdcBatch}
    (one : Cuts first second early batches) (two : Cuts second third late more) :
    Cuts first third (fun key => early key ++ late key) (batches ++ more) where
  contiguous := by
    intro batch member
    rcases List.mem_append.mp member with left | right
    · exact one.contiguous batch left
    · exact two.contiguous batch right
  uniform := by
    intro batch member
    rcases List.mem_append.mp member with left | right
    · exact one.uniform batch left
    · exact two.uniform batch right
  conserved := by
    intro key
    rw [List.filter_append, List.flatMap_append, List.append_assoc, ← two.conserved key,
      ← List.append_assoc, ← List.append_assoc, one.conserved key]

/-- Every queued event can be identified. -/
def Identified (batcher : PartitionBatcher) : Prop :=
  ∀ key, ∀ event ∈ batcher.queued key, event.Identified

/-- What is left after a cut was there or is new. -/
theorem Cuts.identified {before after : PartitionBatcher}
    {added : TopicPartitionKey → List BronzeEvent} {batches : List CdcBatch}
    (cuts : Cuts before after added batches) (old : before.Identified)
    (new : ∀ key, ∀ event ∈ added key, event.Identified) : after.Identified := by
  intro key event member
  have there : event ∈ before.queued key ++ added key := by
    rw [cuts.conserved]
    exact List.mem_append_right _ member
  rcases List.mem_append.mp there with left | right
  · exact old key event left
  · exact new key event right

/-- The queues after `_take`. -/
theorem take_queued (sha : Sha256) (batcher : PartitionBatcher) (partition : PendingPartition)
    (count : Nat) (observedAt : Instant) (key : TopicPartitionKey) :
    (batcher.take sha partition count observedAt).2.queued key =
      if key = partition.key then partition.events.drop count else batcher.queued key := by
  simp only [take, queued]
  split
  · rename_i left
    rw [Table.get_delete]
    split
    · rw [left]; rfl
    · rfl
  · rw [Table.get_put]
    simp only [PendingPartition.drop]
    by_cases same : key = partition.key
    · simp [same]
    · simp [same]

/-- `_take` cuts the first events off and does not raise. -/
theorem take_cuts (sha : Sha256) (batcher : PartitionBatcher) (identified : batcher.Identified)
    {partition : PendingPartition}
    (found : batcher.pending.get partition.key = some partition) {count : Nat}
    (positive : 0 < count) (observedAt : Instant) :
    ∃ batch after, batcher.take sha partition count observedAt = (.ok batch, after) ∧
      Cuts batcher after nothing [batch] ∧
      after.queued partition.key = partition.events.drop count ∧
      (∀ key, key ≠ partition.key → after.queued key = batcher.queued key) ∧
      after.batchSize = batcher.batchSize := by
  have taken : partition.events.take count ≠ [] := by
    have size := List.length_pos_of_ne_nil partition.nonempty
    intro none
    have length := congrArg List.length none
    rw [List.length_take, List.length_nil] at length
    omega
  have known : ∀ event ∈ partition.events, event.Identified := by
    intro event member
    refine identified partition.key event ?_
    simpa [queued, found] using member
  obtain ⟨batch, built, events, home, contiguous, uniform⟩ := buildBatch_of_chain sha taken
    (partition.chained.take count)
    (fun event member => partition.placed event (List.mem_of_mem_take member))
    (fun event member => known event (List.mem_of_mem_take member))
  refine ⟨batch, (batcher.take sha partition count observedAt).2, ?_, ?_⟩
  · simp only [take, built]
  have rest := take_queued sha batcher partition count observedAt
  refine ⟨⟨by simpa using contiguous, by simpa using uniform, ?_⟩, by simp [rest], ?_, rfl⟩
  · intro key
    rw [rest key]
    by_cases same : key = partition.key
    · subst same
      simp [nothing, home, events, queued, found]
    · have other : ¬ partition.key = key := fun equal => same equal.symm
      simp [nothing, home, same, other]
  · intro key other
    rw [rest key, if_neg other]

/-- `flush_partition` empties one queue. -/
theorem flushPartition_cuts (sha : Sha256) (batcher : PartitionBatcher)
    (identified : batcher.Identified) (key : TopicPartitionKey) (observedAt : Instant) :
    ∃ batches after, batcher.flushPartition sha key observedAt = (.ok batches, after) ∧
      Cuts batcher after nothing batches ∧
      (∀ other, after.queued other = if other = key then [] else batcher.queued other) ∧
      after.batchSize = batcher.batchSize := by
  unfold flushPartition
  cases found : batcher.pending.get key with
  | none =>
    refine ⟨[], batcher, rfl, Cuts.refl batcher, ?_, rfl⟩
    intro other
    split
    · rename_i same
      simp [queued, same, found]
    · rfl
  | some partition =>
    have home := Table.key_of_get found
    subst home
    obtain ⟨batch, after, taken, cuts, emptied, others, size⟩ :=
      take_cuts sha batcher identified found (List.length_pos_of_ne_nil partition.nonempty)
        observedAt
    refine ⟨[batch], after, ?_, cuts, ?_, size⟩
    · simp only [taken]
      rfl
    · intro other
      split
      · rename_i same
        rw [same, emptied, List.drop_length]
      · rename_i different
        exact others other different

/-- `flush_partitions` empties the queues of the keys. -/
theorem flushPartitions_cuts (sha : Sha256) (observedAt : Instant) (keys : List TopicPartitionKey)
    (batcher : PartitionBatcher) (identified : batcher.Identified) :
    ∃ batches after, batcher.flushPartitions sha observedAt keys = (.ok batches, after) ∧
      Cuts batcher after nothing batches ∧
      (∀ key, after.queued key = if key ∈ keys then [] else batcher.queued key) ∧
      after.batchSize = batcher.batchSize := by
  induction keys generalizing batcher with
  | nil => exact ⟨[], batcher, rfl, Cuts.refl batcher, by simp, rfl⟩
  | cons key keys ih =>
    obtain ⟨first, middle, flushed, cuts, emptied, size⟩ :=
      flushPartition_cuts sha batcher identified key observedAt
    have identified' := cuts.identified identified (by simp [nothing])
    obtain ⟨rest, after, later, cuts', emptied', size'⟩ := ih middle identified'
    refine ⟨first ++ rest, after, ?_, cuts.trans cuts', ?_, size'.trans size⟩
    · simp only [flushPartitions, flushed, later]
      rfl
    · intro other
      rw [emptied' other, emptied other]
      by_cases here : other = key
      · simp [here]
      · simp [here]

/-- `flush_all` empties every queue. -/
theorem flushAll_cuts (sha : Sha256) (batcher : PartitionBatcher)
    (identified : batcher.Identified) (observedAt : Instant) :
    ∃ batches after, batcher.flushAll sha observedAt = (.ok batches, after) ∧
      Cuts batcher after nothing batches ∧ (∀ key, after.queued key = []) ∧
      after.batchSize = batcher.batchSize := by
  obtain ⟨batches, after, flushed, cuts, emptied, size⟩ := flushPartitions_cuts sha observedAt
    (batcher.pending.rows.map PendingPartition.key) batcher identified
  refine ⟨batches, after, flushed, cuts, ?_, size⟩
  intro key
  rw [emptied key]
  split
  · rfl
  · rename_i absent
    have none : batcher.pending.get key = none := by
      rw [Table.get_eq_none]
      intro row member same
      exact absent (List.mem_map.mpr ⟨row, member, same⟩)
    simp [queued, none]

/-- `flush_due` empties some of the queues. -/
theorem flushDue_cuts (sha : Sha256) (batcher : PartitionBatcher)
    (identified : batcher.Identified) (observedAt : Instant) :
    ∃ batches after, batcher.flushDue sha observedAt = (.ok batches, after) ∧
      Cuts batcher after nothing batches ∧
      (∀ key, after.queued key = [] ∨ after.queued key = batcher.queued key) ∧
      after.batchSize = batcher.batchSize := by
  obtain ⟨batches, after, flushed, cuts, emptied, size⟩ := flushPartitions_cuts sha observedAt
    (((batcher.pending.rows.filter fun partition =>
      batcher.flushInterval ≤ (observedAt.micros : Int) - partition.firstSeenAt.micros).map
        PendingPartition.key).insertionSort keyBefore) batcher identified
  refine ⟨batches, after, flushed, cuts, ?_, size⟩
  intro key
  rw [emptied key]
  split
  · exact Or.inl rfl
  · exact Or.inr rfl

/-- The loop of `add` only cuts batches off, until less than a full batch is left. -/
theorem cutFull_cuts (sha : Sha256) (key : TopicPartitionKey) (observedAt : Instant)
    (turns : Nat) (batcher : PartitionBatcher) (identified : batcher.Identified) :
    ∃ batches after, batcher.cutFull sha key observedAt turns = (.ok batches, after) ∧
      Cuts batcher after nothing batches ∧
      (∀ other, other ≠ key → after.queued other = batcher.queued other) ∧
      ((batcher.queued key).length ≤ turns → (after.queued key).length < batcher.batchSize) ∧
      after.batchSize = batcher.batchSize := by
  induction turns generalizing batcher with
  | zero =>
    refine ⟨[], batcher, rfl, Cuts.refl batcher, fun _ _ => rfl, ?_, rfl⟩
    intro short
    have := batcher.batchSize_pos
    omega
  | succ turns ih =>
    unfold cutFull
    cases found : batcher.pending.get key with
    | none =>
      refine ⟨[], batcher, rfl, Cuts.refl batcher, fun _ _ => rfl, ?_, rfl⟩
      intro _
      simpa [queued, found] using batcher.batchSize_pos
    | some partition =>
      have home := Table.key_of_get found
      subst home
      have here : batcher.queued partition.key = partition.events := by simp [queued, found]
      simp only
      split
      · rename_i short
        exact ⟨[], batcher, rfl, Cuts.refl batcher, fun _ _ => rfl, fun _ => by rwa [here], rfl⟩
      · obtain ⟨batch, middle, taken, cuts, left, others, size⟩ :=
          take_cuts sha batcher identified found batcher.batchSize_pos observedAt
        have identified' := cuts.identified identified (by simp [nothing])
        obtain ⟨rest, after, later, cuts', others', bounded, size'⟩ := ih middle identified'
        refine ⟨batch :: rest, after, ?_, cuts.trans cuts', ?_, ?_, size'.trans size⟩
        · simp only [taken, later]
          rfl
        · intro other different
          rw [others' other different, others other different]
        · intro enough
          rw [← size]
          refine bounded ?_
          have := batcher.batchSize_pos
          rw [left, List.length_drop]
          rw [here] at enough
          omega

/-- The event that arrives can be identified. -/
theorem arrival_identified {event : BronzeEvent} (known : event.Identified) :
    ∀ key, ∀ other ∈ arrival event key, other.Identified := by
  intro key other member
  unfold arrival at member
  split at member
  · rw [List.mem_singleton.mp member]
    exact known
  · cases member

/-- Queueing a partition that holds the old queue and one event more. -/
theorem enqueue_cuts (sha : Sha256) (batcher : PartitionBatcher)
    (identified : batcher.Identified) (partition : PendingPartition)
    (event : BronzeEvent) (known : event.Identified) (observedAt : Instant)
    (home : partition.key = event.topicPartition)
    (holds : partition.events = batcher.queued event.topicPartition ++ [event]) :
    ∃ batches after, batcher.enqueue sha partition observedAt = (.ok batches, after) ∧
      Cuts batcher after (arrival event) batches ∧
      (∀ other, other ≠ event.topicPartition → after.queued other = batcher.queued other) ∧
      (after.queued event.topicPartition).length < batcher.batchSize ∧
      after.batchSize = batcher.batchSize := by
  have put : ∀ key, ({ batcher with pending := batcher.pending.put partition } :
      PartitionBatcher).queued key = batcher.queued key ++ arrival event key := by
    intro key
    simp only [queued, arrival, Table.get_put, home]
    split
    · rename_i same
      rw [same]
      simp [holds, queued]
    · simp
  have placed : Cuts batcher { batcher with pending := batcher.pending.put partition }
      (arrival event) [] :=
    ⟨by simp, by simp, fun key => by simp [put key]⟩
  have identified' := placed.identified identified (arrival_identified known)
  obtain ⟨batches, after, cut, cuts, others, bounded, size⟩ :=
    cutFull_cuts sha partition.key observedAt partition.events.length
      { batcher with pending := batcher.pending.put partition } identified'
  refine ⟨batches, after, cut, ?_, ?_, ?_, size⟩
  · have both := placed.trans cuts
    simpa [nothing] using both
  · intro other different
    rw [others other (by rw [home]; exact different), put other]
    simp [arrival, different]
  · rw [← home]
    refine bounded ?_
    rw [put, home, holds]
    simp [arrival]

/-- `add` queues the event and does not raise. -/
theorem add_cuts (sha : Sha256) (batcher : PartitionBatcher) (identified : batcher.Identified)
    (event : BronzeEvent) (known : event.Identified) (observedAt : Instant) :
    ∃ batches after, batcher.add sha event observedAt = (.ok batches, after) ∧
      Cuts batcher after (arrival event) batches ∧
      (∀ other, other ≠ event.topicPartition → after.queued other = batcher.queued other) ∧
      (after.queued event.topicPartition).length < batcher.batchSize ∧
      after.batchSize = batcher.batchSize := by
  cases found : batcher.pending.get event.topicPartition with
  | none =>
    rw [add_of_none sha found]
    refine enqueue_cuts sha batcher identified _ event known observedAt rfl ?_
    simp [PendingPartition.start, queued, found]
  | some partition =>
    by_cases follows : Follows partition.last event
    · have home : partition.key = event.topicPartition := Table.key_of_get found
      rw [add_of_follows sha found follows]
      refine enqueue_cuts sha batcher identified _ event known observedAt home ?_
      simp [PendingPartition.extend, queued, found]
    · obtain ⟨flushed, middle, first, cuts, emptied, size⟩ :=
        flushPartition_cuts sha batcher identified event.topicPartition observedAt
      have identified' := cuts.identified identified (by simp [nothing])
      obtain ⟨rest, after, later, cuts', others, bounded, size'⟩ := enqueue_cuts sha middle
        identified' (.start event observedAt) event known observedAt rfl
        (by simp [PendingPartition.start, emptied])
      refine ⟨flushed ++ rest, after, ?_, ?_, ?_, size ▸ bounded, size'.trans size⟩
      · rw [add_of_boundary sha found follows, first]
        simp only [later]
        rfl
      · have both := cuts.trans cuts'
        simpa [nothing] using both
      · intro other different
        rw [others other different, emptied other, if_neg different]

/-! ## Sequences of calls -/

/-- A batcher without queues. -/
def new (batchSize : Nat) (flushInterval : Int) (positive : 0 < batchSize) : PartitionBatcher where
  batchSize
  flushInterval
  pending := Table.empty
  batchSize_pos := positive

/-- One call of the batcher, with the clock reading it uses. -/
inductive Call
  | add (event : BronzeEvent) (now : Instant)
  | flushDue (now : Instant)
  | flushPartition (key : TopicPartitionKey) (now : Instant)
  | flushPartitions (keys : List TopicPartitionKey) (now : Instant)
  | flushAll (now : Instant)

/-- What a call returns or raises, and the batcher it leaves. -/
def call (sha : Sha256) (batcher : PartitionBatcher) :
    Call → Except PyError (List CdcBatch) × PartitionBatcher
  | .add event now => batcher.add sha event now
  | .flushDue now => batcher.flushDue sha now
  | .flushPartition key now => batcher.flushPartition sha key now
  | .flushPartitions keys now => batcher.flushPartitions sha now keys
  | .flushAll now => batcher.flushAll sha now

/-- The events a call adds to a partition. -/
def Call.added : Call → TopicPartitionKey → List BronzeEvent
  | .add event _ => arrival event
  | _ => nothing

/-- The outcomes of calls made one after another, and the batcher they leave. -/
def calls (sha : Sha256) :
    PartitionBatcher → List Call → List (Except PyError (List CdcBatch)) × PartitionBatcher
  | batcher, [] => ([], batcher)
  | batcher, first :: rest =>
    let (outcome, batcher) := batcher.call sha first
    let (outcomes, batcher) := calls sha batcher rest
    (outcome :: outcomes, batcher)

/-- The batches of calls that returned. -/
def returned (outcomes : List (Except PyError (List CdcBatch))) : List CdcBatch :=
  outcomes.flatMap fun outcome => outcome.toOption.getD []

/-- Less than a full batch is pending for every partition. -/
def Bounded (batcher : PartitionBatcher) : Prop :=
  ∀ key, (batcher.queued key).length < batcher.batchSize

/-- Calls that lost, doubled and reordered nothing. -/
structure Faithful (sha : Sha256) (batcher : PartitionBatcher) (sequence : List Call) : Prop where
  /-- No call raised. -/
  returns : ∀ outcome ∈ (batcher.calls sha sequence).1, ∃ batches, outcome = .ok batches
  /-- What was returned, followed by what is pending, is what was added. -/
  conserved : ∀ key, batcher.queued key ++ sequence.flatMap (·.added key) =
    ((returned (batcher.calls sha sequence).1).filter fun batch =>
      batch.topicPartition = key).flatMap CdcBatch.events ++
        (batcher.calls sha sequence).2.queued key
  /-- Every batch is one contiguous range of one partition. -/
  contiguous : ∀ batch ∈ returned (batcher.calls sha sequence).1, batch.Contiguous
  /-- Every batch has one entity, date and schema version. -/
  uniform : ∀ batch ∈ returned (batcher.calls sha sequence).1, batch.Uniform
  /-- No batch is larger than the batch size. -/
  sized : ∀ batch ∈ returned (batcher.calls sha sequence).1,
    batch.recordCount ≤ batcher.batchSize
  /-- Less than a full batch is pending. -/
  bounded : (batcher.calls sha sequence).2.Bounded

/-- A batch has no more events than waited for its partition. -/
theorem Cuts.recordCount_le {before after : PartitionBatcher}
    {added : TopicPartitionKey → List BronzeEvent} {batches : List CdcBatch}
    (cuts : Cuts before after added batches) {batch : CdcBatch} (member : batch ∈ batches) :
    batch.recordCount ≤
      (before.queued batch.topicPartition ++ added batch.topicPartition).length := by
  rw [cuts.conserved, List.length_append]
  have inside : batch ∈ batches.filter fun other =>
      other.topicPartition = batch.topicPartition := by simp [member]
  have part : batch.events.Sublist ((batches.filter fun other =>
      other.topicPartition = batch.topicPartition).flatMap CdcBatch.events) :=
    List.sublist_flatten_of_mem (List.mem_map_of_mem inside)
  have := part.length_le
  unfold CdcBatch.recordCount
  omega

/-- A call adds at most one event. -/
theorem added_length (one : Call) (key : TopicPartitionKey) : (one.added key).length ≤ 1 := by
  cases one with
  | add event now =>
    simp only [Call.added, arrival]
    split <;> simp
  | flushDue now => simp [Call.added, nothing]
  | flushPartition other now => simp [Call.added, nothing]
  | flushPartitions keys now => simp [Call.added, nothing]
  | flushAll now => simp [Call.added, nothing]

/-- Queues that were emptied or left alone stay bounded. -/
theorem Bounded.emptied {before after : PartitionBatcher} (bounded : before.Bounded)
    (size : after.batchSize = before.batchSize)
    (emptied : ∀ key, after.queued key = [] ∨ after.queued key = before.queued key) :
    after.Bounded := by
  intro key
  rw [size]
  rcases emptied key with none | same
  · rw [none]
    exact before.batchSize_pos
  · rw [same]
    exact bounded key

/-- Every call cuts batches off the queues and leaves less than a full batch in each. -/
theorem call_cuts (sha : Sha256) (batcher : PartitionBatcher) (identified : batcher.Identified)
    (bounded : batcher.Bounded) (one : Call)
    (known : ∀ key, ∀ event ∈ one.added key, event.Identified) :
    ∃ batches after, batcher.call sha one = (.ok batches, after) ∧
      Cuts batcher after one.added batches ∧ after.Bounded ∧
      after.batchSize = batcher.batchSize := by
  cases one with
  | add event now =>
    have arrives : event.Identified :=
      known event.topicPartition event (by simp [Call.added, arrival])
    obtain ⟨batches, after, outcome, cuts, others, short, size⟩ :=
      add_cuts sha batcher identified event arrives now
    refine ⟨batches, after, outcome, cuts, ?_, size⟩
    intro key
    rw [size]
    by_cases same : key = event.topicPartition
    · rw [same]
      exact short
    · rw [others key same]
      exact bounded key
  | flushDue now =>
    obtain ⟨batches, after, outcome, cuts, emptied, size⟩ :=
      flushDue_cuts sha batcher identified now
    exact ⟨batches, after, outcome, cuts, bounded.emptied size emptied, size⟩
  | flushPartition key now =>
    obtain ⟨batches, after, outcome, cuts, emptied, size⟩ :=
      flushPartition_cuts sha batcher identified key now
    refine ⟨batches, after, outcome, cuts, bounded.emptied size ?_, size⟩
    intro other
    rw [emptied]
    exact ite_eq_or_eq ..
  | flushPartitions keys now =>
    obtain ⟨batches, after, outcome, cuts, emptied, size⟩ :=
      flushPartitions_cuts sha now keys batcher identified
    refine ⟨batches, after, outcome, cuts, bounded.emptied size ?_, size⟩
    intro other
    rw [emptied]
    exact ite_eq_or_eq ..
  | flushAll now =>
    obtain ⟨batches, after, outcome, cuts, emptied, size⟩ :=
      flushAll_cuts sha batcher identified now
    exact ⟨batches, after, outcome, cuts, bounded.emptied size fun key => Or.inl (emptied key),
      size⟩

/-- A batch of one call fits the batch size. -/
theorem Cuts.sized {before after : PartitionBatcher} {one : Call} {batches : List CdcBatch}
    (cuts : Cuts before after one.added batches) (bounded : before.Bounded) :
    ∀ batch ∈ batches, batch.recordCount ≤ before.batchSize := by
  intro batch member
  have count := cuts.recordCount_le member
  have short := bounded batch.topicPartition
  have few := added_length one batch.topicPartition
  rw [List.length_append] at count
  omega

/-- Calls on events that can be identified are faithful, from any bounded batcher. -/
theorem faithful_from (sha : Sha256) (sequence : List Call) (batcher : PartitionBatcher)
    (identified : batcher.Identified) (bounded : batcher.Bounded)
    (known : ∀ one ∈ sequence, ∀ key, ∀ event ∈ one.added key, event.Identified) :
    Faithful sha batcher sequence := by
  induction sequence generalizing batcher with
  | nil =>
    exact {
      returns := by simp [calls]
      conserved := by simp [calls, returned]
      contiguous := by simp [calls, returned]
      uniform := by simp [calls, returned]
      sized := by simp [calls, returned]
      bounded := bounded }
  | cons one rest ih =>
    have known' := known one (List.mem_cons_self ..)
    obtain ⟨batches, after, outcome, cuts, bounded', size⟩ :=
      call_cuts sha batcher identified bounded one known'
    have later := ih after (cuts.identified identified known') bounded'
      fun other member => known other (List.mem_cons_of_mem _ member)
    have unrolled : batcher.calls sha (one :: rest) =
        (.ok batches :: (after.calls sha rest).1, (after.calls sha rest).2) := by
      simp only [calls, outcome]
    have gathered : returned (.ok batches :: (after.calls sha rest).1) =
        batches ++ returned (after.calls sha rest).1 := rfl
    refine ⟨?_, ?_, ?_, ?_, ?_, ?_⟩
    · rw [unrolled]
      intro result member
      rcases List.mem_cons.mp member with rfl | inside
      · exact ⟨batches, rfl⟩
      · exact later.returns result inside
    · intro key
      rw [unrolled, gathered, List.filter_append, List.flatMap_append, List.flatMap_cons,
        List.append_assoc, ← later.conserved key, ← List.append_assoc, ← List.append_assoc,
        cuts.conserved key]
    · rw [unrolled, gathered]
      exact List.forall_mem_append.mpr ⟨cuts.contiguous, later.contiguous⟩
    · rw [unrolled, gathered]
      exact List.forall_mem_append.mpr ⟨cuts.uniform, later.uniform⟩
    · rw [unrolled, gathered, ← size]
      exact List.forall_mem_append.mpr ⟨size ▸ cuts.sized bounded, later.sized⟩
    · rw [unrolled]
      exact later.bounded

/-- The micro-batcher neither loses, duplicates nor reorders events: any calls on events whose
identity can be written out are faithful. -/
theorem batcher_is_faithful (sha : Sha256) (batchSize : Nat) (flushInterval : Int)
    (positive : 0 < batchSize) (sequence : List Call)
    (known : ∀ one ∈ sequence, ∀ key, ∀ event ∈ one.added key, event.Identified) :
    Faithful sha (new batchSize flushInterval positive) sequence := by
  refine faithful_from sha sequence _ ?_ ?_ known
  · intro key event member
    cases member
  · intro key
    exact positive

/-- A deletion without data at an offset of a topic. -/
def deletion (topic : PyStr) (offset : Int) : BronzeEvent where
  eventId := []
  entityName := "customers"
  operation := "t"
  isSnapshot := false
  isDeleted := true
  isTombstone := true
  eventKeyJson := none
  beforeJson := none
  afterJson := none
  sourceMetadataJson := none
  sourceLsn := none
  sourceTxId := none
  sourceTsMs := none
  connectorTsMs := none
  kafkaTopic := topic
  kafkaPartition := 0
  kafkaOffset := offset
  kafkaMessageTsMs := none
  ingestedAt := Instant.epoch
  eventDate := "1970-01-01"
  schemaVersion := "cdc-bronze-v1"
  rawEventJson := none

/-- Two events with a gap between their offsets and a flush of everything. -/
theorem gap_is_faithful : Faithful sha256 (new 2 5000000 (by decide))
    [.add (deletion (py "t") 3) Instant.epoch, .add (deletion (py "t") 7) Instant.epoch,
      .flushAll Instant.epoch] := by
  refine batcher_is_faithful sha256 2 5000000 (by decide) _ ?_
  intro one member key event inside
  have all : ∀ event ∈ [deletion (py "t") 3, deletion (py "t") 7], event.Identified := by
    decide +kernel
  refine all event ?_
  simp only [List.mem_cons, List.not_mem_nil, or_false] at member ⊢
  rcases member with rfl | rfl | rfl
  · simp only [Call.added, arrival] at inside
    split at inside
    · exact Or.inl (List.mem_singleton.mp inside)
    · cases inside
  · simp only [Call.added, arrival] at inside
    split at inside
    · exact Or.inr (List.mem_singleton.mp inside)
    · cases inside
  · cases inside

/-- A topic with a lone surrogate cannot be encoded: the batch of its event is not built, and
the event has left the queue. -/
theorem surrogate_topic_raises : ¬ Faithful sha256 (new 1 5000000 (by decide))
    [.add (deletion [0xD800] 3) Instant.epoch] := by
  intro faithful
  obtain ⟨batches, returns⟩ := faithful.returns
    (.error ⟨.unicodeEncodeError, py "surrogates not allowed"⟩) (by decide +kernel)
  cases returns

end PartitionBatcher

end Cdc
