import PaymentsPlatform.Cdc.Consumer

/-!
# Durable records

When a delivered record is safe (`Stored`), what every moment of a run keeps (`Kept`), and what
one effect of the consumer may do (`Step`). The argument is about `counted` records. When
`guarded` holds, a commit never passes a counted record that is not stored; in any case none does
after a fatal error. `Lined` relates the records of a run to the events that are still waiting,
in the batches at hand or in the queues: every record in `scope` is stored or waits.
-/

namespace Cdc

open Python Effects

section

variable (deployment : Deployment)

/-- The record is read as this event, at some time. -/
def Parses (message : RawKafkaMessage) (event : BronzeEvent) : Prop :=
  ∃ observedAt today,
    parseDebeziumMessage deployment.parser observedAt today message = .ok (.event event)

/-- The record is classified as a heartbeat. -/
def IsHeartbeat (message : RawKafkaMessage) : Prop :=
  ∃ observedAt today,
    parseDebeziumMessage deployment.parser observedAt today message = .ok .heartbeat

/-- A batch of the consumer: a contiguous range of events read from the log. -/
structure FromLog (batch : CdcBatch) : Prop where
  /-- One contiguous range. -/
  contiguous : batch.Contiguous
  /-- Its events were read from the log. -/
  parsed : ∀ event ∈ batch.events, ∃ message ∈ deployment.log.records batch.topicPartition,
    Parses deployment message event

/-- The record is in a verified Bronze object: a durable row describes a batch with its event,
and the store holds the object of that batch under the checksum and address of the row. -/
def InBronze (world : World) (message : RawKafkaMessage) : Prop :=
  ∃ record batch event checksum uri, world.manifest.get batch.batchId = some record ∧
    record.Durable ∧ record.coordinates = batch.coordinates record.consumerGroup ∧
    batch.Contiguous ∧ record.checksumSha256 = some checksum ∧ record.objectUri = some uri ∧
    ObjectEvidence deployment world batch checksum uri ∧ event ∈ batch.events ∧
    Parses deployment message event

/-- The record is in the quarantine: the store holds its evidence under its key. -/
def Quarantined (world : World) (message : RawKafkaMessage) : Prop :=
  ∃ observedAt today poison place,
    parseDebeziumMessage deployment.parser observedAt today message = .ok (.poison poison) ∧
    poisonPlace deployment poison = .ok place ∧
    Holds deployment world place.1 (deployment.sha.hexdigest (poisonData deployment poison))

/-- The record is durable. -/
def Stored (world : World) (message : RawKafkaMessage) : Prop :=
  InBronze deployment world message ∨ Quarantined deployment world message

/-- Every counted record of the partition that was delivered below the offset is stored. -/
def Covered (counted : RawKafkaMessage → Prop) (key : TopicPartitionKey) (next : Int)
    (world : World) : Prop :=
  ∀ message ∈ world.delivered, message.topicPartition = key → counted message →
    message.offset < next → Stored deployment world message

/-- What holds at every moment. -/
structure Kept (guarded : Prop) (counted : RawKafkaMessage → Prop) (world : World) : Prop where
  /-- Manifest, store and broker agree. -/
  sound : Sound deployment (FromLog deployment) world
  /-- Delivered records are records of the log. -/
  delivered : ∀ message ∈ world.delivered,
    message ∈ deployment.log.records message.topicPartition
  /-- The committed offset covers what was delivered and is not ahead of the client. -/
  acked : guarded → ∀ key next, world.committed key = some next →
    Covered deployment counted key next world ∧
      ∀ position, world.positions key = some position → next ≤ position

/-- One effect of the consumer. -/
structure Step (guarded : Prop) (counted : RawKafkaMessage → Prop) (before after : World) :
    Prop where
  /-- What holds is kept. -/
  kept : Kept deployment guarded counted before → Kept deployment guarded counted after
  /-- A commit after a fatal error is covered. -/
  fatal : before.memory.fatal = true → ∀ key next,
    after.commits = (key, next) :: before.commits → Covered deployment counted key next after

/-- What a commit of the processor must satisfy. -/
def Acks (guarded : Prop) (counted : RawKafkaMessage → Prop) (key : TopicPartitionKey)
    (next : Int) (world : World) : Prop :=
  (guarded → Covered deployment counted key next world ∧
      ∀ position, world.positions key = some position → next ≤ position) ∧
    (world.memory.fatal = true → Covered deployment counted key next world)

/-- The events that wait: those of the batches at hand, and those still queued. -/
def line (batches : List CdcBatch) (world : World) (key : TopicPartitionKey) :
    List BronzeEvent :=
  (batches.filter fun batch => batch.topicPartition = key).flatMap CdcBatch.events ++
    world.memory.batcher.queued key

/-- The records of a run and the events that wait, partition by partition. -/
structure Lined (guarded strict : Prop) (scope : RawKafkaMessage → Prop)
    (waiting : TopicPartitionKey → List BronzeEvent) (world : World) : Prop where
  /-- The events were read from the log. -/
  parsed : ∀ key, ∀ event ∈ waiting key, ∃ message ∈ deployment.log.records key,
    Parses deployment message event
  /-- They wait in offset order. -/
  sorted : strict → ∀ key, (waiting key).Pairwise fun earlier later =>
    earlier.kafkaOffset < later.kafkaOffset
  /-- A record in scope is stored or waits. -/
  covered : strict → ∀ message ∈ world.delivered, scope message →
    Stored deployment world message ∨
      ∃ event ∈ waiting message.topicPartition, event.kafkaOffset = message.offset
  /-- Events wait only for partitions the client has, behind its position. -/
  ahead : guarded → ∀ key, ∀ event ∈ waiting key, ∃ position,
    world.positions key = some position ∧ event.kafkaOffset < position

end

section

variable {deployment : Deployment} {guarded strict : Prop} {counted scope : RawKafkaMessage → Prop}
  {waiting : TopicPartitionKey → List BronzeEvent}

/-! ## Stored records stay -/

/-- A record in Bronze stays there. -/
theorem InBronze.later {before after : World} {message : RawKafkaMessage}
    (stored : InBronze deployment before message) (advances : Advances before after) :
    InBronze deployment after message := by
  obtain ⟨record, batch, event, checksum, uri, found, durable, place, contiguous, known, known',
    evidence, member, parsed⟩ := stored
  obtain ⟨row, found', kept⟩ := advances.rows batch.batchId record found
  obtain ⟨same, same'⟩ := kept.evidence durable
  have group : row.consumerGroup = record.consumerGroup := congrArg Prod.fst kept.coordinates
  exact ⟨row, batch, event, checksum, uri, found', kept.durable durable,
    by rw [kept.coordinates, place, group], contiguous, same.trans known, same'.trans known',
    evidence.later advances, member, parsed⟩

/-- A record in quarantine stays there. -/
theorem Quarantined.later {before after : World} {message : RawKafkaMessage}
    (stored : Quarantined deployment before message) (advances : Advances before after) :
    Quarantined deployment after message := by
  obtain ⟨observedAt, today, poison, place, parsed, placed, holds⟩ := stored
  exact ⟨observedAt, today, poison, place, parsed, placed, holds.later advances⟩

/-- A stored record stays stored. -/
theorem Stored.later {before after : World} {message : RawKafkaMessage}
    (stored : Stored deployment before message) (advances : Advances before after) :
    Stored deployment after message :=
  stored.imp (fun bronze => bronze.later advances) fun quarantined => quarantined.later advances

/-- Coverage stays while nothing is delivered. -/
theorem Covered.later {before after : World} {key : TopicPartitionKey} {next : Int}
    (covered : Covered deployment counted key next before) (advances : Advances before after)
    (same : after.delivered = before.delivered) : Covered deployment counted key next after := by
  intro message member home counts below
  rw [same] at member
  exact (covered message member home counts below).later advances

/-- A record of the log is the only one with its offset. -/
theorem record_unique {key : TopicPartitionKey} {one two : RawKafkaMessage}
    (first : one ∈ deployment.log.records key) (second : two ∈ deployment.log.records key)
    (same : one.offset = two.offset) : one = two := by
  by_contra different
  have : Std.Symm fun left right : RawKafkaMessage => left.offset ≠ right.offset :=
    ⟨fun _ _ apart => apart.symm⟩
  have apart : (deployment.log.records key).Pairwise fun left right =>
      left.offset ≠ right.offset :=
    (deployment.log.ordered key).imp fun below => Int.ne_of_lt below
  exact apart.forall first second different same

/-- A durable row of a batch stores every record of its range. -/
theorem DurableRow.stores {world : World} {batch : CdcBatch} {event : BronzeEvent}
    {message : RawKafkaMessage} (durable : DurableRow deployment world batch)
    (sound : Sound deployment (FromLog deployment) world) (contiguous : batch.Contiguous)
    (member : event ∈ batch.events)
    (logged : message ∈ deployment.log.records batch.topicPartition)
    (same : event.kafkaOffset = message.offset) : Stored deployment world message := by
  obtain ⟨record, found, place, status⟩ := durable
  -- The row may describe an earlier batch of the same range; its events are those records too.
  obtain ⟨stored, checksum, uri, fit, identity, place', known, known', evidence⟩ :=
    sound.durable batch.batchId record found status
  have coordinates := place'.symm.trans place
  simp only [CdcBatch.coordinates, Prod.mk.injEq] at coordinates
  obtain ⟨-, topic, partition, first, last, count, -⟩ := coordinates
  have home : stored.topicPartition = batch.topicPartition := by
    simp only [CdcBatch.topicPartition, topic, partition]
  have inside : event.kafkaOffset ∈ stored.events.map (·.kafkaOffset) := by
    rw [fit.contiguous.offsets, first, count, ← contiguous.offsets]
    exact List.mem_map_of_mem member
  obtain ⟨twin, member', offset⟩ := List.mem_map.mp inside
  obtain ⟨origin, logged', parsed⟩ := fit.parsed twin member'
  obtain ⟨observedAt, today, read⟩ := parsed
  have position := (parse_coordinates read).2
  rw [home] at logged'
  obtain rfl : message = origin := record_unique logged logged'
    (by rw [← same, ← offset, position])
  have key : record.batchId = stored.batchId := identity
  have found' : world.manifest.get stored.batchId = some record := by
    rw [← key, Relational.Table.key_of_get found]
    exact found
  exact Or.inl ⟨record, stored, twin, checksum, uri, found', status, place', fit.contiguous, known,
    known', evidence, member', observedAt, today, read⟩

/-! ## Steps -/

/-- An effect of the processor, whose commits are allowed, is a step of the consumer. -/
theorem Processes.step {before after : World}
    (processes : Processes deployment (FromLog deployment) (Acks deployment guarded counted)
      before after) : Step deployment guarded counted before after := by
  obtain ⟨later, commits⟩ := processes
  have framed := later.framed
  refine ⟨?_, ?_⟩
  · intro kept
    refine ⟨later.sound kept.sound, ?_, ?_⟩
    · rw [framed.delivered]
      exact kept.delivered
    · intro isGuarded key next committed
      have old : before.committed key = some next → Covered deployment counted key next after ∧
          ∀ position, after.positions key = some position → next ≤ position := by
        intro committed
        obtain ⟨covered, bound⟩ := kept.acked isGuarded key next committed
        refine ⟨covered.later later.advances framed.delivered, ?_⟩
        rw [framed.positions]
        exact bound
      rcases commits with same | ⟨key', next', added, acks⟩
      · refine old ?_
        unfold World.committed at committed ⊢
        rw [← same]
        exact committed
      · unfold World.committed at committed
        rw [added] at committed
        by_cases here : key' = key
        · subst here
          simp only [List.find?_cons_of_pos, decide_true, Option.map_some,
            Option.some.injEq] at committed
          subst committed
          exact acks.1 isGuarded
        · rw [List.find?_cons_of_neg (by simpa using here)] at committed
          exact old committed
  · intro fatal key next added
    rcases commits with same | ⟨key', next', added', acks⟩
    · rw [same] at added
      exact absurd added (List.ne_cons_self)
    · rw [added'] at added
      obtain ⟨rfl, rfl⟩ := Prod.mk.inj (List.cons.inj added).1
      refine acks.2 ?_
      rw [framed.memory]
      exact fatal

/-- Publications of other writers are a step. -/
theorem Published.step {before after : World}
    (published : Published deployment.sha before after) :
    Step deployment guarded counted before after :=
  Processes.step published.processes

/-- A step after publications. -/
theorem Step.after_published {before start after : World}
    (published : Published deployment.sha before start)
    (step : Step deployment guarded counted start after) :
    Step deployment guarded counted before after := by
  have first : Step deployment guarded counted before start := published.step
  obtain ⟨objects, rfl⟩ := published.same
  exact ⟨fun kept => step.kept (first.kept kept), step.fatal⟩

/-- What the processor leaves of the consumer: queues, flag, positions and records. -/
structure Frame (before after : World) : Prop where
  /-- The queues. -/
  batcher : after.memory.batcher = before.memory.batcher
  /-- The fatal flag. -/
  fatal : after.memory.fatal = before.memory.fatal
  /-- The positions. -/
  positions : after.positions = before.positions
  /-- The records. -/
  delivered : after.delivered = before.delivered
  /-- Nothing durable is lost. -/
  advances : Advances before after

/-- Nothing happened. -/
theorem Frame.refl (world : World) : Frame world world :=
  ⟨rfl, rfl, rfl, rfl, Advances.refl world⟩

/-- What happened adds up. -/
theorem Frame.trans {first second third : World} (one : Frame first second)
    (two : Frame second third) : Frame first third :=
  ⟨two.batcher.trans one.batcher, two.fatal.trans one.fatal, two.positions.trans one.positions,
    two.delivered.trans one.delivered, one.advances.trans two.advances⟩

/-- The processor does not touch the consumer. -/
theorem Later.frame {fits : CdcBatch → Prop} {before after : World}
    (later : Later deployment fits before after) : Frame before after :=
  ⟨by rw [later.framed.memory], by rw [later.framed.memory], later.framed.positions,
    later.framed.delivered, later.advances⟩

/-- Waiting events stay in order while nothing is delivered. -/
theorem Lined.frame {before after : World}
    (lined : Lined deployment guarded strict scope waiting before)
    (positions : after.positions = before.positions)
    (delivered : after.delivered = before.delivered)
    (advances : Advances before after) :
    Lined deployment guarded strict scope waiting after where
  parsed := lined.parsed
  sorted := lined.sorted
  covered := by
    intro isStrict message member inScope
    rw [delivered] at member
    exact (lined.covered isStrict message member inScope).imp_left
      fun stored => stored.later advances
  ahead := by
    rw [positions]
    exact lined.ahead

/-- Less is known about fewer records. -/
theorem Lined.relax {world : World} {loose : Prop} {narrow : RawKafkaMessage → Prop}
    (lined : Lined deployment guarded strict scope waiting world)
    (looser : loose → strict) (narrower : loose → ∀ message, narrow message → scope message) :
    Lined deployment guarded loose narrow waiting world where
  parsed := lined.parsed
  sorted := fun isLoose => lined.sorted (looser isLoose)
  covered := fun isLoose message member inNarrow =>
    lined.covered (looser isLoose) message member (narrower isLoose message inNarrow)
  ahead := lined.ahead

/-- Queues are in offset order. -/
theorem queued_sorted (batcher : PartitionBatcher) (key : TopicPartitionKey) :
    (batcher.queued key).Pairwise fun earlier later =>
      earlier.kafkaOffset < later.kafkaOffset := by
  unfold PartitionBatcher.queued
  cases batcher.pending.get key with
  | none => exact List.Pairwise.nil
  | some partition => exact sorted_of_chain partition.chained

/-- The waiting events of a partition with one batch more at hand. -/
theorem line_cons (batch : CdcBatch) (batches : List CdcBatch) (world : World)
    (key : TopicPartitionKey) :
    line (batch :: batches) world key =
      (if batch.topicPartition = key then batch.events else []) ++ line batches world key := by
  unfold line
  by_cases here : batch.topicPartition = key
  · simp [here]
  · simp [here]

/-- Batches at hand, to be processed in this order. -/
structure Pending (deployment : Deployment) (guarded strict : Prop)
    (counted scope : RawKafkaMessage → Prop) (batches : List CdcBatch) (world : World) :
    Prop where
  /-- What holds at every moment. -/
  kept : Kept deployment guarded counted world
  /-- Each batch is one contiguous range. -/
  contiguous : ∀ batch ∈ batches, batch.Contiguous
  /-- The events of the batches come before the queues. -/
  lined : Lined deployment guarded strict scope (line batches world) world
  /-- The counted records up to the end of a batch are in scope. -/
  reach : strict → ∀ batch ∈ batches, ∀ message ∈ world.delivered,
    message.topicPartition = batch.topicPartition → counted message →
    message.offset ≤ batch.offsetEnd → scope message

/-- The last event of a batch. -/
theorem CdcBatch.Contiguous.last {batch : CdcBatch} (contiguous : batch.Contiguous) :
    ∃ event ∈ batch.events, event.kafkaOffset = batch.offsetEnd := by
  have positive : 0 < batch.recordCount := List.length_pos_of_ne_nil contiguous.nonempty
  have inside : batch.offsetEnd ∈ offsetRange batch.offsetStart batch.recordCount := by
    rw [mem_offsetRange]
    have ends := contiguous.ends
    omega
  rw [← contiguous.offsets] at inside
  obtain ⟨event, member, same⟩ := List.mem_map.mp inside
  exact ⟨event, member, same⟩

namespace Pending

variable {batch : CdcBatch} {batches : List CdcBatch} {world : World}

/-- The first batch is a batch of the consumer. -/
theorem fromLog
    (pending : Pending deployment guarded strict counted scope (batch :: batches) world) :
    FromLog deployment batch := by
  refine ⟨pending.contiguous batch (List.mem_cons_self ..), ?_⟩
  intro event member
  refine pending.lined.parsed batch.topicPartition event ?_
  rw [line_cons, if_pos rfl]
  exact List.mem_append_left _ member

/-- Once the first batch is durable, its offset may be committed. -/
theorem acks {after : World}
    (pending : Pending deployment guarded strict counted scope (batch :: batches) world)
    (isGuarded : guarded → strict) (isFatal : world.memory.fatal = true → strict)
    (frame : Frame world after) (sound : Sound deployment (FromLog deployment) after)
    (durable : DurableRow deployment after batch) :
    Acks deployment guarded counted batch.topicPartition batch.nextOffset after := by
  have contiguous := pending.contiguous batch (List.mem_cons_self ..)
  obtain ⟨last, member, ends⟩ := contiguous.last
  have whole := line_cons batch batches world batch.topicPartition
  rw [if_pos rfl] at whole
  have covered : strict →
      Covered deployment counted batch.topicPartition batch.nextOffset after := by
    intro isStrict message member' home counts below
    rw [frame.delivered] at member'
    have upTo : message.offset ≤ batch.offsetEnd := by
      unfold CdcBatch.nextOffset at below
      omega
    have inScope := pending.reach isStrict batch (List.mem_cons_self ..) message member' home
      counts upTo
    rcases pending.lined.covered isStrict message member' inScope with stored | ⟨event, waits, same⟩
    · exact stored.later frame.advances
    · rw [home, whole] at waits
      have sorted := pending.lined.sorted isStrict batch.topicPartition
      rw [whole, List.pairwise_append] at sorted
      rcases List.mem_append.mp waits with inside | behind
      · have logged := pending.kept.delivered message member'
        rw [home] at logged
        exact durable.stores sound contiguous inside logged same
      · have order := sorted.2.2 last member event behind
        omega
  refine ⟨fun guard => ⟨covered (isGuarded guard), ?_⟩, ?_⟩
  · intro position known
    have waits : last ∈ line (batch :: batches) world batch.topicPartition := by
      rw [whole]
      exact List.mem_append_left _ member
    obtain ⟨position', known', bound⟩ := pending.lined.ahead guard _ last waits
    rw [frame.positions, known', Option.some.injEq] at known
    unfold CdcBatch.nextOffset
    omega
  · intro fatal
    rw [frame.fatal] at fatal
    exact covered (isFatal fatal)

/-- Once the first batch is durable, the others are left. -/
theorem next {after : World}
    (pending : Pending deployment guarded strict counted scope (batch :: batches) world)
    (frame : Frame world after) (kept : Kept deployment guarded counted after)
    (durable : DurableRow deployment after batch) :
    Pending deployment guarded strict counted scope batches after := by
  have queues : ∀ key, line batches after key = line batches world key := by
    intro key
    unfold line
    rw [frame.batcher]
  have inside : ∀ key, ∀ event ∈ line batches world key,
      event ∈ line (batch :: batches) world key := by
    intro key event member
    rw [line_cons]
    exact List.mem_append_right _ member
  refine ⟨kept, fun other member => pending.contiguous other (List.mem_cons_of_mem _ member),
    ⟨?_, ?_, ?_, ?_⟩, ?_⟩
  · intro key event member
    rw [queues] at member
    exact pending.lined.parsed key event (inside key event member)
  · intro isStrict key
    have sorted := pending.lined.sorted isStrict key
    rw [line_cons, List.pairwise_append] at sorted
    rw [queues]
    exact sorted.2.1
  · intro isStrict message member inScope
    rw [frame.delivered] at member
    rcases pending.lined.covered isStrict message member inScope with stored | ⟨event, waits, same⟩
    · exact Or.inl (stored.later frame.advances)
    · rw [line_cons] at waits
      rcases List.mem_append.mp waits with first | later
      · split at first
        · rename_i home
          have logged := pending.kept.delivered message member
          rw [← home] at logged
          exact Or.inl (durable.stores kept.sound
            (pending.contiguous batch (List.mem_cons_self ..)) first logged same)
        · cases first
      · exact Or.inr ⟨event, by rw [queues]; exact later, same⟩
  · intro guard key event member
    rw [queues] at member
    rw [frame.positions]
    exact pending.lined.ahead guard key event (inside key event member)
  · intro isStrict other member message member'
    rw [frame.delivered] at member'
    exact pending.reach isStrict other (List.mem_cons_of_mem _ member) message member'

/-- The consumer was not touched. -/
theorem frame {after : World}
    (pending : Pending deployment guarded strict counted scope batches world)
    (frame : Frame world after) (kept : Kept deployment guarded counted after) :
    Pending deployment guarded strict counted scope batches after := by
  have queues : line batches after = line batches world := by
    funext key
    unfold line
    rw [frame.batcher]
  refine ⟨kept, pending.contiguous, ?_, ?_⟩
  · rw [queues]
    exact pending.lined.frame frame.positions frame.delivered frame.advances
  · rw [frame.delivered]
    exact pending.reach

end Pending

end

end Cdc
