import PaymentsPlatform.Cdc.Classification
import PaymentsPlatform.Cdc.Storage

/-!
# Reading the same records again

Two readings of one record differ in the ingestion time, and the second reading of a day later
must not differ in anything else: the date of an event is part of its object key. The first half
compares two readings of one record. The second half runs the batcher on two readings of the
same records and compares the batches it cuts.
-/

namespace Cdc

open Python Relational

/-- An event without its ingestion time. -/
def BronzeEvent.timeless (event : BronzeEvent) : BronzeEvent :=
  { event with ingestedAt := Instant.epoch }

/-- A reading without its ingestion time. -/
def ParsedMessage.timeless : ParsedMessage → ParsedMessage
  | .event row => .event row.timeless
  | meaning => meaning

/-- A batch without the ingestion times of its events. -/
def CdcBatch.timeless (batch : CdcBatch) : CdcBatch :=
  { batch with events := batch.events.map BronzeEvent.timeless }

/-! ## One record -/

/-- The readings of a record agree in everything but the ingestion time. -/
def ClockFree (context : ParserContext) (message : RawKafkaMessage) : Prop :=
  ∀ observedAt today observedAt' today',
    (parseDebeziumMessage context observedAt today message).map ParsedMessage.timeless =
      (parseDebeziumMessage context observedAt' today' message).map ParsedMessage.timeless

/-- An event without any timestamp, whose coordinates and key can be read. -/
structure Undated (context : ParserContext) (message : RawKafkaMessage) : Prop where
  /-- The coordinates can be written out. -/
  written : writeIdentity [message.partition, message.offset] [message.topic] = .ok ()
  /-- The key can be read. -/
  readable : ∀ bytes, message.key = some bytes → Readable context bytes
  /-- It is an event and none of its timestamps is set. -/
  unstamped : ∃ shape stamps, form context message = .ok shape ∧
    shape.timestamps message = some stamps ∧ stamps.findSome? id = none

/-- A timestamp dates an event without the clock. -/
theorem eventDate_stamped {stamps : List (Option Int)} {selected : Int}
    (first : stamps.findSome? id = some selected) (today today' : Instant) :
    eventDate today stamps = eventDate today' stamps := by
  simp only [eventDate, first]

/-- What a form with a timestamp becomes does not depend on the clock, nor does a key that cannot
be read. -/
theorem finishForm_stamped {context : ParserContext} {message : RawKafkaMessage} {shape : Form}
    (dated : (∃ text, keyJson context message.key = .ok text) → ∀ stamps,
      shape.timestamps message = some stamps → ∃ selected, stamps.findSome? id = some selected)
    (observedAt today observedAt' today' : Instant) :
    (finishForm context observedAt today message shape).map ParsedMessage.timeless =
      (finishForm context observedAt' today' message shape).map ParsedMessage.timeless := by
  cases shape with
  | heartbeat => rfl
  | malformed code text => rfl
  | tombstone =>
    simp only [finishForm, tombstoneEvent]
    cases read : keyJson context message.key with
    | error problem => rfl
    | ok text =>
      obtain ⟨selected, first⟩ := dated ⟨text, read⟩ _ rfl
      rw [eventDate_stamped first today today']
      cases eventDate today' [message.timestampMs] with
      | error problem => rfl
      | ok date => rfl
  | row rawText operation payload source numbers =>
    simp only [finishForm, rowEvent]
    cases read : keyJson context message.key with
    | error problem => rfl
    | ok text =>
      obtain ⟨selected, first⟩ := dated ⟨text, read⟩ _ rfl
      rw [eventDate_stamped first today today']
      cases eventDate today' [numbers.2.2.1, numbers.2.2.2, message.timestampMs] with
      | error problem => rfl
      | ok date => rfl

/-- The date an event without timestamp is filed under. -/
theorem finishForm_unstamped {context : ParserContext} {observedAt today : Instant}
    {message : RawKafkaMessage} {shape : Form} {stamps : List (Option Int)}
    {meaning : ParsedMessage} (event : shape.timestamps message = some stamps)
    (unstamped : stamps.findSome? id = none)
    (finished : finishForm context observedAt today message shape = .ok meaning) :
    ∃ filed, meaning = .event filed ∧ filed.eventDate = today.date.isoformat := by
  have date : eventDate today stamps = .ok today.date.isoformat := by
    simp only [eventDate, unstamped]
  cases shape with
  | heartbeat => cases event
  | malformed code text => cases event
  | tombstone =>
    obtain rfl := Option.some.inj event
    simp only [finishForm, tombstoneEvent, date] at finished
    cases read : keyJson context message.key with
    | error problem => simp [read, bind, Except.bind, Except.map] at finished
    | ok text =>
      rw [read] at finished
      exact ⟨_, (Except.ok.inj finished).symm, rfl⟩
  | row rawText operation payload source numbers =>
    obtain rfl := Option.some.inj event
    simp only [finishForm, rowEvent, date] at finished
    cases read : keyJson context message.key with
    | error problem => simp [read, bind, Except.bind, Except.map] at finished
    | ok text =>
      rw [read] at finished
      exact ⟨_, (Except.ok.inj finished).symm, rfl⟩

/-- The first instant of the calendar. -/
def firstInstant : Instant := ⟨0, calendar_nonempty⟩

/-- Readings of a record agree exactly when it is not an event without timestamp. -/
theorem clockFree_iff {context : ParserContext} {message : RawKafkaMessage} :
    ClockFree context message ↔ ¬ Undated context message := by
  constructor
  · rintro free ⟨written, readable, shape, stamps, formed, event, unstamped⟩
    -- An event without timestamp is read on two different days.
    have read : ∀ today, ∃ filed, parseDebeziumMessage context Instant.epoch today message =
        .ok (.event filed) ∧ filed.eventDate = today.date.isoformat := by
      intro today
      have dated : ∃ date, eventDate today stamps = .ok date := by
        refine eventDate_ok_iff.mpr fun selected first => ?_
        rw [unstamped] at first
        cases first
      obtain ⟨meaning, finished⟩ := (finishForm_event_iff event).mpr
        ⟨keyJson_ok_iff.mpr readable, dated⟩
      obtain ⟨filed, rfl, date⟩ := finishForm_unstamped event unstamped finished
      exact ⟨filed, parse_form.mpr ⟨written, shape, formed, finished⟩, date⟩
    obtain ⟨filed, parsed, date⟩ := read Instant.epoch
    obtain ⟨filed', parsed', date'⟩ := read firstInstant
    have same := free Instant.epoch Instant.epoch Instant.epoch firstInstant
    rw [parsed, parsed'] at same
    have dates : filed.eventDate = filed'.eventDate := by
      simp only [Except.map, ParsedMessage.timeless, Except.ok.injEq,
        ParsedMessage.event.injEq] at same
      have fields := congrArg BronzeEvent.eventDate same
      exact fields
    rw [date, date'] at dates
    exact absurd dates (by decide)
  · intro dated observedAt today observedAt' today'
    unfold parseDebeziumMessage
    cases written : writeIdentity [message.partition, message.offset] [message.topic] with
    | error problem => rfl
    | ok _ =>
      simp only [parseValue_eq, bind, Except.bind]
      cases formed : form context message with
      | error problem => rfl
      | ok shape =>
        simp only
        refine finishForm_stamped ?_ ..
        intro read stamps event
        cases first : stamps.findSome? id with
        | some selected => exact ⟨selected, rfl⟩
        | none =>
          exact absurd ⟨written, keyJson_ok_iff.mp read, shape, stamps, formed, event, first⟩ dated

/-! ## Batches of records that are read again -/

/-- Ingestion times do not matter to what follows what. -/
theorem follows_timeless {earlier later : BronzeEvent} :
    Follows earlier.timeless later.timeless ↔ Follows earlier later := Iff.rfl

/-- Ingestion times do not matter to the batch that is built. -/
theorem buildBatch_timeless (sha : Sha256) (events : List BronzeEvent) :
    buildBatch sha (events.map BronzeEvent.timeless) =
      (buildBatch sha events).map CdcBatch.timeless := by
  have sorted : (events.map BronzeEvent.timeless).insertionSort
      (fun left right => left.kafkaOffset ≤ right.kafkaOffset) =
        (events.insertionSort fun left right => left.kafkaOffset ≤ right.kafkaOffset).map
          BronzeEvent.timeless :=
    (List.map_insertionSort _ _ BronzeEvent.timeless events fun _ _ _ _ => Iff.rfl).symm
  unfold buildBatch
  rw [sorted]
  generalize events.insertionSort (fun left right => left.kafkaOffset ≤ right.kafkaOffset) = ordered
  cases ordered with
  | nil => rfl
  | cons first rest =>
    obtain ⟨last, final⟩ : ∃ last, (first :: rest).getLast? = some last :=
      ⟨_, List.getLast?_eq_some_getLast (List.cons_ne_nil _ _)⟩
    have final' : (first.timeless :: rest.map BronzeEvent.timeless).getLast? =
        some last.timeless := by
      rw [← List.map_cons, List.getLast?_map, final]
      rfl
    have offsets : (first.timeless :: rest.map BronzeEvent.timeless).map (·.kafkaOffset) =
        (first :: rest).map (·.kafkaOffset) := by
      rw [← List.map_cons, List.map_map]
      rfl
    have labels : ∀ test : BronzeEvent → Bool, (∀ event, test event.timeless = test event) →
        (first.timeless :: rest.map BronzeEvent.timeless).any test = (first :: rest).any test := by
      intro test same
      rw [← List.map_cons, List.any_map]
      exact congrArg _ (funext same)
    have marked : ∀ test : BronzeEvent → Bool, (∀ event, test event.timeless = test event) →
        ((first.timeless :: rest.map BronzeEvent.timeless).any test = true) =
          ((first :: rest).any test = true) :=
      fun test same => congrArg (· = true) (labels test same)
    simp only [List.map_cons (f := BronzeEvent.timeless), final, final', offsets,
      List.length_cons, List.length_map, apply_ite (Except.map CdcBatch.timeless)]
    refine ite_congr rfl (fun _ => rfl) fun _ => ?_
    refine ite_congr (marked _ fun _ => rfl) (fun _ => rfl) fun _ => ?_
    refine ite_congr (marked _ fun _ => rfl) (fun _ => rfl) fun _ => ?_
    refine ite_congr (marked _ fun _ => rfl) (fun _ => rfl) fun _ => ?_
    refine ite_congr (marked _ fun _ => rfl) (fun _ => rfl) fun _ => ?_
    change Except.map _ (writeIdentity [first.kafkaPartition, first.kafkaOffset, last.kafkaOffset]
      [first.kafkaTopic, first.schemaVersion]) = _
    cases writeIdentity [first.kafkaPartition, first.kafkaOffset, last.kafkaOffset]
        [first.kafkaTopic, first.schemaVersion] with
    | error problem => rfl
    | ok _ => rfl

/-- Two batchers whose queues differ in ingestion times only. -/
structure Alike (batcher batcher' : PartitionBatcher) : Prop where
  /-- They cut batches of the same size. -/
  size : batcher.batchSize = batcher'.batchSize
  /-- The queues hold the same events. -/
  queued : ∀ key, (batcher.queued key).map BronzeEvent.timeless =
    (batcher'.queued key).map BronzeEvent.timeless

/-- Two outcomes of a call that differ in ingestion times only. -/
structure SameOutcome (outcome outcome' : Except PyError (List CdcBatch) × PartitionBatcher) :
    Prop where
  /-- What was returned or raised. -/
  returned : outcome.1.map (List.map CdcBatch.timeless) =
    outcome'.1.map (List.map CdcBatch.timeless)
  /-- The batchers that are left. -/
  left : Alike outcome.2 outcome'.2

/-- A partition has a queue in both batchers or in neither. -/
theorem Alike.cases {batcher batcher' : PartitionBatcher} (alike : Alike batcher batcher')
    (key : TopicPartitionKey) :
    (batcher.pending.get key = none ∧ batcher'.pending.get key = none) ∨
      ∃ partition partition', batcher.pending.get key = some partition ∧
        batcher'.pending.get key = some partition' ∧ partition.key = key ∧ partition'.key = key ∧
        partition.events.map BronzeEvent.timeless = partition'.events.map BronzeEvent.timeless := by
  have same := alike.queued key
  unfold PartitionBatcher.queued at same
  cases found : batcher.pending.get key with
  | none =>
    cases found' : batcher'.pending.get key with
    | none => exact Or.inl ⟨rfl, rfl⟩
    | some partition' =>
      simp only [found, found', Option.map_none, Option.map_some, Option.getD_none,
        Option.getD_some, List.map_nil] at same
      exact absurd (List.map_eq_nil_iff.mp same.symm) partition'.nonempty
  | some partition =>
    cases found' : batcher'.pending.get key with
    | none =>
      simp only [found, found', Option.map_none, Option.map_some, Option.getD_none,
        Option.getD_some, List.map_nil] at same
      exact absurd (List.map_eq_nil_iff.mp same) partition.nonempty
    | some partition' =>
      simp only [found, found', Option.map_some, Option.getD_some] at same
      exact Or.inr ⟨partition, partition', rfl, rfl, Table.key_of_get found,
        Table.key_of_get found', same⟩

/-- `_take` from queues that differ in ingestion times only. -/
theorem take_alike (sha : Sha256) {batcher batcher' : PartitionBatcher}
    (alike : Alike batcher batcher') {partition partition' : PendingPartition}
    (home : partition.key = partition'.key)
    (same : partition.events.map BronzeEvent.timeless =
      partition'.events.map BronzeEvent.timeless) (count : Nat) (now now' : Instant) :
    (batcher.take sha partition count now).1.map CdcBatch.timeless =
        (batcher'.take sha partition' count now').1.map CdcBatch.timeless ∧
      Alike (batcher.take sha partition count now).2
        (batcher'.take sha partition' count now').2 := by
  refine ⟨?_, alike.size, ?_⟩
  · simp only [PartitionBatcher.take]
    rw [← buildBatch_timeless, ← buildBatch_timeless, List.map_take, List.map_take, same]
  · intro key
    rw [PartitionBatcher.take_queued, PartitionBatcher.take_queued, home]
    split
    · rw [List.map_drop, List.map_drop, same]
    · exact alike.queued key

/-- One batch as a list. -/
theorem singleton_timeless (built : Except PyError CdcBatch) :
    (built.map fun batch => [batch]).map (List.map CdcBatch.timeless) =
      (built.map CdcBatch.timeless).map fun batch => [batch] := by
  cases built with
  | error problem => rfl
  | ok batch => rfl

/-- One batch before others. -/
theorem prepend_timeless (batch : CdcBatch) (rest : Except PyError (List CdcBatch)) :
    (rest.map (batch :: ·)).map (List.map CdcBatch.timeless) =
      (rest.map (List.map CdcBatch.timeless)).map (batch.timeless :: ·) := by
  cases rest with
  | error problem => rfl
  | ok batches => rfl

/-- `flush_partition` on queues that differ in ingestion times only. -/
theorem flushPartition_alike (sha : Sha256) {batcher batcher' : PartitionBatcher}
    (alike : Alike batcher batcher') (key : TopicPartitionKey) (now now' : Instant) :
    SameOutcome (batcher.flushPartition sha key now) (batcher'.flushPartition sha key now') := by
  unfold PartitionBatcher.flushPartition
  rcases alike.cases key with
    ⟨none, none'⟩ | ⟨partition, partition', found, found', home, home', same⟩
  · rw [none, none']
    exact ⟨rfl, alike⟩
  · rw [found, found']
    simp only
    have lengths : partition.events.length = partition'.events.length := by
      simpa using congrArg List.length same
    obtain ⟨returned, left⟩ := take_alike sha alike (home.trans home'.symm) same
      partition'.events.length now now'
    rw [lengths]
    refine ⟨?_, left⟩
    rw [singleton_timeless, singleton_timeless, returned]

/-- The loop of `add` on queues that differ in ingestion times only. -/
theorem cutFull_alike (sha : Sha256) (key : TopicPartitionKey) (now now' : Instant) (turns : Nat)
    {batcher batcher' : PartitionBatcher} (alike : Alike batcher batcher') :
    SameOutcome (batcher.cutFull sha key now turns) (batcher'.cutFull sha key now' turns) := by
  induction turns generalizing batcher batcher' with
  | zero => exact ⟨rfl, alike⟩
  | succ turns ih =>
    unfold PartitionBatcher.cutFull
    rcases alike.cases key with
      ⟨none, none'⟩ | ⟨partition, partition', found, found', home, home', same⟩
    · rw [none, none']
      exact ⟨rfl, alike⟩
    · have lengths : partition.events.length = partition'.events.length := by
        simpa using congrArg List.length same
      obtain ⟨returned, left⟩ := take_alike sha alike (home.trans home'.symm) same
        batcher'.batchSize now now'
      rw [found, found']
      simp only [lengths, alike.size]
      split
      · exact ⟨rfl, alike⟩
      · generalize batcher.take sha partition batcher'.batchSize now = one at returned left
        generalize batcher'.take sha partition' batcher'.batchSize now' = two at returned left
        obtain ⟨outcome, middle⟩ := one
        obtain ⟨outcome', middle'⟩ := two
        cases outcome with
        | error problem =>
          cases outcome' with
          | error problem' => exact ⟨congrArg Except.error (Except.error.inj returned), left⟩
          | ok batch' => cases returned
        | ok batch =>
          cases outcome' with
          | error problem' => cases returned
          | ok batch' =>
            have later := ih left
            refine ⟨?_, later.left⟩
            simp only
            rw [prepend_timeless, prepend_timeless, later.returned, Except.ok.inj returned]

/-- Queueing the same events twice. -/
theorem enqueue_alike (sha : Sha256) {batcher batcher' : PartitionBatcher}
    (alike : Alike batcher batcher') {partition partition' : PendingPartition}
    (home : partition.key = partition'.key)
    (same : partition.events.map BronzeEvent.timeless =
      partition'.events.map BronzeEvent.timeless) (now now' : Instant) :
    SameOutcome (batcher.enqueue sha partition now) (batcher'.enqueue sha partition' now') := by
  have lengths : partition.events.length = partition'.events.length := by
    simpa using congrArg List.length same
  unfold PartitionBatcher.enqueue
  rw [lengths, home]
  refine cutFull_alike sha partition'.key now now' _ ⟨alike.size, ?_⟩
  intro key
  simp only [PartitionBatcher.queued, Table.get_put, home]
  split
  · exact same
  · exact alike.queued key

/-- Some batches before others. -/
theorem append_timeless (flushed : List CdcBatch) (rest : Except PyError (List CdcBatch)) :
    (rest.map (flushed ++ ·)).map (List.map CdcBatch.timeless) =
      (rest.map (List.map CdcBatch.timeless)).map (flushed.map CdcBatch.timeless ++ ·) := by
  cases rest with
  | error problem => rfl
  | ok batches => simp [Except.map]

/-- The last events of queues that differ in ingestion times only. -/
theorem last_timeless {partition partition' : PendingPartition}
    (same : partition.events.map BronzeEvent.timeless =
      partition'.events.map BronzeEvent.timeless) :
    partition.last.timeless = partition'.last.timeless := by
  have last : (partition.events.map BronzeEvent.timeless).getLast? =
      (partition'.events.map BronzeEvent.timeless).getLast? := congrArg List.getLast? same
  rw [List.getLast?_map, List.getLast?_map, List.getLast?_eq_some_getLast partition.nonempty,
    List.getLast?_eq_some_getLast partition'.nonempty] at last
  exact Option.some.inj last

/-- `add` of the same event to queues that differ in ingestion times only. -/
theorem add_alike (sha : Sha256) {batcher batcher' : PartitionBatcher}
    (alike : Alike batcher batcher') {event event' : BronzeEvent}
    (read : event.timeless = event'.timeless) (now now' : Instant) :
    SameOutcome (batcher.add sha event now) (batcher'.add sha event' now') := by
  have place : event.topicPartition = event'.topicPartition := by
    have places := congrArg BronzeEvent.topicPartition read
    exact places
  have starts : ∀ {batcher batcher' : PartitionBatcher}, Alike batcher batcher' →
      SameOutcome (batcher.enqueue sha (.start event now) now)
        (batcher'.enqueue sha (.start event' now') now') := by
    intro _ _ alike
    refine enqueue_alike sha alike place ?_ now now'
    exact congrArg (fun event => [event]) read
  rcases alike.cases event.topicPartition with
    ⟨none, none'⟩ | ⟨partition, partition', found, found', home, home', same⟩
  · rw [place] at none'
    rw [PartitionBatcher.add_of_none sha none, PartitionBatcher.add_of_none sha none']
    exact starts alike
  · have follows : Follows partition.last event ↔ Follows partition'.last event' := by
      have timeless : Follows partition'.last event' ↔
          Follows partition'.last.timeless event'.timeless := follows_timeless.symm
      rw [← follows_timeless, timeless, last_timeless same, read]
    rw [place] at found'
    by_cases extends' : Follows partition'.last event'
    · rw [PartitionBatcher.add_of_follows sha found (follows.mpr extends'),
        PartitionBatcher.add_of_follows sha found' extends']
      have homes : partition.key = partition'.key := home.trans home'.symm
      refine enqueue_alike sha alike ?_ ?_ now now'
      · exact homes
      · simp only [PendingPartition.extend, List.map_append, same, List.map_cons, List.map_nil,
          read]
    · rw [PartitionBatcher.add_of_boundary sha found (mt follows.mp extends'),
        PartitionBatcher.add_of_boundary sha found' extends']
      have flushes := flushPartition_alike sha alike event.topicPartition now now'
      rw [← place]
      generalize batcher.flushPartition sha event.topicPartition now = one at flushes
      generalize batcher'.flushPartition sha event.topicPartition now' = two at flushes
      obtain ⟨outcome, middle⟩ := one
      obtain ⟨outcome', middle'⟩ := two
      obtain ⟨returned, left⟩ := flushes
      cases outcome with
      | error problem =>
        cases outcome' with
        | error problem' => exact ⟨congrArg Except.error (Except.error.inj returned), left⟩
        | ok flushed' => cases returned
      | ok flushed =>
        cases outcome' with
        | error problem' => cases returned
        | ok flushed' =>
          have later := starts left
          refine ⟨?_, later.left⟩
          simp only
          rw [append_timeless, append_timeless, later.returned, Except.ok.inj returned]

/-- The clock readings of one turn of the consumer. -/
structure Reading where
  /-- The ingestion time. -/
  observedAt : Instant
  /-- The clock of `_event_date`. -/
  today : Instant
  /-- The clock of the batcher. -/
  now : Instant

/-- What the batcher cuts when a record is handled: an event is added, a record that cannot be
interpreted flushes its partition. -/
def cutRecord (context : ParserContext) (batcher : PartitionBatcher) (message : RawKafkaMessage)
    (reading : Reading) : Except PyError (List CdcBatch) × PartitionBatcher :=
  match parseDebeziumMessage context reading.observedAt reading.today message with
  | .error problem => (.error problem, batcher)
  | .ok (.event event) => batcher.add context.sha event reading.now
  | .ok (.poison _) => batcher.flushPartition context.sha message.topicPartition reading.now
  | .ok .heartbeat => (.ok [], batcher)

/-- The batches that size and boundaries cut from records, up to the first that raises. -/
def cutRecords (context : ParserContext) :
    PartitionBatcher → List (RawKafkaMessage × Reading) → List CdcBatch
  | _, [] => []
  | batcher, (message, reading) :: rest =>
    match cutRecord context batcher message reading with
    | (.error _, _) => []
    | (.ok batches, batcher) => batches ++ cutRecords context batcher rest

/-- Handling a record that does not depend on the clock. -/
theorem cutRecord_alike {context : ParserContext} {batcher batcher' : PartitionBatcher}
    (alike : Alike batcher batcher') {message : RawKafkaMessage}
    (free : ClockFree context message) (reading reading' : Reading) :
    SameOutcome (cutRecord context batcher message reading)
      (cutRecord context batcher' message reading') := by
  have same := free reading.observedAt reading.today reading'.observedAt reading'.today
  unfold cutRecord
  generalize parseDebeziumMessage context reading.observedAt reading.today message = one at same
  generalize parseDebeziumMessage context reading'.observedAt reading'.today message = two at same
  cases one with
  | error problem =>
    cases two with
    | error problem' => exact ⟨congrArg Except.error (Except.error.inj same), alike⟩
    | ok meaning' => cases same
  | ok meaning =>
    cases two with
    | error problem' => cases same
    | ok meaning' =>
      have same := Except.ok.inj same
      cases meaning with
      | event event =>
        cases meaning' with
        | event event' => exact add_alike context.sha alike (ParsedMessage.event.inj same) _ _
        | heartbeat => cases same
        | poison evidence' => cases same
      | heartbeat =>
        cases meaning' with
        | event event' => cases same
        | heartbeat => exact ⟨rfl, alike⟩
        | poison evidence' => cases same
      | poison evidence =>
        cases meaning' with
        | event event' => cases same
        | heartbeat => cases same
        | poison evidence' => exact flushPartition_alike context.sha alike _ _ _

/-- Records that do not depend on the clock are cut into the same batches again. -/
theorem cutRecords_alike {context : ParserContext} {batcher batcher' : PartitionBatcher}
    (alike : Alike batcher batcher') {records records' : List (RawKafkaMessage × Reading)}
    (again : records.map Prod.fst = records'.map Prod.fst)
    (free : ∀ record ∈ records, ClockFree context record.1) :
    (cutRecords context batcher records).map CdcBatch.timeless =
      (cutRecords context batcher' records').map CdcBatch.timeless := by
  induction records generalizing batcher batcher' records' with
  | nil =>
    rw [List.map_nil] at again
    rw [List.map_eq_nil_iff.mp again.symm]
    rfl
  | cons record rest ih =>
    cases records' with
    | nil => cases again
    | cons record' rest' =>
      obtain ⟨message, reading⟩ := record
      obtain ⟨message', reading'⟩ := record'
      obtain ⟨rfl, later⟩ := List.cons.inj again
      have outcome := cutRecord_alike alike (free _ (List.mem_cons_self ..)) reading reading'
      simp only [cutRecords]
      generalize cutRecord context batcher message reading = one at outcome
      generalize cutRecord context batcher' message reading' = two at outcome
      obtain ⟨returned, middle⟩ := one
      obtain ⟨returned', middle'⟩ := two
      obtain ⟨same, left⟩ := outcome
      cases returned with
      | error problem =>
        cases returned' with
        | error problem' => rfl
        | ok batches' => cases same
      | ok batches =>
        cases returned' with
        | error problem' => cases same
        | ok batches' =>
          simp only [List.map_append]
          rw [ih left later fun other member => free other (List.mem_cons_of_mem _ member)]
          exact congrArg (· ++ _) (Except.ok.inj same)

/-- Replay does not depend on the clock exactly where no event comes without a timestamp: readings
of a record agree if and only if it is not such an event, and records without such an event are
cut into the same batches, under the same identities and object keys, whenever they are read. -/
theorem replay_ignores_the_clock (context : ParserContext) :
    (∀ message, ClockFree context message ↔ ¬ Undated context message) ∧
      ∀ (batchSize : Nat) (flushInterval : Int) (positive : 0 < batchSize)
        (records records' : List (RawKafkaMessage × Reading)),
        records.map Prod.fst = records'.map Prod.fst →
        (∀ record ∈ records, ¬ Undated context record.1) →
        let batches := cutRecords context (.new batchSize flushInterval positive) records
        let batches' := cutRecords context (.new batchSize flushInterval positive) records'
        batches.map CdcBatch.timeless = batches'.map CdcBatch.timeless ∧
          batches.map CdcBatch.batchId = batches'.map CdcBatch.batchId ∧
          batches.map buildCdcObjectKey = batches'.map buildCdcObjectKey := by
  refine ⟨fun message => clockFree_iff, ?_⟩
  intro batchSize flushInterval positive records records' again dated batches batches'
  have same : batches.map CdcBatch.timeless = batches'.map CdcBatch.timeless :=
    cutRecords_alike ⟨rfl, fun _ => rfl⟩ again
      fun record member => clockFree_iff.mpr (dated record member)
  refine ⟨same, ?_, ?_⟩
  · have identities := congrArg (List.map CdcBatch.batchId) same
    rw [List.map_map, List.map_map] at identities
    exact identities
  · have keys := congrArg (List.map buildCdcObjectKey) same
    rw [List.map_map, List.map_map] at keys
    exact keys

/-- A tombstone of 2023 is filed under the same key when it is read in 1970 and in the year 1. -/
theorem dated_tombstone_replays :
    (cutRecords defaultParser (.new 1 5000000 (by decide))
      [(customerTombstone (some 1700000000000), ⟨Instant.epoch, Instant.epoch, Instant.epoch⟩)]).map
        buildCdcObjectKey =
    (cutRecords defaultParser (.new 1 5000000 (by decide))
      [(customerTombstone (some 1700000000000), ⟨firstInstant, firstInstant, firstInstant⟩)]).map
        buildCdcObjectKey := by
  refine ((replay_ignores_the_clock defaultParser).2 1 5000000 (by decide)
    [(customerTombstone (some 1700000000000), ⟨Instant.epoch, Instant.epoch, Instant.epoch⟩)]
    [(customerTombstone (some 1700000000000), ⟨firstInstant, firstInstant, firstInstant⟩)]
    rfl ?_).2.2
  intro record member undated
  rw [List.mem_singleton.mp member] at undated
  obtain ⟨shape, stamps, formed, event, unstamped⟩ := undated.unstamped
  obtain rfl := Except.ok.inj formed
  obtain rfl := Option.some.inj event
  cases unstamped

/-- A tombstone without timestamp is filed under the day it is read. -/
theorem undated_tombstone_not_clockFree : ¬ ClockFree defaultParser (customerTombstone none) := by
  intro free
  have same := free Instant.epoch Instant.epoch Instant.epoch firstInstant
  revert same
  decide +kernel

end Cdc
