import PaymentsPlatform.Cdc.Classification
import PaymentsPlatform.Cdc.Footprint

/-!
# Flushing by age

After a turn of the poll loop that began at some time, is a queue left whose first event was seen
at least the flush interval before? Only an empty poll runs `flush_due`. A turn that handles a
record touches the queue of the partition of the record and no other, so a quiet partition waits
as long as the others keep the consumer busy. Which queues a turn relieves is read off the batcher
at the moment the poll returns.
-/

namespace Cdc

open Python Effects Relational

namespace PartitionBatcher

/-- The first event of the queue was seen at least the interval before. -/
def Due (batcher : PartitionBatcher) (time : Instant) (partition : PendingPartition) : Prop :=
  batcher.flushInterval ≤ (time.micros : Int) - partition.firstSeenAt.micros

/-- No queue is due. -/
def NoneDue (batcher : PartitionBatcher) (time : Instant) : Prop :=
  ∀ partition ∈ batcher.pending.rows, ¬ batcher.Due time partition

instance (batcher : PartitionBatcher) (time : Instant) (partition : PendingPartition) :
    Decidable (batcher.Due time partition) := inferInstanceAs (Decidable (_ ≤ _))

instance (batcher : PartitionBatcher) (time : Instant) : Decidable (batcher.NoneDue time) :=
  inferInstanceAs (Decidable (∀ _ ∈ _, _))

/-- The queues of one batcher that are due are due in the other, and have the same age. -/
theorem NoneDue.of_get {before after : PartitionBatcher} {time : Instant}
    (interval : after.flushInterval = before.flushInterval)
    (gets : ∀ key partition, after.pending.get key = some partition →
      ¬ before.Due time partition) : after.NoneDue time := by
  intro partition member due
  refine gets partition.key partition (Table.get_eq_some.mpr ⟨member, rfl⟩) ?_
  unfold Due at due ⊢
  rw [← interval]
  exact due

/-- A queue that is started or cut after the time is not due at the time. -/
theorem not_due_of_later {batcher : PartitionBatcher} {time : Instant}
    {partition : PendingPartition} (positive : 0 < batcher.flushInterval)
    (later : time.micros ≤ partition.firstSeenAt.micros) : ¬ batcher.Due time partition := by
  unfold Due
  omega

variable (sha : Sha256)

/-- The queues after `_take`. -/
theorem take_get (batcher : PartitionBatcher) (partition : PendingPartition) (count : Nat)
    (observedAt : Instant) (key : TopicPartitionKey) :
    (batcher.take sha partition count observedAt).2.pending.get key =
      if key = partition.key then
        if left : partition.events.drop count = [] then none
        else some (partition.drop count observedAt left)
      else batcher.pending.get key := by
  simp only [take]
  split
  · rw [Table.get_delete]
  · rw [Table.get_put]
    rfl

/-- The queues after `flush_partition`. -/
theorem flushPartition_get (batcher : PartitionBatcher) (key : TopicPartitionKey)
    (observedAt : Instant) :
    (batcher.flushPartition sha key observedAt).2.flushInterval = batcher.flushInterval ∧
      ∀ other, (batcher.flushPartition sha key observedAt).2.pending.get other =
        if other = key then none else batcher.pending.get other := by
  unfold flushPartition
  split
  · rename_i absent
    refine ⟨rfl, fun other => ?_⟩
    split
    · rename_i same
      rw [same, absent]
    · rfl
  · rename_i partition found
    refine ⟨rfl, fun other => ?_⟩
    have home := Table.key_of_get found
    simp only [take_get, home, List.drop_length, dif_pos]

/-- The queues after `flush_partitions`, when no batch is refused. -/
theorem flushPartitions_get {batcher after : PartitionBatcher} {keys : List TopicPartitionKey}
    {observedAt : Instant} {batches : List CdcBatch}
    (flushed : batcher.flushPartitions sha observedAt keys = (.ok batches, after)) :
    after.flushInterval = batcher.flushInterval ∧
      ∀ other, after.pending.get other =
        if other ∈ keys then none else batcher.pending.get other := by
  induction keys generalizing batcher batches with
  | nil =>
    obtain ⟨-, rfl⟩ := Prod.mk.inj flushed
    exact ⟨rfl, fun other => by simp⟩
  | cons key keys ih =>
    rw [flushPartitions] at flushed
    obtain ⟨interval, gets⟩ := flushPartition_get sha batcher key observedAt
    split at flushed
    · cases (Prod.mk.inj flushed).1
    · rename_i first middle one
      rw [one] at interval gets
      cases rest : flushPartitions sha observedAt middle keys with
      | mk outcome final =>
        rw [rest] at flushed
        obtain ⟨mapped, rfl⟩ := Prod.mk.inj flushed
        cases outcome with
        | error problem => cases mapped
        | ok more =>
          obtain ⟨interval', gets'⟩ := ih rest
          refine ⟨interval'.trans interval, fun other => ?_⟩
          rw [gets' other, gets other]
          by_cases here : other = key
          · simp [here]
          · simp [here]

/-- No operation of the batcher changes the interval. -/
theorem flushPartitions_interval (batcher : PartitionBatcher) (keys : List TopicPartitionKey)
    (observedAt : Instant) :
    (batcher.flushPartitions sha observedAt keys).2.flushInterval = batcher.flushInterval := by
  induction keys generalizing batcher with
  | nil => rfl
  | cons key keys ih =>
    obtain ⟨interval, -⟩ := flushPartition_get sha batcher key observedAt
    rw [flushPartitions]
    split
    · rename_i problem middle one
      rw [one] at interval
      exact interval
    · rename_i first middle one
      rw [one] at interval
      exact (ih middle).trans interval

/-- After `flush_due` no queue is due at the time of the flush or before. -/
theorem flushDue_noneDue {batcher after : PartitionBatcher} {time observedAt : Instant}
    {batches : List CdcBatch} (later : time.micros ≤ observedAt.micros)
    (flushed : batcher.flushDue sha observedAt = (.ok batches, after)) : after.NoneDue time := by
  obtain ⟨interval, gets⟩ := flushPartitions_get sha flushed
  refine NoneDue.of_get interval fun key partition found due => ?_
  rw [gets key] at found
  split at found
  · cases found
  · rename_i spared
    refine spared ?_
    rw [List.mem_insertionSort, List.mem_map]
    obtain ⟨member, home⟩ := Table.get_eq_some.mp found
    refine ⟨partition, List.mem_filter.mpr ⟨member, ?_⟩, home⟩
    unfold Due at due
    rw [decide_eq_true_eq]
    omega

/-- The queues after full batches were cut off one of them. -/
theorem cutFull_get {key : TopicPartitionKey} {observedAt : Instant} {turns : Nat}
    {batcher after : PartitionBatcher} {batches : List CdcBatch}
    (cut : cutFull sha key observedAt turns batcher = (.ok batches, after)) :
    after.flushInterval = batcher.flushInterval ∧
      (∀ other, other ≠ key → after.pending.get other = batcher.pending.get other) ∧
      ∀ partition, after.pending.get key = some partition → partition.firstSeenAt = observedAt ∨
        (batcher.pending.get key = some partition ∧
          (turns = 0 ∨ partition.events.length < batcher.batchSize)) := by
  induction turns generalizing batcher batches with
  | zero =>
    obtain ⟨-, rfl⟩ := Prod.mk.inj cut
    exact ⟨rfl, fun _ _ => rfl, fun _ found => Or.inr ⟨found, Or.inl rfl⟩⟩
  | succ turns ih =>
    rw [cutFull] at cut
    split at cut
    · obtain ⟨-, rfl⟩ := Prod.mk.inj cut
      rename_i absent
      refine ⟨rfl, fun _ _ => rfl, fun partition found => ?_⟩
      rw [absent] at found
      cases found
    rename_i partition found
    have home := Table.key_of_get found
    split at cut
    · rename_i short
      obtain ⟨-, rfl⟩ := Prod.mk.inj cut
      refine ⟨rfl, fun _ _ => rfl, fun partition' found' => Or.inr ⟨found', Or.inr ?_⟩⟩
      obtain rfl := Option.some.inj (found.symm.trans found')
      exact short
    · have gets := take_get sha batcher partition batcher.batchSize observedAt
      split at cut
      · cases (Prod.mk.inj cut).1
      · rename_i batch middle taken
        rw [taken] at gets
        have interval : middle.flushInterval = batcher.flushInterval :=
          congrArg (fun result => result.2.flushInterval) taken.symm
        cases rest : cutFull sha key observedAt turns middle with
        | mk outcome final =>
          rw [rest] at cut
          obtain ⟨mapped, rfl⟩ := Prod.mk.inj cut
          cases outcome with
          | error problem => cases mapped
          | ok more =>
            obtain ⟨interval', others, own⟩ := ih rest
            refine ⟨interval'.trans interval, ?_, ?_⟩
            · intro other different
              rw [others other different, gets other, if_neg (home.symm ▸ different)]
            · intro partition' found'
              rcases own partition' found' with new | ⟨kept, -⟩
              · exact Or.inl new
              · rw [gets key, if_pos home.symm] at kept
                split at kept
                · cases kept
                · obtain rfl := Option.some.inj kept
                  exact Or.inl rfl

/-- The queues after `add`, when no batch is refused: those of other partitions are as before, and
the queue of the event is new or cut, or it is the old one with the event at its end. -/
theorem add_get {batcher after : PartitionBatcher} {event : BronzeEvent} {observedAt : Instant}
    {batches : List CdcBatch} (added : batcher.add sha event observedAt = (.ok batches, after)) :
    after.flushInterval = batcher.flushInterval ∧
      (∀ other, other ≠ event.topicPartition →
        after.pending.get other = batcher.pending.get other) ∧
      ∀ partition, after.pending.get event.topicPartition = some partition →
        partition.firstSeenAt = observedAt ∨
        ∃ old, batcher.pending.get event.topicPartition = some old ∧ Follows old.last event ∧
          old.events.length + 1 < batcher.batchSize ∧
          partition.firstSeenAt = old.firstSeenAt := by
  -- what `enqueue` does, with a queue of the partition of the event
  have queue : ∀ {start final : PartitionBatcher} {new : PendingPartition} {more : List CdcBatch},
      new.key = event.topicPartition → start.enqueue sha new observedAt = (.ok more, final) →
      final.flushInterval = start.flushInterval ∧
        (∀ other, other ≠ event.topicPartition →
          final.pending.get other = start.pending.get other) ∧
        ∀ partition, final.pending.get event.topicPartition = some partition →
          partition.firstSeenAt = observedAt ∨
            (partition = new ∧ new.events.length < start.batchSize) := by
    intro start final new more home queued
    unfold enqueue at queued
    rw [home] at queued
    obtain ⟨interval, others, own⟩ := cutFull_get sha queued
    refine ⟨interval, ?_, ?_⟩
    · intro other different
      rw [others other different, Table.get_put, if_neg (home.symm ▸ different)]
    · intro partition found
      rcases own partition found with recent | ⟨kept, size⟩
      · exact Or.inl recent
      · rw [Table.get_put, if_pos home.symm] at kept
        obtain rfl := Option.some.inj kept
        refine Or.inr ⟨rfl, size.resolve_left ?_⟩
        exact Nat.ne_of_gt (List.length_pos_of_ne_nil new.nonempty)
  cases found : batcher.pending.get event.topicPartition with
  | none =>
    rw [add_of_none sha found] at added
    obtain ⟨interval, others, own⟩ := queue rfl added
    refine ⟨interval, others, fun partition found' => Or.inl ?_⟩
    rcases own partition found' with recent | ⟨rfl, -⟩
    · exact recent
    · rfl
  | some old =>
    have home := Table.key_of_get found
    by_cases follows : Follows old.last event
    · rw [add_of_follows sha found follows] at added
      have home' : (old.extend event (Table.key_of_get found).symm follows).key =
          event.topicPartition := home
      obtain ⟨interval, others, own⟩ := queue home' added
      refine ⟨interval, others, fun partition found' => ?_⟩
      rcases own partition found' with recent | ⟨rfl, short⟩
      · exact Or.inl recent
      · refine Or.inr ⟨old, rfl, follows, ?_, rfl⟩
        simpa [PendingPartition.extend] using short
    · rw [add_of_boundary sha found follows] at added
      obtain ⟨interval, gets⟩ := flushPartition_get sha batcher event.topicPartition observedAt
      split at added
      · cases (Prod.mk.inj added).1
      · rename_i flushed middle one
        rw [one] at interval gets
        cases rest : middle.enqueue sha (.start event observedAt) observedAt with
        | mk outcome final =>
          rw [rest] at added
          obtain ⟨mapped, rfl⟩ := Prod.mk.inj added
          cases outcome with
          | error problem => cases mapped
          | ok more =>
            obtain ⟨interval', others, own⟩ := queue rfl rest
            refine ⟨interval'.trans interval, ?_, fun partition found' => Or.inl ?_⟩
            · intro other different
              rw [others other different, gets other, if_neg different]
            · rcases own partition found' with recent | ⟨rfl, -⟩
              · exact recent
              · rfl

end PartitionBatcher

/-! ## Turns -/

/-- What a turn of the loop does after its poll. It leaves the loop with `clean_shutdown`, or goes
on with the number of empty polls. -/
def afterPoll (deployment : Deployment) (options : RunOptions) (deadline : Int)
    (emptyPolls : Nat) : Polled → Action (Bool ⊕ Nat)
  | .nothing => do
    let batches ← cut fun batcher now => batcher.flushDue deployment.sha now
    flushBatches deployment options.dryRun batches
    if options.once then
      let memory ← loadMemory
      if memory.assignmentSeen then
        if 2 ≤ emptyPolls + 1 then return .inl true
        else return .inr (emptyPolls + 1)
      else
        let now ← readMonotonic
        if deadline ≤ now then
          raise .timeoutError "Kafka assignment was not received during bounded run"
        else return .inr emptyPolls
    else return .inr emptyPolls
  | .endOfPartition => return .inr 0
  | .failed error => .raised error
  | .message message => do
    handleRecord deployment options.dryRun message
    let memory ← loadMemory
    if options.maxMessages.any fun most => most ≤ (memory.counters.polled : Int) then
      return .inl true
    else return .inr 0

/-- Leave the loop, or start its next turn. -/
def goOn (deployment : Deployment) (options : RunOptions) (deadline : Int) (turns : Nat) :
    Bool ⊕ Nat → Action (Option Bool)
  | .inl clean => return some clean
  | .inr emptyPolls => consume deployment options deadline turns emptyPolls

/-- The loop is its turns, one after another. -/
theorem consume_succ (deployment : Deployment) (options : RunOptions) (deadline : Int)
    (turns emptyPolls : Nat) :
    consume deployment options deadline (turns + 1) emptyPolls =
      stopRequested.bind fun stop =>
        if stop then .done (some true)
        else (pollClient deployment options.dryRun turns).bind fun polled =>
          (afterPoll deployment options deadline emptyPolls polled).bind
            (goOn deployment options deadline turns) := by
  rw [consume]
  simp only [Program.bind_eq, Program.pure_eq]
  congr 1
  funext stop
  congr 1
  congr 1
  funext polled
  cases polled with
  | nothing =>
    simp only [afterPoll, Program.bind_eq, Program.pure_eq, Program.bind_assoc]
    congr 1
    funext batches
    congr 1
    funext _
    split
    · simp only [Program.bind_assoc]
      congr 1
      funext memory
      split
      · split
        · rfl
        · rfl
      · simp only [Program.bind_assoc]
        congr 1
        funext now
        split
        · rfl
        · rfl
    · rfl
  | endOfPartition => rfl
  | failed error => rfl
  | message message =>
    simp only [afterPoll, Program.bind_eq, Program.pure_eq, Program.bind_assoc]
    congr 1
    funext _
    congr 1
    funext memory
    split
    · rfl
    · rfl

/-- The choices of the environment in one turn of the loop. Time goes on from its beginning. -/
structure Turn where
  /-- When the turn begins. -/
  began : Choice
  /-- During the poll. -/
  polling : List Choice
  /-- After the poll. -/
  handling : List Choice
  /-- The clock does not go back behind the beginning. -/
  timely : ∀ choice ∈ polling ++ handling, began.clock.micros ≤ choice.clock.micros

namespace Turn

variable (deployment : Deployment) (options : RunOptions) (deadline : Int) (turns emptyPolls : Nat)

/-- What the poll of the turn returns, with the world it leaves, unless the consumer stops. -/
def polled (turn : Turn) (world : World) : Option (Polled × World) :=
  match (machine deployment).finish [turn.began] (stopRequested, world) with
  | some (false, started) =>
    (machine deployment).finish turn.polling (pollClient deployment options.dryRun turns, started)
  | _ => none

/-- How the turn ends after its poll, with the world it leaves. -/
def completed (turn : Turn) (polled : Polled) (served : World) :
    Option ((Bool ⊕ Nat) × World) :=
  (machine deployment).finish turn.handling
    (afterPoll deployment options deadline emptyPolls polled, served)

/-- A completed turn is the run of the loop up to its next turn. -/
theorem consume_run {deployment : Deployment} {options : RunOptions} {deadline : Int}
    {turns emptyPolls : Nat} {turn : Turn} {world served after : World} {polled : Polled}
    {ended : Bool ⊕ Nat}
    (polls : turn.polled deployment options turns world = some (polled, served))
    (completes : turn.completed deployment options deadline emptyPolls polled served =
      some (ended, after)) :
    (machine deployment).run (turn.began :: (turn.polling ++ turn.handling))
        (consume deployment options deadline (turns + 1) emptyPolls, world) =
      (goOn deployment options deadline turns ended, after) := by
  rw [consume_succ]
  unfold Turn.polled at polls
  split at polls
  · rename_i started checked
    have head := Machine.run_finish checked fun stop =>
      if stop then .done (some true)
      else (pollClient deployment options.dryRun turns).bind fun polled =>
        (afterPoll deployment options deadline emptyPolls polled).bind
          (goOn deployment options deadline turns)
    have middle := Machine.run_finish polls fun polled =>
      (afterPoll deployment options deadline emptyPolls polled).bind
        (goOn deployment options deadline turns)
    have last := Machine.run_finish completes (goOn deployment options deadline turns)
    have parts : turn.began :: (turn.polling ++ turn.handling) =
        [turn.began] ++ (turn.polling ++ turn.handling) := rfl
    rw [parts]
    unfold Machine.run at head middle last ⊢
    rw [List.foldl_append, head, List.foldl_append]
    simp only [Bool.false_eq_true, if_false]
    rw [middle, last]
  · cases polls

end Turn

/-- A property of every completed turn of a run of the loop: of the turn, what its poll returned,
the world in which it returned, and the world after the turn. -/
def Throughout (deployment : Deployment) (options : RunOptions) (deadline : Int)
    (property : Turn → Polled → World → World → Prop) : List Turn → Nat → Nat → World → Prop
  | turn :: rest, turns + 1, emptyPolls, world =>
    ∀ polled served, turn.polled deployment options turns world = some (polled, served) →
      ∀ ended after, turn.completed deployment options deadline emptyPolls polled served =
          some (ended, after) →
        property turn polled served after ∧
          ∀ next, ended = .inr next → Throughout deployment options deadline property rest turns
            next after
  | _, _, _, _ => True

/-! ## What a turn does to the queues -/

/-- The interval is as it was. -/
def Steady (before after : World) : Prop :=
  after.memory.batcher.flushInterval = before.memory.batcher.flushInterval

/-- `Steady` follows itself. -/
theorem steady_tracks : Tracks Steady Steady where
  refl _ := rfl
  trans one two := two.trans one
  step kept := kept

/-- Every run of the program under some of the choices keeps the interval, and a value it returns
is as stated. -/
def Turns (deployment : Deployment) (choices : List Choice) {α : Type}
    (post : α → World → Prop) (program : Action α) (world : World) : Prop :=
  Meets (machine deployment) (.sequential (fun _ choice _ => choice ∈ choices) Steady) post
    (fun _ _ => True) program world

section

variable {deployment : Deployment} {choices : List Choice} {world : World}

/-- Sequencing. -/
theorem Turns.seq {α β : Type} {program : Action α} {next : α → Action β}
    {middle : α → World → Prop} {post : β → World → Prop}
    (first : Turns deployment choices middle program world)
    (rest : ∀ value end', middle value end' → Turns deployment choices post (next value) end') :
    Turns deployment choices post (program.bind next) world :=
  Meets.bind (first.mono rest fun _ _ ends => ends)

/-- A value that is there. -/
theorem Turns.returned {α β : Type} {value : α} {next : α → Action β} {post : β → World → Prop}
    (rest : Turns deployment choices post (next value) world) :
    Turns deployment choices post ((Program.ofExcept (.ok value)).bind next) world := rest

/-- A program that leaves the queues as they are. -/
theorem Rests.turns {α : Type} {program : Action α}
    (rests : Rests deployment (fun _ choice _ => choice ∈ choices) program) :
    Turns deployment choices (fun _ end' => end'.memory.batcher = world.memory.batcher) program
      world := by
  have along := Meets.along resting_tracks (rests world)
  refine (along.mono (fun _ _ ends => ends.1) fun _ _ _ => trivial).transfer
    (fun _ _ _ admitted => admitted) (fun _ _ same => same) ?_
  intro before after resting
  exact congrArg PartitionBatcher.flushInterval resting

/-- Reading the fields of the consumer. -/
theorem loadMemory_turns :
    Turns deployment choices (fun memory end' => memory = world.memory
      ∧ end'.memory = world.memory) loadMemory world :=
  meets_sure rfl fun _ _ _ => ⟨rfl, world.memory, rfl, rfl, rfl⟩

/-- Reading the clock. -/
theorem readClock_turns :
    Turns deployment choices (fun now end' => end'.memory = world.memory ∧
      ∃ choice ∈ choices, now = choice.clock) readClock world :=
  meets_sure rfl fun _ choice member => ⟨rfl, choice.clock, rfl, rfl, choice, member, rfl⟩

/-- An operation of the batcher, at the time of a choice. -/
theorem cut_turns {operation : PartitionBatcher → Instant →
      Except PyError (List CdcBatch) × PartitionBatcher}
    (steady : ∀ batcher now, (operation batcher now).2.flushInterval = batcher.flushInterval) :
    Turns deployment choices (fun batches end' => ∃ choice ∈ choices,
      operation world.memory.batcher choice.clock = (.ok batches, end'.memory.batcher))
      (cut operation) world := by
  refine Turns.seq readClock_turns ?_
  rintro _ clock ⟨memory, choice, member, rfl⟩
  refine Turns.seq loadMemory_turns ?_
  rintro _ loaded ⟨rfl, memory'⟩
  rw [memory]
  have saves : Turns deployment choices (fun _ end'
      => end'.memory.batcher = (operation world.memory.batcher choice.clock).2)
      (saveMemory { world.memory with
        batcher := (operation world.memory.batcher choice.clock).2 }) loaded := by
    refine meets_sure rfl fun objects _ _ => ⟨?_, (), rfl, rfl⟩
    refine (steady world.memory.batcher choice.clock).trans ?_
    rw [memory', memory]
  refine Turns.seq saves ?_
  intro _ saved batcher
  refine Meets.ofExcept ?_ fun _ _ => trivial
  intro batches outcome
  refine ⟨choice, member, ?_⟩
  rw [batcher, ← outcome]

variable (sha : Sha256)

/-- No operation of the batcher changes the interval. -/
theorem PartitionBatcher.cutFull_interval (key : TopicPartitionKey) (observedAt : Instant)
    (turns : Nat) (batcher : PartitionBatcher) :
    (cutFull sha key observedAt turns batcher).2.flushInterval = batcher.flushInterval := by
  induction turns generalizing batcher with
  | zero => rfl
  | succ turns ih =>
    rw [cutFull]
    split
    · rfl
    · split
      · rfl
      · split
        · rename_i problem middle taken
          exact congrArg (fun result => result.2.flushInterval) taken.symm
        · rename_i batch middle taken
          exact (ih middle).trans (congrArg (fun result => result.2.flushInterval) taken.symm)

/-- `add` does not change the interval. -/
theorem PartitionBatcher.add_interval (batcher : PartitionBatcher) (event : BronzeEvent)
    (observedAt : Instant) :
    (batcher.add sha event observedAt).2.flushInterval = batcher.flushInterval := by
  unfold add
  split
  · exact cutFull_interval sha _ _ _ _
  · split
    · exact cutFull_interval sha _ _ _ _
    · obtain ⟨interval, -⟩ := flushPartition_get sha batcher event.topicPartition observedAt
      split
      · rename_i problem middle one
        rw [one] at interval
        exact interval
      · rename_i flushed middle one
        rw [one] at interval
        exact (cutFull_interval sha _ _ _ _).trans interval

/-- What handling a record does to the queues: nothing for a heartbeat, `flush_partition` for a
poison record and `add` for an event. -/
def Handled (deployment : Deployment) (choices : List Choice) (message : RawKafkaMessage)
    (before after : PartitionBatcher) : ParsedMessage → Prop
  | .event event => ∃ choice ∈ choices, ∃ batches,
      before.add deployment.sha event choice.clock = (.ok batches, after)
  | .poison _ => ∃ choice ∈ choices, ∃ batches,
      before.flushPartition deployment.sha message.topicPartition choice.clock =
        (.ok batches, after)
  | .heartbeat => after = before

/-- Handling a record. -/
theorem handleRecord_turns (dryRun : Bool) (message : RawKafkaMessage) :
    Turns deployment choices (fun _ end' => ∃ observed ∈ choices, ∃ today ∈ choices, ∃ parsed,
      parseDebeziumMessage deployment.parser observed.clock today.clock message = .ok parsed ∧
        Handled deployment choices message world.memory.batcher end'.memory.batcher parsed)
      (handleRecord deployment dryRun message) world := by
  refine Turns.seq (count_rests _).turns fun _ counted same => ?_
  refine Turns.seq readClock_turns ?_
  rintro _ first ⟨same', observed, seen, rfl⟩
  refine Turns.seq readClock_turns ?_
  rintro _ second ⟨same'', today, seen', rfl⟩
  have start : second.memory.batcher = world.memory.batcher := by
    rw [same'', same']
    exact same
  cases returned : parseDebeziumMessage deployment.parser observed.clock today.clock message with
  | error problem => trivial
  | ok parsed =>
    have ends : ∀ {program : Action Unit},
        Turns deployment choices (fun _ end' => Handled deployment choices message
          world.memory.batcher end'.memory.batcher parsed) program second →
        Turns deployment choices (fun _ end' => ∃ observed ∈ choices, ∃ today ∈ choices,
          ∃ parsed, parseDebeziumMessage deployment.parser observed.clock today.clock message =
              .ok parsed ∧
            Handled deployment choices message world.memory.batcher end'.memory.batcher parsed)
          program second := fun handled => handled.mono
      (fun _ _ ended => ⟨observed, seen, today, seen', parsed, returned, ended⟩) fun _ _ ended =>
        ended
    refine ends ?_
    cases parsed with
    | event event =>
      refine Turns.returned ?_
      refine Turns.seq (count_rests _).turns fun _ counted same => ?_
      refine Turns.seq
        (cut_turns fun batcher now => batcher.add_interval deployment.sha event now) ?_
      rintro batches added ⟨choice, member, outcome⟩
      rw [same, start] at outcome
      refine (flushBatches_rests dryRun batches).turns.mono ?_ fun _ _ ended => ended
      intro _ end' rests
      rw [← rests] at outcome
      exact ⟨choice, member, batches, outcome⟩
    | poison poison =>
      refine Turns.returned ?_
      refine Turns.seq (count_rests _).turns fun _ counted same => ?_
      refine Turns.seq (cut_turns fun batcher now =>
        (batcher.flushPartition_get deployment.sha message.topicPartition now).1) ?_
      rintro batches flushed ⟨choice, member, outcome⟩
      rw [same, start] at outcome
      refine Turns.seq (flushBatches_rests dryRun batches).turns fun _ processed rests => ?_
      rw [← rests] at outcome
      split
      · exact ⟨choice, member, batches, outcome⟩
      · refine (Rests.bind outside_writePoison.rests fun _ =>
          commitRecord_rests message).turns.mono ?_ fun _ _ ended => ended
        intro _ end' rests'
        rw [← rests'] at outcome
        exact ⟨choice, member, batches, outcome⟩
    | heartbeat =>
      refine Turns.returned ?_
      refine Turns.seq (count_rests _).turns fun _ counted same => ?_
      split
      · exact same.trans start
      · refine (commitRecord_rests message).turns.mono ?_ fun _ _ ended => ended
        intro _ end' rests
        exact rests.trans (same.trans start)

/-- `_on_assign`. -/
theorem onAssign_turns (dryRun : Bool) (keys : List TopicPartitionKey) :
    Turns deployment choices (fun _ _ => True) (onAssign deployment dryRun keys) world := by
  refine Turns.seq loadMemory_turns ?_
  rintro _ loaded ⟨rfl, memory⟩
  have saves : Turns deployment choices (fun _ _ => True)
      (saveMemory { world.memory with assignmentSeen := true }) loaded := by
    refine meets_sure rfl fun objects _ _ => ⟨?_, (), rfl, trivial⟩
    unfold Steady
    rw [memory]
    rfl
  refine Turns.seq saves fun _ saved _ => ?_
  split
  · trivial
  · exact outside_reconcileAssigned.rests.turns.mono (fun _ _ _ => trivial) fun _ _ ended => ended

/-- `_on_revoke`. -/
theorem onRevoke_turns (dryRun : Bool) (keys : List TopicPartitionKey) :
    Turns deployment choices (fun _ _ => True) (onRevoke deployment dryRun keys) world := by
  refine Turns.seq (cut_turns fun batcher now =>
    batcher.flushPartitions_interval deployment.sha keys now) fun batches cut _ => ?_
  exact (flushBatches_rests dryRun batches).turns.mono (fun _ _ _ => trivial) fun _ _ ended => ended

/-- A callback, and what the client does after it either way. -/
theorem ensure_turns {callback cleanup : Action Unit}
    (first : Turns deployment choices (fun _ _ => True) callback world)
    (last : Outside cleanup) :
    Turns deployment choices (fun _ _ => True) (callback.ensure cleanup) world := by
  have cleans : ∀ end', Turns deployment choices (fun _ _ => True) cleanup end' := fun _ =>
    last.rests.turns.mono (fun _ _ _ => trivial) fun _ _ ended => ended
  exact Meets.ensure (first.mono (fun _ end' _ => cleans end') fun _ end' _ => cleans end')

/-- A poll. -/
theorem pollClient_turns (dryRun : Bool) (turns : Nat) :
    Turns deployment choices (fun _ _ => True) (pollClient deployment dryRun turns) world := by
  induction turns generalizing world with
  | zero => trivial
  | succ turns ih =>
    have serves : Outside serve := outside_perform nofun
    refine Turns.seq serves.rests.turns fun answer served _ => ?_
    cases answer with
    | nothing => trivial
    | message message => trivial
    | endOfPartition => trivial
    | failed error => trivial
    | assigned keys =>
      exact Turns.seq (ensure_turns (onAssign_turns dryRun keys) (outside_perform nofun))
        fun _ _ _ => ih
    | revoked keys =>
      exact Turns.seq (ensure_turns (onRevoke_turns dryRun keys) (outside_perform nofun))
        fun _ _ _ => ih

end

/-! ## Relief -/

/-- The record flushes the queue of its partition: it is poison, or an event that does not follow
the queue or fills its batch. A record that cannot be read ends the run. -/
def Closes (batchSize : Nat) (partition : PendingPartition) :
    Except PyError ParsedMessage → Prop
  | .ok (.event event) => ¬ Follows partition.last event ∨ batchSize ≤ partition.events.length + 1
  | .ok (.poison _) => True
  | .ok .heartbeat => False
  | .error _ => True

/-- The turn relieves the queues that are due when its poll returns: the poll returned nothing, no
queue is due, or the only one that is due is flushed by the record the poll returned. -/
def Relieves (deployment : Deployment) (turn : Turn) (served : World) : Polled → Prop
  | .nothing => True
  | .failed _ => True
  | .endOfPartition => served.memory.batcher.NoneDue turn.began.clock
  | .message message => ∀ partition ∈ served.memory.batcher.pending.rows,
      served.memory.batcher.Due turn.began.clock partition →
        partition.key = message.topicPartition ∧
          ∀ observed ∈ turn.handling, ∀ today ∈ turn.handling,
            Closes served.memory.batcher.batchSize partition
              (parseDebeziumMessage deployment.parser observed.clock today.clock message)

instance (batchSize : Nat) (partition : PendingPartition)
    (parsed : Except PyError ParsedMessage) : Decidable (Closes batchSize partition parsed) :=
  match parsed with
  | .ok (.event _) => inferInstanceAs (Decidable (_ ∨ _))
  | .ok (.poison _) => .isTrue trivial
  | .ok .heartbeat => .isFalse id
  | .error _ => .isTrue trivial

instance (deployment : Deployment) (turn : Turn) (served : World) (polled : Polled) :
    Decidable (Relieves deployment turn served polled) :=
  match polled with
  | .nothing => .isTrue trivial
  | .failed _ => .isTrue trivial
  | .endOfPartition => inferInstanceAs (Decidable (PartitionBatcher.NoneDue _ _))
  | .message _ => inferInstanceAs (Decidable (∀ _ ∈ _, _))

section

variable {deployment : Deployment} {turn : Turn} {served : World}

/-- A record that relieves the due queue leaves none. -/
theorem Handled.noneDue {message : RawKafkaMessage} {observed today : Choice}
    {parsed : ParsedMessage} {after : PartitionBatcher}
    (positive : 0 < served.memory.batcher.flushInterval)
    (relieves : Relieves deployment turn served (.message message))
    (seen : observed ∈ turn.handling) (seen' : today ∈ turn.handling)
    (returned : parseDebeziumMessage deployment.parser observed.clock today.clock message =
      .ok parsed)
    (handled : Handled deployment turn.handling message served.memory.batcher after parsed) :
    after.NoneDue turn.began.clock := by
  have timely : ∀ choice ∈ turn.handling, turn.began.clock.micros ≤ choice.clock.micros :=
    fun choice member => turn.timely choice (List.mem_append_right _ member)
  -- a queue that was there and is due would have been relieved
  have relieved : ∀ key partition, served.memory.batcher.pending.get key = some partition →
      served.memory.batcher.Due turn.began.clock partition →
      key = message.topicPartition ∧
        Closes served.memory.batcher.batchSize partition (.ok parsed) := by
    intro key partition found due
    obtain ⟨member, rfl⟩ := Table.get_eq_some.mp found
    obtain ⟨home, closes⟩ := relieves partition member due
    have closed := closes observed seen today seen'
    rw [returned] at closed
    exact ⟨home, closed⟩
  cases parsed with
  | heartbeat =>
    obtain rfl : after = served.memory.batcher := handled
    exact .of_get rfl fun key partition found due => (relieved key partition found due).2
  | poison poison =>
    obtain ⟨choice, -, batches, flushed⟩ := handled
    obtain ⟨interval, gets⟩ := served.memory.batcher.flushPartition_get deployment.sha
      message.topicPartition choice.clock
    rw [flushed] at interval gets
    refine .of_get interval fun key partition found due => ?_
    rw [gets key] at found
    split at found
    · cases found
    · rename_i other
      exact other (relieved key partition found due).1
  | event event =>
    obtain ⟨choice, member, batches, added⟩ := handled
    obtain ⟨home, -⟩ := parse_coordinates returned
    obtain ⟨interval, others, own⟩ := PartitionBatcher.add_get deployment.sha added
    refine .of_get interval fun key partition found due => ?_
    by_cases here : key = event.topicPartition
    · subst here
      rcases own partition found with recent | ⟨old, found', follows, short, age⟩
      · exact PartitionBatcher.not_due_of_later positive (recent ▸ timely choice member) due
      · have due' : served.memory.batcher.Due turn.began.clock old := by
          unfold PartitionBatcher.Due at due ⊢
          rw [← age]
          exact due
        rcases (relieved _ old found' due').2 with boundary | full
        · exact boundary follows
        · omega
    · rw [others key here] at found
      exact here ((relieved key partition found due).1.trans home.symm)

variable {options : RunOptions} {deadline : Int} {turns emptyPolls : Nat}

/-- A turn whose poll returned nothing flushes what is due. -/
theorem emptyPoll_turns :
    Turns deployment turn.handling
      (fun _ end' => end'.memory.batcher.NoneDue turn.began.clock)
      (afterPoll deployment options deadline emptyPolls .nothing) served := by
  refine Turns.seq (cut_turns fun batcher now => batcher.flushPartitions_interval _ _ _) ?_
  rintro batches flushed ⟨choice, member, outcome⟩
  have none := PartitionBatcher.flushDue_noneDue deployment.sha
    (turn.timely choice (List.mem_append_right _ member)) outcome
  refine Turns.seq (flushBatches_rests _ batches).turns fun _ processed same => ?_
  rw [← same] at none
  split
  · refine Turns.seq loadMemory_turns ?_
    rintro memory loaded ⟨-, same'⟩
    rw [← same'] at none
    split
    · split
      · exact none
      · exact none
    · have reads : Outside readMonotonic := outside_perform nofun
      refine Turns.seq reads.rests.turns fun now clock same'' => ?_
      rw [← same''] at none
      split
      · trivial
      · exact none
  · exact none

/-- After a completed turn that relieves the queues none is due. -/
theorem completed_noneDue {polled : Polled} {ended : Bool ⊕ Nat} {after : World}
    (positive : 0 < served.memory.batcher.flushInterval)
    (relieves : Relieves deployment turn served polled)
    (completes : turn.completed deployment options deadline emptyPolls polled served =
      some (ended, after)) :
    after.memory.batcher.NoneDue turn.began.clock := by
  suffices meets : Turns deployment turn.handling
      (fun _ end' => end'.memory.batcher.NoneDue turn.began.clock)
      (afterPoll deployment options deadline emptyPolls polled) served from
    meets.finish completes
  cases polled with
  | nothing => exact emptyPoll_turns
  | failed error => trivial
  | endOfPartition => exact relieves
  | message message =>
    refine Turns.seq (handleRecord_turns options.dryRun message) ?_
    rintro _ handled ⟨observed, seen, today, seen', parsed, returned, done⟩
    have none := Handled.noneDue positive relieves seen seen' returned done
    refine Turns.seq loadMemory_turns ?_
    rintro memory loaded ⟨-, same⟩
    rw [← same] at none
    split
    · exact none
    · exact none

/-- What a turn does after its poll keeps the interval. -/
theorem afterPoll_turns (polled : Polled) :
    Turns deployment turn.handling (fun _ _ => True)
      (afterPoll deployment options deadline emptyPolls polled) served := by
  cases polled with
  | nothing => exact emptyPoll_turns.mono (fun _ _ _ => trivial) fun _ _ ended => ended
  | failed error => trivial
  | endOfPartition => trivial
  | message message =>
    refine Turns.seq (handleRecord_turns options.dryRun message) fun _ _ _ => ?_
    refine Turns.seq loadMemory_turns fun memory _ _ => ?_
    split
    · trivial
    · trivial

/-- The interval after a program that ended. -/
theorem Turns.steady {α : Type} {choices : List Choice} {program : Action α}
    {post : α → World → Prop} {world after : World} {value : α}
    (meets : Turns deployment choices post program world)
    (finished : (machine deployment).finish choices (program, world) = some (value, after)) :
    Steady world after :=
  ((Meets.along steady_tracks meets).finish finished).1

/-- The interval when the poll returns. -/
theorem polled_steady {polled : Polled} {world : World}
    (polls : turn.polled deployment options turns world = some (polled, served)) :
    Steady world served := by
  unfold Turn.polled at polls
  split at polls
  · rename_i started checked
    have reads : Outside stopRequested := outside_perform nofun
    have first := reads.rests.turns.steady checked
    exact steady_tracks.trans first ((pollClient_turns options.dryRun turns).steady polls)
  · cases polls

/-- In every run of the loop whose turns relieve the queues that are due when their polls return,
no queue is due after any turn, at the time the turn began. -/
theorem relieved_runs_flush_by_age (deployment : Deployment) (options : RunOptions)
    (deadline : Int) (run : List Turn) (turns emptyPolls : Nat) (world : World)
    (positive : 0 < world.memory.batcher.flushInterval)
    (relieved : Throughout deployment options deadline
      (fun turn polled served _ => Relieves deployment turn served polled)
      run turns emptyPolls world) :
    Throughout deployment options deadline
      (fun turn _ _ after => after.memory.batcher.NoneDue turn.began.clock)
      run turns emptyPolls world := by
  induction run generalizing turns emptyPolls world with
  | nil => trivial
  | cons turn run ih =>
    cases turns with
    | zero => trivial
    | succ turns =>
      intro polled served polls ended after completes
      obtain ⟨relieves, rest⟩ := relieved polled served polls ended after completes
      have steady := polled_steady polls
      have positive' : 0 < served.memory.batcher.flushInterval := by
        rw [steady]
        exact positive
      refine ⟨completed_noneDue positive' relieves completes, fun next goes => ?_⟩
      have steady' := (afterPoll_turns polled).steady completes
      have positive'' : 0 < after.memory.batcher.flushInterval := by
        rw [steady']
        exact positive'
      exact ih turns next after positive'' (rest next goes)

end

/-- A property that can be decided of a turn is decided of a run. -/
instance throughoutDecidable (deployment : Deployment) (options : RunOptions) (deadline : Int)
    (property : Turn → Polled → World → World → Prop)
    [each : ∀ turn polled served after, Decidable (property turn polled served after)] :
    (run : List Turn) → (turns emptyPolls : Nat) → (world : World) →
      Decidable (Throughout deployment options deadline property run turns emptyPolls world)
  | [], _, _, _ => .isTrue trivial
  | _ :: _, 0, _, _ => .isTrue trivial
  | turn :: rest, turns + 1, emptyPolls, world =>
    match polls : turn.polled deployment options turns world with
    | none => .isTrue fun _ _ other => nomatch polls.symm.trans other
    | some (polled, served) =>
      match completes : turn.completed deployment options deadline emptyPolls polled served with
      | none => .isTrue fun _ _ other _ _ ended => by
          obtain ⟨rfl, rfl⟩ := Prod.mk.inj (Option.some.inj (polls.symm.trans other))
          cases completes.symm.trans ended
      | some (.inl clean, after) =>
        @decidable_of_iff _ (property turn polled served after)
          (by
            constructor
            · intro holds _ _ other _ _ ended
              obtain ⟨rfl, rfl⟩ := Prod.mk.inj (Option.some.inj (polls.symm.trans other))
              obtain ⟨rfl, rfl⟩ := Prod.mk.inj (Option.some.inj (completes.symm.trans ended))
              exact ⟨holds, fun _ no => nomatch no⟩
            · intro holds
              exact (holds polled served polls _ after completes).1) (each ..)
      | some (.inr next, after) =>
        @decidable_of_iff _ (property turn polled served after ∧
            Throughout deployment options deadline property rest turns next after)
          (by
            constructor
            · intro holds _ _ other _ _ ended
              obtain ⟨rfl, rfl⟩ := Prod.mk.inj (Option.some.inj (polls.symm.trans other))
              obtain ⟨rfl, rfl⟩ := Prod.mk.inj (Option.some.inj (completes.symm.trans ended))
              exact ⟨holds.1, fun _ same => Sum.inr.inj same ▸ holds.2⟩
            · intro holds
              obtain ⟨here, later⟩ := holds polled served polls _ after completes
              exact ⟨here, later next rfl⟩)
          (@instDecidableAnd _ _ (each ..)
            (throughoutDecidable deployment options deadline property rest turns next after))

/-! ## A quiet partition beside a busy one -/

/-- Two tombstones of one topic, in two partitions. -/
def twoPartitions : KafkaLog where
  records key :=
    if key.topic = (customerTombstone (some 1700000000000)).topic ∧
        (key.partition = 0 ∨ key.partition = 1) then
      [{ customerTombstone (some 1700000000000) with partition := key.partition }]
    else []
  placed := by
    intro key message member
    split at member
    · rename_i known
      obtain rfl := List.mem_singleton.mp member
      cases key
      exact congrArg₂ TopicPartitionKey.mk known.1.symm rfl
    · cases member
  ordered := by
    intro key
    split
    · exact List.pairwise_singleton _ _
    · exact List.Pairwise.nil

/-- One of the two partitions. -/
def customerPartition (partition : Int) : TopicPartitionKey :=
  ⟨(customerTombstone none).topic, partition⟩

/-- Six seconds after the epoch. -/
def sixSeconds : Instant := ⟨Instant.epoch.micros + 6000000, by decide⟩

/-- The consumer is assigned the two partitions and receives the record of the first. -/
def quietArrival : Turn where
  began := {}
  polling := [{ client := .assigned [customerPartition 0, customerPartition 1] }, {}, {}, {},
    { client := .deliver (customerPartition 0) }]
  handling := List.replicate 10 {}
  timely := by decide

/-- Six seconds later it receives the record of the second. -/
def busyArrival : Turn where
  began := { clock := sixSeconds }
  polling := [{ clock := sixSeconds, client := .deliver (customerPartition 1) }]
  handling := List.replicate 10 { clock := sixSeconds }
  timely := by decide

/-- The queue of the quiet partition is six seconds old after the second turn, and the interval is
five. -/
theorem quiet_partition_not_flushed :
    ¬ ∀ (deployment : Deployment) (options : RunOptions) (deadline : Int) (run : List Turn)
      (turns : Nat) (world : World), 0 < deployment.settings.flushInterval →
      Throughout deployment options deadline
        (fun turn _ _ after => after.memory.batcher.NoneDue turn.began.clock)
        run turns 0 (restart deployment world) := by
  intro claimed
  have held := claimed (localDeployment twoPartitions) { dryRun := true } 0
    [quietArrival, busyArrival] 5 (newWorld (localDeployment twoPartitions) []) (by decide)
  revert held
  decide +kernel

/-- Six seconds later its poll returns nothing. -/
def quietTurn : Turn where
  began := { clock := sixSeconds }
  polling := [{ clock := sixSeconds }]
  handling := List.replicate 5 { clock := sixSeconds }
  timely := by decide

/-- An empty poll flushes the queue: both turns are completed, and no queue is due after them. -/
theorem quiet_partition_flushed_when_idle :
    Throughout (localDeployment twoPartitions) { dryRun := true } 0
        (fun turn _ _ after => after.memory.batcher.NoneDue turn.began.clock)
        [quietArrival, quietTurn] 5 0
        (restart (localDeployment twoPartitions) (newWorld (localDeployment twoPartitions) [])) ∧
      ¬ Throughout (localDeployment twoPartitions) { dryRun := true } 0
        (fun turn _ _ _ => turn.began.clock ≠ sixSeconds) [quietArrival, quietTurn] 5 0
        (restart (localDeployment twoPartitions)
          (newWorld (localDeployment twoPartitions) [])) := by
  refine ⟨?_, by decide +kernel⟩
  exact relieved_runs_flush_by_age (localDeployment twoPartitions) { dryRun := true } 0
    [quietArrival, quietTurn] 5 0 _ (by decide) (by decide +kernel)

end Cdc
