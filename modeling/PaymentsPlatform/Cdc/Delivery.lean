import PaymentsPlatform.Cdc.Durability

/-!
# Delivery

Every part of the consumer keeps the order of storing and committing, at every moment and
whatever fails. Two conditions on the environment are needed, both about the state before a step:
a heartbeat is not polled while counted records of its partition still wait in the queue, and the
client does not revoke, while it closes, a partition whose queue has an event behind a counted
record that neither is stored nor waits itself.
-/

namespace Cdc

open Python Effects

section

variable (deployment : Deployment)

/-- The counted records that wait behind a polled heartbeat are stored already. -/
def HeartbeatClear (counted : RawKafkaMessage → Prop) (choice : Choice) (world : World) : Prop :=
  ∀ key message, choice.client = .deliver key →
    nextRecord deployment.log world key = some message → IsHeartbeat deployment message →
    ∀ event ∈ world.memory.batcher.queued key, ∀ other ∈ world.delivered,
      other.topicPartition = key → other.offset = event.kafkaOffset → counted other →
      Stored deployment world other

/-- No event of a partition that is revoked by the close waits behind a counted record that
neither is stored nor waits. -/
def CloseClear (counted : RawKafkaMessage → Prop) (choice : Choice) (world : World) : Prop :=
  ∀ key ∈ closeEffect choice.client world, ∀ event ∈ world.memory.batcher.queued key,
    ∀ message ∈ world.delivered, message.topicPartition = key → counted message →
      message.offset < event.kafkaOffset → Stored deployment world message ∨
        ∃ other ∈ world.memory.batcher.queued key, other.kafkaOffset = message.offset

/-- The conditions on the environment. -/
def clear (guarded : Prop) (counted : RawKafkaMessage → Prop) :
    signature.Op → Choice → World → Prop
  | Op.poll, choice, world => guarded → HeartbeatClear deployment counted choice world
  | Op.closeConsumer, choice, world => CloseClear deployment counted choice world
  | _, _, _ => True

/-- Every run of the program takes steps of the consumer and ends as stated. -/
def Runs (guarded : Prop) (counted : RawKafkaMessage → Prop) {α : Type}
    (post : α → World → Prop) (raises : World → Prop) (program : Action α) (world : World) :
    Prop :=
  Meets (machine deployment)
    (.sequential (clear deployment guarded counted) (Step deployment guarded counted)) post
    (fun _ end' => raises end') program world

end

section

variable {deployment : Deployment} {guarded strict : Prop} {counted scope : RawKafkaMessage → Prop}
  {world : World} {raises : World → Prop}

/-! ## Rules -/

/-- Sequencing. -/
theorem Runs.seq {α β : Type} {M : α → World → Prop} {post : β → World → Prop}
    {program : Action α} {next : α → Action β}
    (first : Runs deployment guarded counted M raises program world)
    (rest : ∀ value end', M value end' →
      Runs deployment guarded counted post raises (next value) end') :
    Runs deployment guarded counted post raises (program.bind next) world :=
  Meets.bind (first.mono rest fun _ _ ended => ended)

/-- Weaker conclusions. -/
theorem Runs.weaken {α : Type} {M post : α → World → Prop} {E : World → Prop}
    {program : Action α} (first : Runs deployment guarded counted M E program world)
    (values : ∀ value end', M value end' → post value end')
    (errors : ∀ end', E end' → raises end') :
    Runs deployment guarded counted post raises program world :=
  first.mono values fun _ end' => errors end'

/-- A value. -/
theorem Runs.done {α : Type} {post : α → World → Prop} {value : α} (holds : post value world) :
    Runs deployment guarded counted post raises (.done value) world := holds

/-- An exception. -/
theorem Runs.raised {α : Type} {post : α → World → Prop} {problem : PyError}
    (holds : raises world) :
    Runs deployment guarded counted post raises (.raised problem) world := holds

/-- A cleanup after either end. -/
theorem Runs.ensure {α : Type} {M post : α → World → Prop} {E : World → Prop}
    {program : Action α} {cleanup : Action Unit}
    (first : Runs deployment guarded counted M E program world)
    (values : ∀ value end', M value end' →
      Runs deployment guarded counted (fun _ => post value) raises cleanup end')
    (errors : ∀ end', E end' →
      Runs deployment guarded counted (fun _ => raises) raises cleanup end') :
    Runs deployment guarded counted post raises (program.ensure cleanup) world :=
  Meets.ensure (first.mono values fun _ end' => errors end')

/-- An effect that does not fail. -/
theorem runs_sure (op : Op) {post : op.Answer → World → Prop} (sure : op.faults = .never)
    (each : ∀ start choice, Published deployment.sha world start →
      Step deployment guarded counted start (effect deployment op choice start).2 ∧
        ∃ answer, (effect deployment op choice start).1 = .ok answer ∧
          post answer (effect deployment op choice start).2) :
    Runs deployment guarded counted post raises (perform op) world := by
  refine Meets.request ?_
  rintro moved ⟨rfl⟩ choice -
  have published := publish_published deployment.sha world choice.published
  have acted : (machine deployment).act op choice world =
      effect deployment op choice (world.publish deployment.sha choice.published) := by
    cases failed : choice.fault with
    | none =>
      simp only [machine, failed]
      rfl
    | some fault =>
      simp only [machine, failed, sure]
      rfl
  obtain ⟨step, answer, outcome, holds⟩ := each _ choice published
  rw [acted]
  refine ⟨step.after_published published, ?_⟩
  rw [outcome]
  exact holds

/-- An effect that takes place or is refused. -/
theorem runs_refusable (op : Op) {post : op.Answer → World → Prop}
    (refusable : op.faults = .refused)
    (each : ∀ start choice, Published deployment.sha world start →
      clear deployment guarded counted op choice world →
      Step deployment guarded counted start (effect deployment op choice start).2 ∧
        ∃ answer, (effect deployment op choice start).1 = .ok answer ∧
          post answer (effect deployment op choice start).2)
    (refused : ∀ start, Published deployment.sha world start → raises start) :
    Runs deployment guarded counted post raises (perform op) world := by
  refine Meets.request ?_
  rintro moved ⟨rfl⟩ choice admitted
  have published := publish_published deployment.sha world choice.published
  obtain ⟨step, answer, outcome, holds⟩ := each _ choice published admitted
  cases failed : choice.fault with
  | none =>
    have acted : (machine deployment).act op choice world =
        effect deployment op choice (world.publish deployment.sha choice.published) := by
      simp only [machine, failed]
      rfl
    rw [acted]
    refine ⟨step.after_published published, ?_⟩
    rw [outcome]
    exact holds
  | some fault =>
    have acted : (machine deployment).act op choice world =
        (.error fault.error, world.publish deployment.sha choice.published) := by
      simp only [machine, failed, refusable]
    rw [acted]
    exact ⟨published.step, refused _ published⟩

/-- What the processor keeps, among the steps of the consumer. -/
theorem Keeps.runs {α : Type} {post : α → World → Prop} {program : Action α}
    (keeps : Keeps deployment (FromLog deployment) (Acks deployment guarded counted) post program
      world) (kept : Kept deployment guarded counted world) :
    Runs deployment guarded counted
      (fun value end' => Frame world end' ∧ Kept deployment guarded counted end' ∧
        post value end')
      (fun end' => Frame world end' ∧ Kept deployment guarded counted end') program world := by
  have tracks : Tracks
      (Processes deployment (FromLog deployment) (Acks deployment guarded counted))
      fun before after => Later deployment (FromLog deployment) before after ∧
        (Kept deployment guarded counted before → Kept deployment guarded counted after) := {
    refl := fun world => ⟨Later.refl world, id⟩
    trans := fun one two => ⟨one.1.trans two.1, fun start => two.2 (one.2 start)⟩
    step := fun processes => ⟨processes.later, processes.step.kept⟩ }
  refine ((Meets.along tracks keeps).mono ?_ ?_).transfer (fun _ _ _ _ => trivial)
    (fun _ _ same => same) fun _ _ processes => processes.step
  · rintro value end' ⟨⟨later, keep⟩, holds⟩
    exact ⟨later.frame, keep kept, holds⟩
  · rintro problem end' ⟨⟨later, keep⟩, -⟩
    exact ⟨later.frame, keep kept⟩

/-! ## The memory of the process -/

/-- Everything but the memory and the store is as it was. -/
structure Beside (before after : World) : Prop where
  /-- The positions. -/
  positions : after.positions = before.positions
  /-- The records. -/
  delivered : after.delivered = before.delivered
  /-- Nothing durable is lost. -/
  advances : Advances before after

/-- What happened adds up. -/
theorem Beside.trans {first second third : World} (one : Beside first second)
    (two : Beside second third) : Beside first third :=
  ⟨two.positions.trans one.positions, two.delivered.trans one.delivered,
    one.advances.trans two.advances⟩

/-- A frame is beside. -/
theorem Frame.beside {before after : World} (frame : Frame before after) : Beside before after :=
  ⟨frame.positions, frame.delivered, frame.advances⟩

/-- Publications only add objects. -/
theorem Published.frame {before after : World}
    (published : Published deployment.sha before after) : Frame before after :=
  Later.frame (published.later : Later deployment (FromLog deployment) before after)

/-- Publications keep the memory. -/
theorem Published.memory {sha : Sha256} {before after : World}
    (published : Published sha before after) : after.memory = before.memory := by
  obtain ⟨objects, rfl⟩ := published.same
  rfl

/-- A world with other memory, positions and stop flag. -/
theorem step_process {start : World} (memory : ConsumerMemory)
    (positions : TopicPartitionKey → Option Int) (stopSet : Bool)
    (bound : guarded → Kept deployment guarded counted start → ∀ key next position,
      start.committed key = some next → positions key = some position → next ≤ position) :
    Step deployment guarded counted start { start with memory, positions, stopSet } := by
  refine ⟨?_, ?_⟩
  · intro kept
    refine ⟨⟨kept.sound.honest, kept.sound.ranged, kept.sound.durable, kept.sound.acknowledged⟩,
      kept.delivered, ?_⟩
    intro guard key next committed
    obtain ⟨covered, -⟩ := kept.acked guard key next committed
    exact ⟨covered, fun position known => bound guard kept key next position committed known⟩
  · intro _ key next added
    exact absurd added (List.ne_cons_self)

/-- Such a world holds the same durable things. -/
theorem advances_process (start : World) (memory : ConsumerMemory)
    (positions : TopicPartitionKey → Option Int) (stopSet : Bool) :
    Advances start { start with memory, positions, stopSet } :=
  ⟨fun _ file found => ⟨file, found, rfl, fun _ same => same⟩,
    fun _ record found => ⟨record, found, RowKept.refl record⟩, List.suffix_refl _⟩

/-- The same positions are as good as before. -/
theorem positions_bound {start : World} (guard : guarded)
    (kept : Kept deployment guarded counted start) (key : TopicPartitionKey) (next position : Int)
    (committed : start.committed key = some next) (known : start.positions key = some position) :
    next ≤ position :=
  (kept.acked guard key next committed).2 position known

/-- An effect that only reads. -/
theorem runs_read (op : Op) {P : op.Answer → Prop} (sure : op.faults = .never)
    (still : ∀ choice start, (effect deployment op choice start).2 = start)
    (answers : ∀ start choice, Published deployment.sha world start →
      ∃ answer, (effect deployment op choice start).1 = .ok answer ∧ P answer)
    (kept : Kept deployment guarded counted world) :
    Runs deployment guarded counted (fun answer end' => Frame world end' ∧
      Kept deployment guarded counted end' ∧ end'.memory = world.memory ∧ P answer) raises
      (perform op) world := by
  refine runs_sure op sure fun start choice published => ?_
  obtain ⟨answer, outcome, holds⟩ := answers start choice published
  rw [still]
  have first : Step deployment guarded counted world start := published.step
  exact ⟨⟨id, fun _ _ _ added => absurd added List.ne_cons_self⟩, answer, outcome,
    published.frame, first.kept kept, published.memory, holds⟩

/-- Reading the memory. -/
theorem loadMemory_runs (kept : Kept deployment guarded counted world) :
    Runs deployment guarded counted (fun memory end' => Frame world end' ∧
      Kept deployment guarded counted end' ∧ end'.memory = world.memory ∧
      memory = world.memory) raises loadMemory world :=
  runs_read .load rfl (fun _ _ => rfl)
    (fun start _ published => ⟨start.memory, rfl, published.memory⟩) kept

/-- Reading the clock. -/
theorem readClock_runs (kept : Kept deployment guarded counted world) :
    Runs deployment guarded counted (fun _ end' => Frame world end' ∧
      Kept deployment guarded counted end' ∧ end'.memory = world.memory) raises readClock
      world :=
  Runs.weaken (runs_read .now (P := fun _ => True) rfl (fun _ _ => rfl)
    (fun _ choice _ => ⟨choice.clock, rfl, trivial⟩) kept)
    (fun _ _ ends => ⟨ends.1, ends.2.1, ends.2.2.1⟩) fun _ ended => ended

/-- Reading the monotonic clock. -/
theorem readMonotonic_runs (kept : Kept deployment guarded counted world) :
    Runs deployment guarded counted (fun _ end' => Frame world end' ∧
      Kept deployment guarded counted end' ∧ end'.memory = world.memory) raises readMonotonic
      world :=
  Runs.weaken (runs_read .monotonic (P := fun _ => True) rfl (fun _ _ => rfl)
    (fun _ choice _ => ⟨choice.monotonic, rfl, trivial⟩) kept)
    (fun _ _ ends => ⟨ends.1, ends.2.1, ends.2.2.1⟩) fun _ ended => ended

/-- Reading the stop flag. -/
theorem stopRequested_runs (kept : Kept deployment guarded counted world) :
    Runs deployment guarded counted (fun _ end' => Frame world end' ∧
      Kept deployment guarded counted end') raises stopRequested world := by
  refine runs_sure .stopIsSet rfl fun start choice published => ?_
  have first : Step deployment guarded counted world start := published.step
  have step : Step deployment guarded counted start
      { start with stopSet := start.stopSet || choice.stop } :=
    step_process start.memory start.positions _ positions_bound
  refine ⟨step, _, rfl, ?_, step.kept (first.kept kept)⟩
  exact published.frame.trans ⟨rfl, rfl, rfl, rfl, advances_process start _ _ _⟩

/-- Writing the memory. -/
theorem saveMemory_runs (memory : ConsumerMemory) (kept : Kept deployment guarded counted world) :
    Runs deployment guarded counted (fun _ end' => Beside world end' ∧
      Kept deployment guarded counted end' ∧ end'.memory = memory) raises (saveMemory memory)
      world := by
  refine runs_sure (.save memory) rfl fun start choice published => ?_
  have first : Step deployment guarded counted world start := published.step
  have step : Step deployment guarded counted start { start with memory } :=
    step_process memory start.positions start.stopSet positions_bound
  refine ⟨step, (), rfl, ?_, step.kept (first.kept kept), rfl⟩
  exact published.frame.beside.trans ⟨rfl, rfl, advances_process start _ _ _⟩

/-- Reading the memory and writing a change of it. -/
theorem changeMemory_runs (change : ConsumerMemory → ConsumerMemory)
    (kept : Kept deployment guarded counted world) :
    Runs deployment guarded counted (fun _ end' => Beside world end' ∧
      Kept deployment guarded counted end' ∧ end'.memory = change world.memory) raises
      (loadMemory.bind fun memory => saveMemory (change memory)) world := by
  refine Runs.seq (loadMemory_runs kept) ?_
  rintro _ read ⟨frame, kept', -, rfl⟩
  refine Runs.weaken (saveMemory_runs _ kept') ?_ fun _ ended => ended
  rintro _ end' ⟨beside, kept'', memory⟩
  exact ⟨frame.beside.trans beside, kept'', memory⟩

/-- Counting. -/
theorem count_runs (change : Counters → Counters) (kept : Kept deployment guarded counted world) :
    Runs deployment guarded counted (fun _ end' => Frame world end' ∧
      Kept deployment guarded counted end') raises (count change) world := by
  refine Runs.weaken (changeMemory_runs _ kept) ?_ fun _ ended => ended
  rintro _ end' ⟨beside, kept', memory⟩
  exact ⟨⟨by rw [memory], by rw [memory], beside.positions, beside.delivered, beside.advances⟩,
    kept'⟩

/-- An operation of the batcher that does not raise. -/
theorem cut_runs {operation : PartitionBatcher → Instant →
      Except PyError (List CdcBatch) × PartitionBatcher}
    {R : PartitionBatcher → List CdcBatch → PartitionBatcher → Prop}
    (total : ∀ now, ∃ batches after, operation world.memory.batcher now = (.ok batches, after) ∧
      R world.memory.batcher batches after) (kept : Kept deployment guarded counted world) :
    Runs deployment guarded counted (fun batches end' => Beside world end' ∧
      Kept deployment guarded counted end' ∧ end'.memory.fatal = world.memory.fatal ∧
      R world.memory.batcher batches end'.memory.batcher) raises (cut operation) world := by
  refine Runs.seq (readClock_runs kept) ?_
  rintro now clock ⟨frame, kept', memory⟩
  refine Runs.seq (loadMemory_runs kept') ?_
  rintro _ loaded ⟨frame', kept'', -, rfl⟩
  obtain ⟨batches, after, outcome, related⟩ := total now
  rw [memory, outcome]
  refine Runs.seq (saveMemory_runs _ kept'') ?_
  rintro _ end' ⟨beside, kept''', saved⟩
  refine Runs.done ⟨(frame.trans frame').beside.trans beside, kept''', ?_, ?_⟩
  · rw [saved]
  · rw [saved]
    exact related

/-! ## Batches -/

/-- Events of the log can be identified. -/
theorem Lined.identified {batcher : PartitionBatcher}
    (lined : Lined deployment guarded strict scope batcher.queued world) :
    batcher.Identified := by
  intro key event member
  obtain ⟨message, -, observedAt, today, parsed⟩ := lined.parsed key event member
  exact parse_identified parsed

/-- The queues of a world whose records may be in any state. -/
structure Queues (deployment : Deployment) (guarded : Prop) (counted : RawKafkaMessage → Prop)
    (world : World) : Prop where
  /-- What holds at every moment. -/
  kept : Kept deployment guarded counted world
  /-- The queues hold events of the log. -/
  lined : Lined deployment guarded False (fun _ => False) world.memory.batcher.queued world

/-- Untouched queues stay. -/
theorem Queues.frame {after : World} (queues : Queues deployment guarded counted world)
    (frame : Frame world after) (kept : Kept deployment guarded counted after) :
    Queues deployment guarded counted after := by
  refine ⟨kept, ?_⟩
  rw [frame.batcher]
  exact queues.lined.frame frame.positions frame.delivered frame.advances

/-- The queues behind batches at hand. -/
theorem Pending.queues {batches : List CdcBatch}
    (pending : Pending deployment guarded strict counted scope batches world) :
    Queues deployment guarded counted world := by
  refine ⟨pending.kept, ?_, fun no => no.elim, fun no => no.elim, ?_⟩
  · intro key event member
    exact pending.lined.parsed key event (List.mem_append_right _ member)
  · intro guard key event member
    exact pending.lined.ahead guard key event (List.mem_append_right _ member)

/-- The time that passed before is added. -/
theorem Runs.since {α : Type} {M : α → World → Prop} {program : Action α} {start : World}
    (frame : Frame start world)
    (later : Runs deployment guarded counted (fun value end' => Frame world end' ∧ M value end')
      (fun end' => Frame world end' ∧ Kept deployment guarded counted end') program world) :
    Runs deployment guarded counted (fun value end' => Frame start end' ∧ M value end')
      (fun end' => Frame start end' ∧ Kept deployment guarded counted end') program world :=
  Runs.weaken later (fun _ _ ends => ⟨frame.trans ends.1, ends.2⟩)
    fun _ ended => ⟨frame.trans ended.1, ended.2⟩

/-- `_flush_batches` of a dry run only counts. -/
theorem flushBatches_dry (batches : List CdcBatch) (kept : Kept deployment guarded counted world) :
    Runs deployment guarded counted
      (fun _ end' => Frame world end' ∧ Kept deployment guarded counted end')
      (fun end' => Frame world end' ∧ Kept deployment guarded counted end')
      (flushBatches deployment true batches) world := by
  induction batches generalizing world with
  | nil => exact Runs.done ⟨Frame.refl world, kept⟩
  | cons batch batches ih =>
    refine Runs.seq (count_runs _ kept) ?_
    rintro _ end' ⟨frame, kept'⟩
    exact Runs.since frame (ih kept')

/-- `_flush_batches` processes the batches in order; when it raises, the queues are as they
were. -/
theorem flushBatches_live (batches : List CdcBatch)
    (isGuarded : guarded → strict) (isFatal : world.memory.fatal = true → strict)
    (pending : Pending deployment guarded strict counted scope batches world) :
    Runs deployment guarded counted
      (fun _ end' => Frame world end' ∧
        Pending deployment guarded strict counted scope [] end')
      (fun end' => Frame world end' ∧ Kept deployment guarded counted end')
      (flushBatches deployment false batches) world := by
  induction batches generalizing world with
  | nil => exact Runs.done ⟨Frame.refl world, pending⟩
  | cons batch batches ih =>
    refine Runs.seq (count_runs _ pending.kept) ?_
    rintro _ start ⟨frame, kept⟩
    have pending' := pending.frame frame kept
    have isFatal' : start.memory.fatal = true → strict := by
      rw [frame.fatal]
      exact isFatal
    have processing := Keeps.runs (process_keeps kept.sound pending'.fromLog
      fun end' later sound durable =>
        pending'.acks isGuarded isFatal' later.frame sound durable) kept
    refine Runs.seq (Runs.weaken processing (fun _ _ ends => ends)
      fun _ ended => ⟨frame.trans ended.1, ended.2⟩) ?_
    rintro _ processed ⟨frame', kept', durable, -⟩
    have pending'' := pending'.next frame' kept' durable
    refine Runs.seq (count_runs _ kept') ?_
    rintro _ end' ⟨frame'', kept''⟩
    have since := frame.trans (frame'.trans frame'')
    refine Runs.since since (ih ?_ (pending''.frame frame'' kept''))
    rw [since.fatal]
    exact isFatal

/-- `_flush_batches`, whatever the mode: the records in scope are stored or still queued, unless
the run is dry. -/
theorem flushBatches_runs (dryRun : Bool) (batches : List CdcBatch)
    (isGuarded : guarded → strict) (isFatal : world.memory.fatal = true → strict)
    (pending : Pending deployment guarded strict counted scope batches world) :
    Runs deployment guarded counted
      (fun _ end' => Frame world end' ∧ Kept deployment guarded counted end' ∧
        Lined deployment guarded (strict ∧ dryRun = false) scope end'.memory.batcher.queued end')
      (fun end' => Frame world end' ∧ Kept deployment guarded counted end')
      (flushBatches deployment dryRun batches) world := by
  cases dryRun with
  | true =>
    refine Runs.weaken (flushBatches_dry batches pending.kept) ?_ fun _ ended => ended
    rintro _ end' ⟨frame, kept⟩
    exact ⟨frame, kept, (pending.queues.frame frame kept).lined.relax (fun no => nomatch no.2)
      fun no => nomatch no.2⟩
  | false =>
    refine Runs.weaken (flushBatches_live batches isGuarded isFatal pending) ?_
      fun _ ended => ended
    rintro _ end' ⟨frame, done⟩
    exact ⟨frame, done.kept, done.lined.relax And.left fun _ _ inScope => inScope⟩

/-- An event of a batch was waiting before the cut. -/
theorem cuts_mem {before after : PartitionBatcher}
    {added : TopicPartitionKey → List BronzeEvent} {batches : List CdcBatch}
    (cuts : PartitionBatcher.Cuts before after added batches) {batch : CdcBatch}
    (member : batch ∈ batches) {event : BronzeEvent} (inside : event ∈ batch.events) :
    event ∈ before.queued batch.topicPartition ++ added batch.topicPartition := by
  rw [cuts.conserved]
  refine List.mem_append_left _ (List.mem_flatMap.mpr ⟨batch, ?_, inside⟩)
  simp [member]

/-- After a cut the batches are at hand. -/
theorem pending_of_cuts {end' : World} {added : TopicPartitionKey → List BronzeEvent}
    {batches : List CdcBatch} (kept : Kept deployment guarded counted end')
    (beside : Beside world end')
    (cuts : PartitionBatcher.Cuts world.memory.batcher end'.memory.batcher added batches)
    (lined : Lined deployment guarded strict scope
      (fun key => world.memory.batcher.queued key ++ added key) world)
    (reach : strict → ∀ batch ∈ batches, ∀ message ∈ world.delivered,
      message.topicPartition = batch.topicPartition → counted message →
      message.offset ≤ batch.offsetEnd → scope message) :
    Pending deployment guarded strict counted scope batches end' := by
  have whole : line batches end' = fun key => world.memory.batcher.queued key ++ added key := by
    funext key
    exact (cuts.conserved key).symm
  refine ⟨kept, cuts.contiguous, ?_, ?_⟩
  · rw [whole]
    exact lined.frame beside.positions beside.delivered beside.advances
  · rw [beside.delivered]
    exact reach

/-! ## Rebalances -/

/-- Queues that were emptied for some partitions, and nothing else. -/
structure Emptied (deployment : Deployment) (guarded : Prop) (counted : RawKafkaMessage → Prop)
    (keys : List TopicPartitionKey) (before after : World) : Prop where
  /-- Only memory and store changed. -/
  beside : Beside before after
  /-- What holds at every moment. -/
  kept : Kept deployment guarded counted after
  /-- The fatal flag. -/
  fatal : after.memory.fatal = before.memory.fatal
  /-- The queues. -/
  queued : ∀ key, after.memory.batcher.queued key =
    if key ∈ keys then [] else before.memory.batcher.queued key

/-- Emptied queues hold events of the log. -/
theorem Emptied.queues {keys : List TopicPartitionKey} {after : World}
    (emptied : Emptied deployment guarded counted keys world after)
    (queues : Queues deployment guarded counted world) :
    Queues deployment guarded counted after := by
  have inside : ∀ key, ∀ event ∈ after.memory.batcher.queued key,
      event ∈ world.memory.batcher.queued key := by
    intro key event member
    rw [emptied.queued] at member
    split at member
    · cases member
    · exact member
  refine ⟨emptied.kept, ?_, fun no => no.elim, fun no => no.elim, ?_⟩
  · intro key event member
    exact queues.lined.parsed key event (inside key event member)
  · intro guard key event member
    rw [emptied.beside.positions]
    exact queues.lined.ahead guard key event (inside key event member)

/-- `_on_revoke` empties the queues of the partitions, even when it raises. -/
theorem onRevoke_runs (dryRun : Bool) (keys : List TopicPartitionKey)
    (isGuarded : guarded → strict) (isFatal : world.memory.fatal = true → strict)
    (kept : Kept deployment guarded counted world)
    (lined : Lined deployment guarded strict scope world.memory.batcher.queued world)
    (reach : strict → ∀ key ∈ keys, ∀ event ∈ world.memory.batcher.queued key,
      ∀ message ∈ world.delivered, message.topicPartition = key → counted message →
      message.offset ≤ event.kafkaOffset → scope message) :
    Runs deployment guarded counted
      (fun _ end' => Emptied deployment guarded counted keys world end' ∧
        Lined deployment guarded (strict ∧ dryRun = false) scope end'.memory.batcher.queued end')
      (Emptied deployment guarded counted keys world) (onRevoke deployment dryRun keys) world := by
  refine Runs.seq (cut_runs (R := fun before batches after =>
    PartitionBatcher.Cuts before after PartitionBatcher.nothing batches ∧
      ∀ key, after.queued key = if key ∈ keys then [] else before.queued key) ?_ kept) ?_
  · intro now
    obtain ⟨batches, after, outcome, cuts, emptied, -⟩ :=
      PartitionBatcher.flushPartitions_cuts deployment.sha now keys _ lined.identified
    exact ⟨batches, after, outcome, cuts, emptied⟩
  · rintro batches start ⟨beside, kept', fatal, cuts, emptied⟩
    have pending : Pending deployment guarded strict counted scope batches start := by
      refine pending_of_cuts kept' beside cuts ?_ ?_
      · simpa [PartitionBatcher.nothing] using lined
      · intro isStrict batch member message delivered home counts upTo
        obtain ⟨last, inside, ends⟩ := (cuts.contiguous batch member).last
        have waited := cuts_mem cuts member inside
        simp only [PartitionBatcher.nothing, List.append_nil] at waited
        have revoked : batch.topicPartition ∈ keys := by
          by_contra absent
          have conserved := cuts.conserved batch.topicPartition
          rw [emptied, if_neg absent, PartitionBatcher.nothing, List.append_nil] at conserved
          have none := List.append_left_eq_self.mp conserved.symm
          have here : last ∈ (batches.filter fun other =>
              other.topicPartition = batch.topicPartition).flatMap CdcBatch.events :=
            List.mem_flatMap.mpr ⟨batch, by simp [member], inside⟩
          rw [none] at here
          cases here
        exact reach isStrict _ revoked last waited message delivered home counts
          (by rw [ends]; exact upTo)
    have isFatal' : start.memory.fatal = true → strict := by
      rw [fatal]
      exact isFatal
    have after : ∀ end', Frame start end' → Kept deployment guarded counted end' →
        Emptied deployment guarded counted keys world end' := by
      intro end' frame kept''
      exact ⟨beside.trans frame.beside, kept'', frame.fatal.trans fatal,
        by rw [frame.batcher]; exact emptied⟩
    refine Runs.weaken (flushBatches_runs dryRun batches isGuarded isFatal' pending) ?_ ?_
    · rintro _ end' ⟨frame, kept'', lined'⟩
      exact ⟨after end' frame kept'', lined'⟩
    · rintro end' ⟨frame, kept''⟩
      exact after end' frame kept''

/-- Waiting events stay in order with other positions, when those are known. -/
theorem Lined.reposition {before after : World} {waiting : TopicPartitionKey → List BronzeEvent}
    (lined : Lined deployment guarded strict scope waiting before)
    (delivered : after.delivered = before.delivered) (advances : Advances before after)
    (ahead : guarded → ∀ key, ∀ event ∈ waiting key, ∃ position,
      after.positions key = some position ∧ event.kafkaOffset < position) :
    Lined deployment guarded strict scope waiting after where
  parsed := lined.parsed
  sorted := lined.sorted
  covered := by
    intro isStrict message member inScope
    rw [delivered] at member
    exact (lined.covered isStrict message member inScope).imp_left
      fun stored => stored.later advances
  ahead := ahead

/-- The positions of a world after a rebalance. -/
structure Moved (deployment : Deployment) (guarded : Prop) (counted : RawKafkaMessage → Prop)
    (keys : List TopicPartitionKey) (before after : World) : Prop where
  /-- The memory stays. -/
  memory : after.memory = before.memory
  /-- The records stay. -/
  delivered : after.delivered = before.delivered
  /-- Nothing durable is lost. -/
  advances : Advances before after
  /-- The other positions stay. -/
  positions : ∀ key, key ∉ keys → after.positions key = before.positions key
  /-- What holds at every moment. -/
  kept : Kept deployment guarded counted after

/-- Partitions without waiting events may move. -/
theorem Moved.lined {keys : List TopicPartitionKey} {before after : World}
    (moved : Moved deployment guarded counted keys before after)
    (empty : guarded → ∀ key ∈ keys, before.memory.batcher.queued key = [])
    (lined : Lined deployment guarded strict scope before.memory.batcher.queued before) :
    Lined deployment guarded strict scope after.memory.batcher.queued after := by
  rw [moved.memory]
  refine lined.reposition moved.delivered moved.advances ?_
  intro guard key event member
  have elsewhere : key ∉ keys := by
    intro inside
    rw [empty guard key inside] at member
    cases member
  rw [moved.positions key elsewhere]
  exact lined.ahead guard key event member

/-- The client gives partitions up. -/
theorem unassign_runs (keys : List TopicPartitionKey)
    (kept : Kept deployment guarded counted world) :
    Runs deployment guarded counted (fun _ => Moved deployment guarded counted keys world) raises
      (perform (.unassignPartitions keys)) world := by
  refine runs_sure (.unassignPartitions keys) rfl fun start choice published => ?_
  have first : Step deployment guarded counted world start := published.step
  have frame : Frame world start := published.frame
  have step : Step deployment guarded counted start { start with
      positions := fun key => if key ∈ keys then none else start.positions key } := by
    refine step_process start.memory _ start.stopSet ?_
    intro guard kept' key next position committed known
    split at known
    · cases known
    · exact positions_bound guard kept' key next position committed known
  refine ⟨step, (), rfl, published.memory, frame.delivered,
    frame.advances.trans (advances_process start _ _ _), ?_, step.kept (first.kept kept)⟩
  intro key elsewhere
  change (if key ∈ keys then none else start.positions key) = _
  rw [if_neg elsewhere, frame.positions]

/-- The client starts fetching partitions at their committed offsets. -/
theorem assign_runs (keys : List TopicPartitionKey) (kept : Kept deployment guarded counted world) :
    Runs deployment guarded counted (fun _ => Moved deployment guarded counted keys world) raises
      (perform (.assignPartitions keys)) world := by
  refine runs_sure (.assignPartitions keys) rfl fun start choice published => ?_
  have first : Step deployment guarded counted world start := published.step
  have frame : Frame world start := published.frame
  have step : Step deployment guarded counted start { start with
      positions := fun key =>
        if key ∈ keys then some ((start.committed key).getD (choice.start key))
        else start.positions key } := by
    refine step_process start.memory _ start.stopSet ?_
    intro guard kept' key next position committed known
    split at known
    · rw [committed, Option.getD_some, Option.some.injEq] at known
      exact Int.le_of_eq known
    · exact positions_bound guard kept' key next position committed known
  refine ⟨step, (), rfl, published.memory, frame.delivered,
    frame.advances.trans (advances_process start _ _ _), ?_, step.kept (first.kept kept)⟩
  intro key elsewhere
  change (if key ∈ keys then _ else start.positions key) = _
  rw [if_neg elsewhere, frame.positions]

/-! ## The loop -/

/-- The consumer between two records: every counted record is stored or queued. -/
structure Running (deployment : Deployment) (guarded : Prop) (counted : RawKafkaMessage → Prop)
    (world : World) : Prop where
  /-- What holds at every moment. -/
  kept : Kept deployment guarded counted world
  /-- No fatal error yet. -/
  fatal : world.memory.fatal = false
  /-- The queues. -/
  lined : Lined deployment guarded guarded counted world.memory.batcher.queued world

/-- The consumer with one record in hand. -/
structure Handling (deployment : Deployment) (guarded : Prop) (counted : RawKafkaMessage → Prop)
    (message : RawKafkaMessage) (world : World) : Prop where
  /-- What holds at every moment. -/
  kept : Kept deployment guarded counted world
  /-- No fatal error yet. -/
  fatal : world.memory.fatal = false
  /-- The record was delivered. -/
  delivered : message ∈ world.delivered
  /-- Every other counted record is stored or queued. -/
  lined : Lined deployment guarded guarded (fun other => counted other ∧ other ≠ message)
    world.memory.batcher.queued world
  /-- The client is right behind the record. -/
  position : guarded → world.positions message.topicPartition = some (message.offset + 1)
  /-- The queue of its partition is before it. -/
  behind : guarded → ∀ event ∈ world.memory.batcher.queued message.topicPartition,
    event.kafkaOffset < message.offset
  /-- Behind a heartbeat every counted record is stored. -/
  clear : guarded → IsHeartbeat deployment message → ∀ other ∈ world.delivered,
    other.topicPartition = message.topicPartition → counted other → other ≠ message →
    Stored deployment world other

/-- The queues of a running consumer. -/
theorem Running.queues (running : Running deployment guarded counted world) :
    Queues deployment guarded counted world :=
  ⟨running.kept, running.lined.relax False.elim fun no => no.elim⟩

/-- The queues with a record in hand. -/
theorem Handling.queues {message : RawKafkaMessage}
    (handling : Handling deployment guarded counted message world) :
    Queues deployment guarded counted world :=
  ⟨handling.kept, handling.lined.relax False.elim fun no => no.elim⟩

/-- A running consumer that was not touched. -/
theorem Running.frame {after : World} (running : Running deployment guarded counted world)
    (frame : Frame world after) (kept : Kept deployment guarded counted after) :
    Running deployment guarded counted after := by
  refine ⟨kept, frame.fatal.trans running.fatal, ?_⟩
  rw [frame.batcher]
  exact running.lined.frame frame.positions frame.delivered frame.advances

/-- A consumer with a record in hand that was not touched. -/
theorem Handling.frame {message : RawKafkaMessage} {after : World}
    (handling : Handling deployment guarded counted message world)
    (frame : Frame world after) (kept : Kept deployment guarded counted after) :
    Handling deployment guarded counted message after where
  kept := kept
  fatal := frame.fatal.trans handling.fatal
  delivered := by
    rw [frame.delivered]
    exact handling.delivered
  lined := by
    rw [frame.batcher]
    exact handling.lined.frame frame.positions frame.delivered frame.advances
  position := by
    rw [frame.positions]
    exact handling.position
  behind := by
    rw [frame.batcher]
    exact handling.behind
  clear := by
    intro guard beat other member home counts different
    rw [frame.delivered] at member
    exact (handling.clear guard beat other member home counts different).later frame.advances

/-- What a poll leaves behind its answer. -/
def Served (deployment : Deployment) (guarded : Prop) (counted : RawKafkaMessage → Prop) :
    PollAnswer → World → Prop
  | .message message, world => Handling deployment guarded counted message world
  | .assigned keys, world => Running deployment guarded counted world ∧
      ∀ key ∈ keys, world.positions key = none
  | _, world => Running deployment guarded counted world

/-- A delivered record is at or behind the position of the client, in the log. -/
theorem nextRecord_spec {log : KafkaLog} {key : TopicPartitionKey} {message : RawKafkaMessage}
    (next : nextRecord log world key = some message) :
    ∃ position, world.positions key = some position ∧ position ≤ message.offset ∧
      message ∈ log.records key ∧ message.topicPartition = key := by
  unfold nextRecord at next
  obtain ⟨position, known, found⟩ := Option.bind_eq_some_iff.mp next
  have member := List.mem_of_find?_eq_some found
  exact ⟨position, known, by simpa using List.find?_some found, member,
    log.placed key message member⟩

/-- A delivered record is in hand. -/
theorem deliver_handling {start : World} {choice : Choice} {key : TopicPartitionKey}
    {message : RawKafkaMessage} (running : Running deployment guarded counted start)
    (delivers : choice.client = .deliver key)
    (next : nextRecord deployment.log start key = some message)
    (heartbeat : guarded → HeartbeatClear deployment counted choice start) :
    Step deployment guarded counted start { start with
        positions := Function.update start.positions key (some (message.offset + 1))
        delivered := message :: start.delivered } ∧
      Handling deployment guarded counted message { start with
        positions := Function.update start.positions key (some (message.offset + 1))
        delivered := message :: start.delivered } := by
  obtain ⟨position, known, bound, logged, home⟩ := nextRecord_spec next
  have advances : Advances start { start with
      positions := Function.update start.positions key (some (message.offset + 1))
      delivered := message :: start.delivered } :=
    ⟨fun _ file found => ⟨file, found, rfl, fun _ same => same⟩,
      fun _ record found => ⟨record, found, RowKept.refl record⟩, List.suffix_refl _⟩
  have kept : Kept deployment guarded counted start → Kept deployment guarded counted { start with
      positions := Function.update start.positions key (some (message.offset + 1))
      delivered := message :: start.delivered } := by
    intro kept
    refine ⟨⟨kept.sound.honest, kept.sound.ranged, kept.sound.durable, kept.sound.acknowledged⟩,
      ?_, ?_⟩
    · intro other member
      rcases List.mem_cons.mp member with rfl | old
      · rw [home]
        exact logged
      · exact kept.delivered other old
    · intro guard key' next' committed
      obtain ⟨covered, ahead⟩ := kept.acked guard key' next' committed
      refine ⟨?_, ?_⟩
      · intro other member home' counts below
        rcases List.mem_cons.mp member with rfl | old
        · -- A new record is not below an offset that is not ahead of the client.
          rw [home] at home'
          subst home'
          have := ahead position known
          omega
        · exact (covered other old home' counts below).later advances
      · intro position' known'
        by_cases here : key' = key
        · subst here
          simp only [Function.update_self, Option.some.injEq] at known'
          have := ahead position known
          omega
        · simp only [Function.update_of_ne here] at known'
          exact ahead position' known'
  have behind : guarded → ∀ event ∈ start.memory.batcher.queued key,
      event.kafkaOffset < message.offset := by
    intro guard event member
    obtain ⟨position', known', below⟩ := running.lined.ahead guard key event member
    obtain rfl := Option.some.inj (known.symm.trans known')
    omega
  refine ⟨⟨kept, fun _ _ _ added => absurd added List.ne_cons_self⟩, ?_⟩
  refine ⟨kept running.kept, running.fatal, List.mem_cons_self .., ⟨running.lined.parsed,
    running.lined.sorted, ?_, ?_⟩, ?_, ?_, ?_⟩
  · intro guard other member inScope
    have old := (List.mem_cons.mp member).resolve_left inScope.2
    exact (running.lined.covered guard other old inScope.1).imp_left
      fun stored => stored.later advances
  · intro guard key' event member
    obtain ⟨position', known', below⟩ := running.lined.ahead guard key' event member
    by_cases here : key' = key
    · subst here
      have := behind guard event member
      exact ⟨message.offset + 1, Function.update_self .., by omega⟩
    · exact ⟨position', (Function.update_of_ne here ..).trans known', below⟩
  · intro _
    rw [home]
    exact Function.update_self ..
  · rw [home]
    exact behind
  · intro guard beat other member home' counts different
    have old := (List.mem_cons.mp member).resolve_left different
    rw [home] at home'
    rcases running.lined.covered guard other old counts with stored | ⟨event, waits, same⟩
    · exact stored.later advances
    · rw [home'] at waits
      exact (heartbeat guard key message delivers next beat event waits other old home'
        same.symm counts).later advances

/-- The condition on heartbeats after publications. -/
theorem HeartbeatClear.published {choice : Choice} {start : World}
    (heartbeat : HeartbeatClear deployment counted choice world)
    (published : Published deployment.sha world start) :
    HeartbeatClear deployment counted choice start := by
  have frame : Frame world start := published.frame
  obtain ⟨objects, rfl⟩ := published.same
  intro key message delivers next beat event waits other member home same counts
  exact (heartbeat key message delivers next beat event waits other member home same
    counts).later frame.advances

/-- A poll. -/
theorem serve_runs (running : Running deployment guarded counted world) :
    Runs deployment guarded counted (Served deployment guarded counted)
      (Queues deployment guarded counted) serve world := by
  refine runs_refusable .poll rfl ?_ ?_
  · intro start choice published heartbeat
    have first : Step deployment guarded counted world start := published.step
    have running' : Running deployment guarded counted start :=
      running.frame published.frame (first.kept running.kept)
    have still : Step deployment guarded counted start start :=
      ⟨id, fun _ _ _ added => absurd added List.ne_cons_self⟩
    simp only [effect, pollEffect]
    cases client : choice.client with
    | quiet => exact ⟨still, _, rfl, running'⟩
    | endOfPartition => exact ⟨still, _, rfl, running'⟩
    | failed error => exact ⟨still, _, rfl, running'⟩
    | assigned keys =>
      refine ⟨still, _, rfl, running', ?_⟩
      intro key member
      simpa using (List.mem_filter.mp member).2
    | revoked keys => exact ⟨still, _, rfl, running'⟩
    | deliver key =>
      simp only
      cases next : nextRecord deployment.log start key with
      | none => exact ⟨still, _, rfl, running'⟩
      | some message =>
        obtain ⟨step, handling⟩ := deliver_handling running' client next
          fun guard => (heartbeat guard).published published
        exact ⟨step, _, rfl, handling⟩
  · intro start published
    have first : Step deployment guarded counted world start := published.step
    exact running.queues.frame published.frame (first.kept running.kept)

/-- `_on_assign`. -/
theorem onAssign_runs (dryRun : Bool) (keys : List TopicPartitionKey)
    (kept : Kept deployment guarded counted world) :
    Runs deployment guarded counted
      (fun _ end' => Frame world end' ∧ Kept deployment guarded counted end')
      (fun end' => Frame world end' ∧ Kept deployment guarded counted end')
      (onAssign deployment dryRun keys) world := by
  refine Runs.seq (loadMemory_runs kept) ?_
  rintro _ read ⟨frame, kept', -, rfl⟩
  refine Runs.seq (saveMemory_runs _ kept') ?_
  rintro _ saved ⟨beside, kept'', memory⟩
  have both := frame.beside.trans beside
  have frame' : Frame world saved :=
    ⟨by rw [memory], by rw [memory], both.positions, both.delivered, both.advances⟩
  split
  · exact Runs.done ⟨frame', kept''⟩
  · refine Runs.since frame' (Runs.weaken
      (Keeps.runs (reconcileAssigned_keeps kept''.sound keys) kept'') ?_ fun _ ended => ended)
    rintro _ end' ⟨frame'', kept''', -⟩
    exact ⟨frame'', kept'''⟩

/-- What a whole poll leaves behind its answer. -/
def PolledFrom (deployment : Deployment) (guarded : Prop) (counted : RawKafkaMessage → Prop) :
    Polled → World → Prop
  | .message message, world => Handling deployment guarded counted message world
  | _, world => Running deployment guarded counted world

/-- A partition the client does not have has no queue. -/
theorem Running.unassigned {key : TopicPartitionKey}
    (running : Running deployment guarded counted world) (guard : guarded)
    (none : world.positions key = none) : world.memory.batcher.queued key = [] := by
  refine List.eq_nil_iff_forall_not_mem.mpr ?_
  intro event member
  obtain ⟨position, known, -⟩ := running.lined.ahead guard key event member
  cases none.symm.trans known

/-- After the callback the client gives the partitions up, and their queues are empty. -/
theorem unassign_emptied {keys : List TopicPartitionKey} {start : World}
    (emptied : Emptied deployment guarded counted keys start world)
    (queues : Queues deployment guarded counted start) :
    Runs deployment guarded counted (fun _ end' => Queues deployment guarded counted end' ∧
        Moved deployment guarded counted keys world end') raises
      (perform (.unassignPartitions keys)) world := by
  refine Runs.weaken (unassign_runs keys emptied.kept) ?_ fun _ ended => ended
  intro _ end' moved
  refine ⟨⟨moved.kept, moved.lined ?_ (emptied.queues queues).lined⟩, moved⟩
  intro _ key member
  rw [emptied.queued, if_pos member]

/-- A revocation while the consumer runs: the queues of the partitions are stored, and then the
client gives them up. -/
theorem revoke_runs (dryRun : Bool) (dry : guarded → dryRun = false)
    (keys : List TopicPartitionKey) (running : Running deployment guarded counted world) :
    Runs deployment guarded counted (fun _ => Running deployment guarded counted)
      (Queues deployment guarded counted)
      ((onRevoke deployment dryRun keys).ensure (perform (.unassignPartitions keys))) world := by
  have isFatal : world.memory.fatal = true → guarded := by
    rw [running.fatal]
    intro no
    cases no
  refine Runs.ensure (onRevoke_runs dryRun keys id isFatal running.kept running.lined
    fun _ _ _ _ _ _ _ _ counts _ => counts) ?_ ?_
  · rintro _ end' ⟨emptied, lined⟩
    refine Runs.weaken (unassign_emptied emptied running.queues) ?_ fun _ ended => ended
    rintro _ end'' ⟨queues, moved⟩
    refine ⟨queues.kept, ?_, ?_⟩
    · rw [moved.memory, emptied.fatal]
      exact running.fatal
    · refine moved.lined ?_ (lined.relax (fun guard => ⟨guard, dry guard⟩) fun _ _ same => same)
      intro _ key member
      rw [emptied.queued, if_pos member]
  · intro end' emptied
    exact Runs.weaken (unassign_emptied emptied running.queues) (fun _ _ ends => ends.1)
      fun _ ended => ended

/-- An assignment while the consumer runs. -/
theorem assigned_runs (dryRun : Bool) (keys : List TopicPartitionKey)
    (running : Running deployment guarded counted world)
    (unassigned : ∀ key ∈ keys, world.positions key = none) :
    Runs deployment guarded counted (fun _ => Running deployment guarded counted)
      (Queues deployment guarded counted)
      ((onAssign deployment dryRun keys).ensure (perform (.assignPartitions keys))) world := by
  have moves : ∀ end', Frame world end' → Kept deployment guarded counted end' →
      Runs deployment guarded counted (fun _ => Running deployment guarded counted)
        (Queues deployment guarded counted) (perform (.assignPartitions keys)) end' := by
    intro end' frame kept
    have running' := running.frame frame kept
    refine Runs.weaken (assign_runs keys kept) ?_ fun _ ended => ended
    intro _ end'' moved
    refine ⟨moved.kept, ?_, moved.lined ?_ running'.lined⟩
    · rw [moved.memory]
      exact running'.fatal
    · intro guard key member
      refine running'.unassigned guard ?_
      rw [frame.positions]
      exact unassigned key member
  refine Runs.ensure (onAssign_runs dryRun keys running.kept) ?_ ?_
  · rintro _ end' ⟨frame, kept⟩
    exact moves end' frame kept
  · rintro end' ⟨frame, kept⟩
    exact Runs.weaken (moves end' frame kept) (fun _ _ ends => ends.queues) fun _ ended => ended

/-- `Consumer.poll`. -/
theorem pollClient_runs (dryRun : Bool) (dry : guarded → dryRun = false) (turns : Nat)
    (running : Running deployment guarded counted world) :
    Runs deployment guarded counted (PolledFrom deployment guarded counted)
      (Queues deployment guarded counted) (pollClient deployment dryRun turns) world := by
  induction turns generalizing world with
  | zero => exact Runs.done running
  | succ turns ih =>
    refine Runs.seq (serve_runs running) ?_
    intro answer end' served
    cases answer with
    | nothing => exact Runs.done served
    | message message => exact Runs.done served
    | endOfPartition => exact Runs.done served
    | failed error => exact Runs.done served
    | assigned keys =>
      refine Runs.seq (assigned_runs dryRun keys served.1 served.2) ?_
      intro _ end'' running'
      exact ih running'
    | revoked keys =>
      refine Runs.seq (revoke_runs dryRun dry keys served) ?_
      intro _ end'' running'
      exact ih running'

/-- After a flush while the consumer runs. -/
theorem running_of_flush {start : World} (dryRun : Bool) (dry : guarded → dryRun = false)
    (fatal : start.memory.fatal = false) (frame : Frame start world)
    (kept : Kept deployment guarded counted world)
    (lined : Lined deployment guarded (guarded ∧ dryRun = false) counted
      world.memory.batcher.queued world) : Running deployment guarded counted world :=
  ⟨kept, frame.fatal.trans fatal, lined.relax (fun guard => ⟨guard, dry guard⟩)
    fun _ _ same => same⟩

/-- An operation of the batcher on the queues as they are, the flush of its batches, and what
comes after. -/
theorem cutAndFlush_runs {α : Type} {post : α → World → Prop} {rest : Unit → Action α}
    {operation : PartitionBatcher → Instant →
      Except PyError (List CdcBatch) × PartitionBatcher} (dryRun : Bool)
    (dry : guarded → dryRun = false)
    (total : ∀ batcher now, batcher.Identified →
      ∃ batches after, operation batcher now = (.ok batches, after) ∧
        PartitionBatcher.Cuts batcher after PartitionBatcher.nothing batches)
    (running : Running deployment guarded counted world)
    (goesOn : ∀ end', Running deployment guarded counted end' →
      Runs deployment guarded counted post (Queues deployment guarded counted) (rest ()) end') :
    Runs deployment guarded counted post (Queues deployment guarded counted)
      ((cut operation).bind fun batches =>
        (flushBatches deployment dryRun batches).bind rest) world := by
  refine Runs.seq (cut_runs (R := fun before batches after =>
    PartitionBatcher.Cuts before after PartitionBatcher.nothing batches)
    (fun now => total _ now running.lined.identified) running.kept) ?_
  rintro batches start ⟨beside, kept, fatal, cuts⟩
  have pending : Pending deployment guarded guarded counted counted batches start :=
    pending_of_cuts kept beside cuts (by simpa [PartitionBatcher.nothing] using running.lined)
      fun _ _ _ _ _ _ counts _ => counts
  have calm : start.memory.fatal = false := fatal.trans running.fatal
  refine Runs.seq (Runs.weaken (flushBatches_runs dryRun batches id
    (by rw [calm]; intro no; cases no) pending) (fun _ _ ends => ends)
    fun end' ended => pending.queues.frame ended.1 ended.2) ?_
  rintro _ end' ⟨frame, kept', lined⟩
  exact goesOn end' (running_of_flush dryRun dry calm frame kept' lined)

/-- An event is queued, and the batches it completes are stored. -/
theorem addEvent_runs {message : RawKafkaMessage} {event : BronzeEvent} (dryRun : Bool)
    (dry : guarded → dryRun = false) (parsed : Parses deployment message event)
    (handling : Handling deployment guarded counted message world) :
    Runs deployment guarded counted (fun _ => Running deployment guarded counted)
      (Queues deployment guarded counted)
      ((cut fun batcher now => batcher.add deployment.sha event now).bind fun batches =>
        flushBatches deployment dryRun batches) world := by
  obtain ⟨home, offset⟩ : event.topicPartition = message.topicPartition ∧
      event.kafkaOffset = message.offset := by
    obtain ⟨_, _, read⟩ := parsed
    exact parse_coordinates read
  refine Runs.seq (cut_runs (R := fun before batches after =>
    PartitionBatcher.Cuts before after (PartitionBatcher.arrival event) batches) ?_
    handling.kept) ?_
  · intro now
    obtain ⟨observedAt, today, read⟩ := parsed
    obtain ⟨batches, after, outcome, cuts, -⟩ := PartitionBatcher.add_cuts deployment.sha _
      handling.lined.identified event (parse_identified read) now
    exact ⟨batches, after, outcome, cuts⟩
  rintro batches start ⟨beside, kept, fatal, cuts⟩
  have arrives : ∀ key, ∀ other ∈ PartitionBatcher.arrival event key,
      other = event ∧ key = message.topicPartition := by
    intro key other member
    unfold PartitionBatcher.arrival at member
    split at member
    · rename_i same
      exact ⟨List.mem_singleton.mp member, same.trans home⟩
    · cases member
  have lined : Lined deployment guarded guarded counted
      (fun key => world.memory.batcher.queued key ++ PartitionBatcher.arrival event key)
      world := by
    refine ⟨?_, ?_, ?_, ?_⟩
    · intro key other member
      rcases List.mem_append.mp member with old | new
      · exact handling.lined.parsed key other old
      · obtain ⟨rfl, rfl⟩ := arrives key other new
        exact ⟨message, handling.kept.delivered message handling.delivered, parsed⟩
    · intro guard key
      refine List.pairwise_append.mpr ⟨handling.lined.sorted guard key, ?_, ?_⟩
      · unfold PartitionBatcher.arrival
        split
        · exact List.pairwise_singleton ..
        · exact List.Pairwise.nil
      · intro earlier old later new
        obtain ⟨rfl, rfl⟩ := arrives key later new
        rw [offset]
        exact handling.behind guard earlier old
    · intro guard other member counts
      by_cases same : other = message
      · subst same
        refine Or.inr ⟨event, List.mem_append_right _ ?_, offset⟩
        simp [PartitionBatcher.arrival, home]
      · rcases handling.lined.covered guard other member ⟨counts, same⟩ with
          stored | ⟨earlier, waits, at'⟩
        · exact Or.inl stored
        · exact Or.inr ⟨earlier, List.mem_append_left _ waits, at'⟩
    · intro guard key other member
      rcases List.mem_append.mp member with old | new
      · exact handling.lined.ahead guard key other old
      · obtain ⟨rfl, rfl⟩ := arrives key other new
        exact ⟨message.offset + 1, handling.position guard, by omega⟩
  have pending : Pending deployment guarded guarded counted counted batches start :=
    pending_of_cuts kept beside cuts lined fun _ _ _ _ _ _ counts _ => counts
  have calm : start.memory.fatal = false := fatal.trans handling.fatal
  refine Runs.weaken (flushBatches_runs dryRun batches id (by rw [calm]; intro no; cases no)
    pending) ?_ ?_
  · rintro _ end' ⟨frame, kept', lined'⟩
    exact running_of_flush dryRun dry calm frame kept' lined'
  · rintro end' ⟨frame, kept'⟩
    exact pending.queues.frame frame kept'

/-- The commit behind a record, once every counted record of its partition is stored. -/
theorem commitRecord_runs {message : RawKafkaMessage} (kept : Kept deployment guarded counted world)
    (fatal : world.memory.fatal = false)
    (position : guarded → world.positions message.topicPartition = some (message.offset + 1))
    (covered : guarded → Covered deployment counted message.topicPartition (message.offset + 1)
      world) :
    Runs deployment guarded counted
      (fun _ end' => Frame world end' ∧ Kept deployment guarded counted end')
      (fun end' => Frame world end' ∧ Kept deployment guarded counted end')
      (commitRecord message) world := by
  have allowed : ∀ end', Later deployment (FromLog deployment) world end' →
      Acks deployment guarded counted message.topicPartition (message.offset + 1) end' := by
    intro end' later
    refine ⟨fun guard => ⟨(covered guard).later later.advances later.framed.delivered, ?_⟩, ?_⟩
    · intro position' known
      rw [later.framed.positions, position guard, Option.some.injEq] at known
      exact Int.le_of_eq known
    · rw [later.framed.memory, fatal]
      intro no
      cases no
  refine Runs.seq (Runs.weaken (Keeps.runs (commitNext_keeps allowed) kept)
    (fun _ _ ends => ends) fun _ ended => ended) ?_
  rintro _ committed ⟨frame, kept', -⟩
  exact Runs.since frame (count_runs _ kept')

/-- A poison record is quarantined after the queue of its partition was stored. -/
theorem quarantine_runs {message : RawKafkaMessage} {poison : PoisonEvent}
    {observedAt today : Instant} (dryRun : Bool) (dry : guarded → dryRun = false)
    (parsed : parseDebeziumMessage deployment.parser observedAt today message =
      .ok (.poison poison))
    (handling : Handling deployment guarded counted message world) :
    Runs deployment guarded counted (fun _ => Running deployment guarded counted)
      (Queues deployment guarded counted)
      ((cut fun batcher now =>
          batcher.flushPartition deployment.sha message.topicPartition now).bind fun batches =>
        (flushBatches deployment dryRun batches).bind fun _ =>
          if dryRun then .done ()
          else (writePoison deployment poison).bind fun _ => commitRecord message) world := by
  refine Runs.seq (cut_runs (R := fun before batches after =>
    PartitionBatcher.Cuts before after PartitionBatcher.nothing batches ∧
      after.queued message.topicPartition = []) ?_ handling.kept) ?_
  · intro now
    obtain ⟨batches, after, outcome, cuts, emptied, -⟩ :=
      PartitionBatcher.flushPartition_cuts deployment.sha _ handling.lined.identified
        message.topicPartition now
    exact ⟨batches, after, outcome, cuts, by rw [emptied, if_pos rfl]⟩
  rintro batches start ⟨beside, kept, fatal, cuts, empty⟩
  have pending : Pending deployment guarded guarded counted
      (fun other => counted other ∧ other ≠ message) batches start := by
    refine pending_of_cuts kept beside cuts
      (by simpa [PartitionBatcher.nothing] using handling.lined) ?_
    rintro guard batch member other - home counts upTo
    refine ⟨counts, ?_⟩
    rintro rfl
    -- The batches end before the record.
    obtain ⟨last, inside, ends⟩ := (cuts.contiguous batch member).last
    have waited := cuts_mem cuts member inside
    simp only [PartitionBatcher.nothing, List.append_nil, ← home] at waited
    have := handling.behind guard last waited
    omega
  have calm : start.memory.fatal = false := fatal.trans handling.fatal
  refine Runs.seq (Runs.weaken (flushBatches_runs dryRun batches id
    (by rw [calm]; intro no; cases no) pending) (fun _ _ ends => ends)
    fun end' ended => pending.queues.frame ended.1 ended.2) ?_
  rintro _ flushed ⟨frame, kept', lined⟩
  have calm' : flushed.memory.fatal = false := frame.fatal.trans calm
  cases dryRun with
  | true =>
    refine Runs.done ⟨kept', calm', lined.relax (fun guard => ⟨guard, dry guard⟩) ?_⟩
    intro guard
    cases dry guard
  | false =>
    have others := lined.relax (fun guard : guarded => ⟨guard, rfl⟩) fun _ _ same => same
    have queues : Queues deployment guarded counted flushed :=
      ⟨kept', others.relax False.elim fun no => no.elim⟩
    refine Runs.seq (Runs.weaken (Keeps.runs (writePoison_keeps kept'.sound poison) kept')
      (fun _ _ ends => ends) fun end' ended => queues.frame ended.1 ended.2) ?_
    rintro _ written ⟨frame', kept'', place, placed, holds⟩
    have stored : Stored deployment written message :=
      Or.inr ⟨observedAt, today, poison, place, parsed, placed, holds⟩
    have running : Running deployment guarded counted written := by
      refine ⟨kept'', frame'.fatal.trans calm', ?_⟩
      rw [frame'.batcher]
      have still := others.frame frame'.positions frame'.delivered frame'.advances
      refine ⟨still.parsed, still.sorted, ?_, still.ahead⟩
      intro guard other member counts
      by_cases same : other = message
      · exact Or.inl (same ▸ stored)
      · exact still.covered guard other member ⟨counts, same⟩
    have since := beside.trans (frame.trans frame').beside
    refine Runs.weaken (commitRecord_runs kept'' running.fatal ?_ ?_) ?_ ?_
    · rw [since.positions]
      exact handling.position
    · intro guard other member home counts _
      rcases running.lined.covered guard other member counts with known | ⟨event, waits, -⟩
      · exact known
      · rw [home, frame'.batcher, frame.batcher, empty] at waits
        cases waits
    · rintro _ end' ⟨frame'', kept'''⟩
      exact running.frame frame'' kept'''
    · rintro end' ⟨frame'', kept'''⟩
      exact running.queues.frame frame'' kept'''

/-- A heartbeat is committed at once. -/
theorem heartbeat_runs {message : RawKafkaMessage} (dryRun : Bool)
    (dry : guarded → dryRun = false) (beat : IsHeartbeat deployment message)
    (exempt : guarded → counted message → ¬ IsHeartbeat deployment message)
    (handling : Handling deployment guarded counted message world) :
    Runs deployment guarded counted (fun _ => Running deployment guarded counted)
      (Queues deployment guarded counted)
      (if dryRun then .done () else commitRecord message) world := by
  have notCounted : guarded → ∀ other, counted other → other ≠ message := by
    rintro guard other counts rfl
    exact exempt guard counts beat
  have running : Running deployment guarded counted world :=
    ⟨handling.kept, handling.fatal, handling.lined.relax id
      fun guard other counts => ⟨counts, notCounted guard other counts⟩⟩
  cases dryRun with
  | true => exact Runs.done running
  | false =>
    refine Runs.weaken (commitRecord_runs handling.kept handling.fatal handling.position ?_) ?_ ?_
    · intro guard other member home counts _
      exact handling.clear guard beat other member home counts (notCounted guard other counts)
    · rintro _ end' ⟨frame, kept⟩
      exact running.frame frame kept
    · rintro end' ⟨frame, kept⟩
      exact running.queues.frame frame kept

/-- The handling of one record. -/
theorem handleRecord_runs {message : RawKafkaMessage} (dryRun : Bool)
    (dry : guarded → dryRun = false)
    (exempt : guarded → counted message → ¬ IsHeartbeat deployment message)
    (handling : Handling deployment guarded counted message world) :
    Runs deployment guarded counted (fun _ => Running deployment guarded counted)
      (Queues deployment guarded counted) (handleRecord deployment dryRun message) world := by
  refine Runs.seq (count_runs _ handling.kept) ?_
  rintro _ polled ⟨frame, kept⟩
  refine Runs.seq (readClock_runs kept) ?_
  rintro observedAt observed ⟨frame', kept', -⟩
  refine Runs.seq (readClock_runs kept') ?_
  rintro today dated ⟨frame'', kept'', -⟩
  have handling' := handling.frame (frame.trans (frame'.trans frame'')) kept''
  cases parsed : parseDebeziumMessage deployment.parser observedAt today message with
  | error problem => exact Runs.raised handling'.queues
  | ok meaning =>
    refine Runs.seq (M := fun value end' => value = meaning ∧ end' = dated)
      (Runs.done ⟨rfl, rfl⟩) ?_
    rintro value _ ⟨same, rfl⟩
    rw [same]
    cases meaning with
    | event event =>
      refine Runs.seq (count_runs _ kept'') ?_
      rintro _ end' ⟨counting, remains⟩
      exact addEvent_runs dryRun dry ⟨observedAt, today, parsed⟩ (handling'.frame counting remains)
    | poison poison =>
      refine Runs.seq (count_runs _ kept'') ?_
      rintro _ end' ⟨counting, remains⟩
      exact quarantine_runs dryRun dry parsed (handling'.frame counting remains)
    | heartbeat =>
      refine Runs.seq (count_runs _ kept'') ?_
      rintro _ end' ⟨counting, remains⟩
      exact heartbeat_runs dryRun dry ⟨observedAt, today, parsed⟩ exempt
        (handling'.frame counting remains)

end

end Cdc
