import PaymentsPlatform.Cdc.Classification
import PaymentsPlatform.Cdc.Delivery

/-!
# Acknowledged offsets

The loop, the shutdown and the whole run of the consumer, and the two promises about its commits:
the committed offset of a partition never passes a delivered record that is not durable, and no
commit after a fatal error does. Both need the conditions of `clear`; the runs at the end show
that neither can be dropped.
-/

namespace Cdc

open Python Effects

section

variable {deployment : Deployment} {guarded : Prop} {counted : RawKafkaMessage → Prop}
  {world : World} {raises : World → Prop}

/-! ## The run -/

/-- The `while` loop. -/
theorem consume_runs (options : RunOptions) (deadline : Int)
    (dry : guarded → options.dryRun = false)
    (exempt : guarded → ∀ message, counted message → ¬ IsHeartbeat deployment message)
    (turns emptyPolls : Nat) (running : Running deployment guarded counted world) :
    Runs deployment guarded counted (fun _ => Running deployment guarded counted)
      (Queues deployment guarded counted)
      (consume deployment options deadline turns emptyPolls) world := by
  induction turns generalizing world emptyPolls with
  | zero => exact Runs.done running
  | succ turns ih =>
    refine Runs.seq (stopRequested_runs running.kept) ?_
    rintro stop started ⟨frame, kept⟩
    have running' := running.frame frame kept
    split
    · exact Runs.done running'
    · refine Runs.seq (pollClient_runs options.dryRun dry turns running') ?_
      intro polled end' left
      cases polled with
      | endOfPartition => exact ih _ left
      | failed error => exact Runs.raised left.queues
      | message message =>
        refine Runs.seq (handleRecord_runs options.dryRun dry
          (fun guard => exempt guard message) left) ?_
        intro _ handled running''
        refine Runs.seq (loadMemory_runs running''.kept) ?_
        rintro memory loaded ⟨frame', kept', -⟩
        have last := running''.frame frame' kept'
        split
        · exact Runs.done last
        · exact ih _ last
      | nothing =>
        refine cutAndFlush_runs options.dryRun dry ?_ left ?_
        · intro batcher now identified
          obtain ⟨batches, after, outcome, cuts, -⟩ :=
            PartitionBatcher.flushDue_cuts deployment.sha batcher identified now
          exact ⟨batches, after, outcome, cuts⟩
        intro flushed running''
        split
        · refine Runs.seq (loadMemory_runs running''.kept) ?_
          rintro memory loaded ⟨frame', kept', -⟩
          have waiting := running''.frame frame' kept'
          split
          · split
            · exact Runs.done waiting
            · exact ih _ waiting
          · refine Runs.seq (readMonotonic_runs waiting.kept) ?_
            rintro now read ⟨frame'', kept'', -⟩
            have still := waiting.frame frame'' kept''
            split
            · exact Runs.raised still.queues
            · exact ih _ still
        · exact ih _ running''

/-- The loop and the flush of a clean shutdown. -/
theorem consumeAndFlush_runs (options : RunOptions) (deadline : Int)
    (dry : guarded → options.dryRun = false)
    (exempt : guarded → ∀ message, counted message → ¬ IsHeartbeat deployment message)
    (turns : Nat) (running : Running deployment guarded counted world) :
    Runs deployment guarded counted (fun _ => Running deployment guarded counted)
      (Queues deployment guarded counted)
      (consumeAndFlush deployment options deadline turns) world := by
  refine Runs.seq (consume_runs options deadline dry exempt turns 0 running) ?_
  intro ended end' running'
  cases ended with
  | none => exact Runs.done running'
  | some clean =>
    refine Runs.seq (stopRequested_runs running'.kept) ?_
    rintro stopped read ⟨frame, kept⟩
    have still := running'.frame frame kept
    split
    · refine cutAndFlush_runs options.dryRun dry ?_ still fun _ last => Runs.done last
      intro batcher now identified
      obtain ⟨batches, after, outcome, cuts, -⟩ :=
        PartitionBatcher.flushAll_cuts deployment.sha batcher identified now
      exact ⟨batches, after, outcome, cuts⟩
    · exact Runs.done still

/-- Setting the fatal flag. -/
theorem failed_runs {α : Type} {post : α → World → Prop} (error : PyError)
    (queues : Queues deployment guarded counted world) :
    Runs deployment guarded counted post (Queues deployment guarded counted) (failed error)
      world := by
  refine Runs.seq (loadMemory_runs queues.kept) ?_
  rintro _ read ⟨frame, kept, -, rfl⟩
  refine Runs.seq (saveMemory_runs _ kept) ?_
  rintro _ saved ⟨beside, kept', memory⟩
  have since := frame.beside.trans beside
  refine Runs.raised ⟨kept', ?_⟩
  rw [memory]
  exact queues.lined.frame since.positions since.delivered since.advances

/-- The partitions the client revokes while it closes may be revoked. -/
def Closable (deployment : Deployment) (counted : RawKafkaMessage → Prop)
    (keys : List TopicPartitionKey) (world : World) : Prop :=
  ∀ key ∈ keys, ∀ event ∈ world.memory.batcher.queued key, ∀ message ∈ world.delivered,
    message.topicPartition = key → counted message → message.offset < event.kafkaOffset →
    Stored deployment world message ∨
      ∃ other ∈ world.memory.batcher.queued key, other.kafkaOffset = message.offset

/-- The client closes. -/
theorem closing_runs (queues : Queues deployment guarded counted world) :
    Runs deployment guarded counted
      (fun keys end' => Queues deployment guarded counted end' ∧
        Closable deployment counted keys end')
      (Kept deployment guarded counted) closing world := by
  refine runs_refusable .closeConsumer rfl ?_ ?_
  · intro start choice published closable
    have first : Step deployment guarded counted world start := published.step
    have frame : Frame world start := published.frame
    refine ⟨⟨id, fun _ _ _ added => absurd added List.ne_cons_self⟩, _, rfl,
      queues.frame frame (first.kept queues.kept), ?_⟩
    intro key member event waits message delivered home counts below
    obtain ⟨objects, rfl⟩ := published.same
    exact (closable key member event waits message delivered home counts below).imp_left
      fun stored => stored.later frame.advances
  · intro start published
    have first : Step deployment guarded counted world start := published.step
    exact first.kept queues.kept

/-- The close of the client, with the revoke callback for the partitions it still has. -/
theorem closeClient_runs (dryRun : Bool) (queues : Queues deployment guarded counted world) :
    Runs deployment guarded counted (fun _ => Kept deployment guarded counted)
      (Kept deployment guarded counted) (closeClient deployment dryRun) world := by
  refine Runs.seq (closing_runs queues) ?_
  rintro keys closed ⟨queues', closable⟩
  split
  · exact Runs.done queues'.kept
  · -- In scope are the counted records up to an event that is queued for a revoked partition.
    have lined : Lined deployment guarded True (fun message => counted message ∧
        message.topicPartition ∈ keys ∧
        ∃ event ∈ closed.memory.batcher.queued message.topicPartition,
          message.offset ≤ event.kafkaOffset) closed.memory.batcher.queued closed := by
      refine ⟨queues'.lined.parsed, fun _ key => queued_sorted _ key, ?_, queues'.lined.ahead⟩
      rintro - message member ⟨counts, revoked, event, waits, upTo⟩
      rcases Int.lt_or_eq_of_le upTo with below | same
      · exact closable _ revoked event waits message member rfl counts below
      · exact Or.inr ⟨event, waits, same.symm⟩
    refine Runs.ensure (onRevoke_runs dryRun keys (fun _ => trivial) (fun _ => trivial)
      queues'.kept lined ?_) ?_ ?_
    · intro _ key revoked event waits message _ home counts upTo
      rw [← home] at revoked waits
      exact ⟨counts, revoked, event, waits, upTo⟩
    · rintro _ end' ⟨emptied, -⟩
      exact Runs.weaken (unassign_emptied emptied queues') (fun _ _ ends => ends.1.kept)
        fun _ ended => ended
    · intro end' emptied
      exact Runs.weaken (unassign_emptied emptied queues') (fun _ _ ends => ends.1.kept)
        fun _ ended => ended

/-- How a program ended. -/
theorem Runs.outcome {α : Type} {M : α → World → Prop} {E : World → Prop} {program : Action α}
    (first : Runs deployment guarded counted M E program world) :
    Runs deployment guarded counted (fun ended end' => match ended with
      | .ok value => M value end'
      | .error _ => E end') raises program.outcome world := by
  refine Meets.handle (Meets.bind (first.mono ?_ ?_))
  · intro value end' holds
    exact holds
  · intro problem end' holds
    exact holds

/-- A restarted process has everything the last one left, and nothing in hand. -/
theorem restart_running (sound : Sound deployment (FromLog deployment) world) :
    Running deployment guarded counted (restart deployment world) := by
  have empty : ∀ key, deployment.newMemory.batcher.queued key = [] := fun _ => rfl
  refine ⟨⟨⟨sound.honest, sound.ranged, sound.durable, sound.acknowledged⟩,
    fun _ member => (by cases member), fun _ key next _ => ⟨fun _ member => (by cases member),
      fun _ known => (by cases known)⟩⟩, rfl, ⟨?_, ?_, ?_, ?_⟩⟩
  · intro key event member
    rw [show (restart deployment world).memory.batcher.queued key = [] from empty key] at member
    cases member
  · intro _ key
    exact queued_sorted _ key
  · intro _ message member
    cases member
  · intro _ key event member
    rw [show (restart deployment world).memory.batcher.queued key = [] from empty key] at member
    cases member

/-- The whole run. -/
theorem run_runs (options : RunOptions) (turns : Nat) (dry : guarded → options.dryRun = false)
    (exempt : guarded → ∀ message, counted message → ¬ IsHeartbeat deployment message)
    (sound : Sound deployment (FromLog deployment) world) :
    Runs deployment guarded counted (fun _ => Kept deployment guarded counted)
      (Kept deployment guarded counted) (run deployment options turns)
      (restart deployment world) := by
  have running : Running deployment guarded counted (restart deployment world) :=
    restart_running sound
  unfold run
  split
  · exact Runs.raised running.kept
  · refine Runs.seq (M := fun _ => Running deployment guarded counted) ?_ ?_
    · refine runs_refusable .subscribe rfl ?_ ?_
      · intro start choice published _
        have first : Step deployment guarded counted (restart deployment world) start :=
          published.step
        exact ⟨⟨id, fun _ _ _ added => absurd added List.ne_cons_self⟩, (), rfl,
          running.frame published.frame (first.kept running.kept)⟩
      · intro start published
        have first : Step deployment guarded counted (restart deployment world) start :=
          published.step
        exact first.kept running.kept
    intro _ subscribed running'
    refine Runs.seq (readMonotonic_runs running'.kept) ?_
    rintro start read ⟨frame, kept, -⟩
    have ready := running'.frame frame kept
    refine Runs.seq (Runs.outcome (Meets.handle (Meets.mono (consumeAndFlush_runs options _ dry
      exempt turns ready) (fun _ _ ends => ends) fun problem end' queues =>
        failed_runs problem queues))) ?_
    intro ended end' left
    cases ended with
    | error problem =>
      refine Runs.seq (closeClient_runs options.dryRun left) ?_
      intro _ closed kept'
      exact Runs.raised kept'
    | ok finished =>
      cases finished with
      | none => exact Runs.done left.kept
      | some _ =>
        refine Runs.seq (closeClient_runs options.dryRun left.queues) ?_
        intro _ closed kept'
        refine Runs.seq (loadMemory_runs kept') ?_
        rintro memory loaded ⟨-, kept'', -⟩
        exact Runs.done kept''

end

/-! ## Promises -/

/-- Without counted records the conditions hold. -/
theorem clear_uncounted (deployment : Deployment) (op : Op) (choice : Choice) (world : World) :
    clear deployment False (fun _ => False) op choice world := by
  cases op with
  | poll => exact fun no => no.elim
  | closeConsumer => exact fun _ _ _ _ _ _ _ no => no.elim
  | _ => trivial

/-- After any history of consumer processes, manifest, store and broker agree. -/
theorem consumer_sound (deployment : Deployment) (commits : List (TopicPartitionKey × Int))
    (history : List (Event RunRequest Choice)) :
    Sound deployment (FromLog deployment)
      ((consumer deployment).moment history (newWorld deployment commits)) := by
  have start : Kept deployment False (fun _ => False) (newWorld deployment commits) :=
    ⟨newWorld_sound deployment _ commits, fun _ member => (by cases member), fun no => no.elim⟩
  have tracks : Tracks (Step deployment False fun _ => False) fun _ _ => True :=
    ⟨fun _ => trivial, fun _ _ => trivial, fun _ => trivial⟩
  have kept := Service.keeps (consumer deployment) tracks
    (I := Kept deployment False fun _ => False) (fun _ _ step => step.kept) ?_ history
    (.done (), newWorld deployment commits) start trivial
  · exact kept.1.sound
  · intro request world inv
    have running : Running deployment False (fun _ => False) (restart deployment world) :=
      restart_running inv.sound
    refine ⟨running.kept, trivial, ?_⟩
    have whole : Runs deployment False (fun _ => False) (fun _ _ => True) (fun _ => True)
        ((run deployment request.options request.turns).bind fun _ => .done ())
        (restart deployment world) :=
      Runs.seq (Runs.weaken (run_runs request.options request.turns (fun no => no.elim)
        (fun no => no.elim) inv.sound) (fun _ _ ends => ends) fun _ _ => trivial)
        fun _ _ _ => Runs.done trivial
    exact whole.transfer (fun op choice world _ => clear_uncounted deployment op choice world)
      (fun _ _ same => same) fun _ _ step => step

/-- The world in which a consumer starts, after a history of earlier ones. -/
def started (deployment : Deployment) (commits : List (TopicPartitionKey × Int))
    (history : List (Event RunRequest Choice)) : World :=
  restart deployment ((consumer deployment).moment history (newWorld deployment commits))

/-- Every run that starts there takes steps of the consumer. -/
theorem run_started (deployment : Deployment) (commits : List (TopicPartitionKey × Int))
    (history : List (Event RunRequest Choice)) (request : RunRequest) {guarded : Prop}
    {counted : RawKafkaMessage → Prop} (dry : guarded → request.options.dryRun = false)
    (exempt : guarded → ∀ message, counted message → ¬ IsHeartbeat deployment message) :
    Runs deployment guarded counted (fun _ => Kept deployment guarded counted)
      (Kept deployment guarded counted) (run deployment request.options request.turns)
      (started deployment commits history) :=
  run_runs request.options request.turns dry exempt (consumer_sound deployment commits history)

/-- A moment of a run: the state after some choices of the environment. -/
def momentOf (deployment : Deployment) (request : RunRequest) (start : World)
    (choices : List Choice) : World :=
  ((machine deployment).run choices
    (run deployment request.options request.turns, start)).2

/-- Every choice of the list meets the conditions at its moment of the run. -/
def Meeting (deployment : Deployment) (guarded : Prop) (counted : RawKafkaMessage → Prop)
    (request : RunRequest) (start : World) (choices : List Choice) : Prop :=
  Admitted (machine deployment) (clear deployment guarded counted) choices
    (run deployment request.options request.turns, start)

/-- The committed offset of a partition does not pass a delivered record that is not in Bronze,
in quarantine or a heartbeat. -/
def AcknowledgedDurable (deployment : Deployment) (world : World) : Prop :=
  ∀ key next, world.committed key = some next → ∀ message ∈ world.delivered,
    message.topicPartition = key → message.offset < next →
    InBronze deployment world message ∨ Quarantined deployment world message ∨
      IsHeartbeat deployment message

/-- Row data is never taken for a heartbeat exactly when it comes with an operation or without a
connector clock, and then it is stored before an offset behind it is acknowledged, wherever
acknowledged records are durable. -/
theorem row_data_is_stored (deployment : Deployment) (message : RawKafkaMessage) :
    (NeverHeartbeat deployment.parser message ↔ Operated deployment.parser message) ∧
      (Operated deployment.parser message → ∀ payload,
        payloadOf deployment.parser message = some payload → CarriesRow payload →
        ∀ world next, AcknowledgedDurable deployment world → message ∈ world.delivered →
          world.committed message.topicPartition = some next → message.offset < next →
          InBronze deployment world message ∨ Quarantined deployment world message) := by
  refine ⟨neverHeartbeat_iff, ?_⟩
  intro operated payload there carries world next durable delivered committed below
  rcases durable _ next committed message delivered rfl below with bronze | quarantined | beats
  · exact Or.inl bronze
  · exact Or.inr quarantined
  · obtain ⟨observedAt, today, parsed⟩ := beats
    exact absurd parsed
      (neverHeartbeat_iff.mpr operated payload there carries observedAt today)

/-- At every moment of a run in which no heartbeat is polled while records of its partition wait
that are not stored, and in which the closing client does not revoke a partition whose queue goes
on behind a lost record, acknowledged offsets point past durable records only. -/
theorem acknowledged_records_are_durable (deployment : Deployment)
    (commits : List (TopicPartitionKey × Int)) (history : List (Event RunRequest Choice))
    (request : RunRequest) (live : request.options.dryRun = false) (choices : List Choice)
    (condition : Meeting deployment True (fun message => ¬ IsHeartbeat deployment message) request
      (started deployment commits history) choices) :
    AcknowledgedDurable deployment
      (momentOf deployment request (started deployment commits history) choices) := by
  have start : Running deployment True (fun message => ¬ IsHeartbeat deployment message)
      (started deployment commits history) :=
    restart_running (consumer_sound deployment commits history)
  obtain ⟨-, path⟩ := Meets.run choices (run_started deployment commits history request
    (fun _ => live) fun _ _ counts => counts) condition
  have kept : Kept deployment True (fun message => ¬ IsHeartbeat deployment message)
      (momentOf deployment request (started deployment commits history) choices) := by
    unfold momentOf
    generalize ((machine deployment).run choices
      (run deployment request.options request.turns, started deployment commits history)).2 = end'
      at path
    induction path with
    | refl => exact start.kept
    | tail _ step ih => exact step.kept ih
  intro key next committed message member home below
  by_cases beat : IsHeartbeat deployment message
  · exact Or.inr (Or.inr beat)
  · rcases (kept.acked trivial key next committed).1 message member home beat below with
      bronze | quarantined
    · exact Or.inl bronze
    · exact Or.inr (Or.inl quarantined)

/-- After a fatal error, a commit never passes a delivered record that is not stored, in every
run whose close meets the condition. `counted` says which records have to be stored. -/
theorem fatal_error_never_skips (deployment : Deployment)
    (commits : List (TopicPartitionKey × Int)) (history : List (Event RunRequest Choice))
    (request : RunRequest) (counted : RawKafkaMessage → Prop) (choices : List Choice)
    (choice : Choice)
    (condition : Meeting deployment False counted request (started deployment commits history)
      (choices ++ [choice]))
    (fatal : (momentOf deployment request (started deployment commits history)
      choices).memory.fatal = true) (key : TopicPartitionKey) (next : Int)
    (committed : (momentOf deployment request (started deployment commits history)
        (choices ++ [choice])).commits =
      (key, next) :: (momentOf deployment request (started deployment commits history)
        choices).commits) :
    ∀ message ∈ (momentOf deployment request (started deployment commits history)
        (choices ++ [choice])).delivered,
      message.topicPartition = key → counted message → message.offset < next →
      Stored deployment (momentOf deployment request (started deployment commits history)
        (choices ++ [choice])) message := by
  unfold momentOf at *
  rcases Meets.run_step choices choice (run_started deployment commits history request
    (fun no => no.elim) fun no => no.elim) condition with same | step
  · have still := congrArg (fun state => state.2.commits) same
    exact absurd (still.symm.trans committed) List.ne_cons_self
  · exact step.fatal fatal key next committed

/-! ## Runs that need the conditions -/

/-- A partition. -/
def customers : TopicPartitionKey := ⟨"fintech.public.customers", 0⟩

/-- A record without value. -/
def tombstone (offset : Int) : RawKafkaMessage :=
  ⟨customers.topic, customers.partition, offset, none, none, some 0⟩

/-- A record with a clock and no operation. -/
def heartbeat (offset : Int) : RawKafkaMessage :=
  ⟨customers.topic, customers.partition, offset, none, some (utf8 "\x7b\"ts_ms\":1\x7d"), some 0⟩

/-- A log with records in one partition. -/
def customersLog (records : List RawKafkaMessage)
    (placed : ∀ message ∈ records, message.topicPartition = customers)
    (ordered : records.Pairwise fun earlier later => earlier.offset < later.offset) : KafkaLog where
  records := fun key => if key = customers then records else []
  placed := by
    intro key message member
    split at member
    · rename_i same
      rw [same]
      exact placed message member
    · cases member
  ordered := by
    intro key
    split
    · exact ordered
    · exact List.Pairwise.nil

/-- A record without value is an event, if anything. -/
theorem tombstone_parses {context : ParserContext} {observedAt today : Instant} (offset : Int)
    {meaning : ParsedMessage}
    (parsed : parseDebeziumMessage context observedAt today (tombstone offset) = .ok meaning) :
    meaning.kind = .event := by
  have parsed := (parse_ok_iff.mp parsed).2
  unfold parseValue tombstone at parsed
  simp only at parsed
  cases built : tombstoneEvent context observedAt today (tombstone offset) with
  | error problem =>
    unfold tombstone at built
    rw [built] at parsed
    cases parsed
  | ok event =>
    unfold tombstone at built
    rw [built] at parsed
    obtain rfl := Except.ok.inj parsed
    rfl

/-- A record without value is neither a heartbeat nor quarantined. -/
theorem tombstone_event (deployment : Deployment) (world : World) (offset : Int) :
    ¬ IsHeartbeat deployment (tombstone offset) ∧
      ¬ Quarantined deployment world (tombstone offset) := by
  refine ⟨?_, ?_⟩
  · rintro ⟨observedAt, today, parsed⟩
    cases tombstone_parses offset parsed
  · rintro ⟨observedAt, today, poison, place, parsed, -⟩
    cases tombstone_parses offset parsed

/-- A record in Bronze is in the range of a durable row. -/
theorem InBronze.row {deployment : Deployment} {world : World} {message : RawKafkaMessage}
    (stored : InBronze deployment world message) :
    ∃ record ∈ world.manifest.rows, record.Durable ∧ record.offsetStart ≤ message.offset := by
  obtain ⟨record, batch, event, checksum, uri, found, durable, place, contiguous, -, -, -, member,
    _, _, parsed⟩ := stored
  refine ⟨record, (Relational.Table.get_eq_some.mp found).1, durable, ?_⟩
  have inside : event.kafkaOffset ∈ offsetRange batch.offsetStart batch.recordCount := by
    rw [← contiguous.offsets]
    exact List.mem_map_of_mem member
  have low := (mem_offsetRange.mp inside).1
  rw [(parse_coordinates parsed).2] at low
  simp only [BatchManifestRecord.coordinates, CdcBatch.coordinates, Prod.mk.injEq] at place
  rw [place.2.2.2.1]
  exact low

/-- A tombstone and a heartbeat behind it. -/
def heartbeatLog : KafkaLog := customersLog [tombstone 0, heartbeat 1]
  (by simp [tombstone, heartbeat, RawKafkaMessage.topicPartition])
  (by simp [tombstone, heartbeat])

/-- The client is assigned the partition and delivers its records, one after another. -/
def delivering (count : Nat) : List Choice :=
  List.replicate 3 ({} : Choice) ++ [{ client := .assigned [customers] }] ++
    List.replicate count { client := .deliver customers }

/-- The heartbeat is committed while the tombstone waits in its queue: if the process dies now,
the tombstone is lost. -/
theorem heartbeat_passes_queued_event :
    ¬ AcknowledgedDurable (localDeployment heartbeatLog)
      (momentOf (localDeployment heartbeatLog) ⟨{}, 5⟩
        (started (localDeployment heartbeatLog) [] []) (delivering 25)) := by
  have committed : (momentOf (localDeployment heartbeatLog) ⟨{}, 5⟩
      (started (localDeployment heartbeatLog) [] []) (delivering 25)).committed customers =
        some 2 := by decide +kernel
  have delivered : (momentOf (localDeployment heartbeatLog) ⟨{}, 5⟩
      (started (localDeployment heartbeatLog) [] []) (delivering 25)).delivered =
        [heartbeat 1, tombstone 0] := by decide +kernel
  have rows : (momentOf (localDeployment heartbeatLog) ⟨{}, 5⟩
      (started (localDeployment heartbeatLog) [] []) (delivering 25)).manifest.rows = [] := by
    decide +kernel
  generalize momentOf (localDeployment heartbeatLog) ⟨{}, 5⟩
    (started (localDeployment heartbeatLog) [] []) (delivering 25) = world
    at committed delivered rows ⊢
  intro durable
  rcases durable customers 2 committed (tombstone 0) (by simp [delivered]) rfl (by decide) with
    bronze | quarantined | beat
  · obtain ⟨record, member, -⟩ := bronze.row
    rw [rows] at member
    cases member
  · exact (tombstone_event _ world 0).2 quarantined
  · exact (tombstone_event _ world 0).1 beat

/-- Two tombstones. -/
def tombstoneLog : KafkaLog := customersLog [tombstone 0, tombstone 1]
  (by simp [tombstone, RawKafkaMessage.topicPartition]) (by simp [tombstone])

/-- A choice that does not revoke meets the condition on the close everywhere. -/
theorem clear_unrevoked {deployment : Deployment} {guarded : Prop}
    {counted : RawKafkaMessage → Prop} {choice : Choice} {world : World} (op : Op)
    (heartbeat : guarded → HeartbeatClear deployment counted choice world)
    (unrevoked : ∀ keys, choice.client ≠ .revoked keys) :
    clear deployment guarded counted op choice world := by
  cases op with
  | poll => exact heartbeat
  | closeConsumer =>
    intro key member
    unfold closeEffect at member
    split at member
    · rename_i keys client
      exact absurd client (unrevoked keys)
    · cases member
  | _ => trivial

/-- Two tombstones fill a batch, and its offset is committed once the object is stored. -/
theorem tombstone_batch_is_durable :
    (momentOf (localDeployment tombstoneLog) ⟨{}, 5⟩
        (started (localDeployment tombstoneLog) [] []) (delivering 62)).committed customers =
      some 2 ∧
    AcknowledgedDurable (localDeployment tombstoneLog)
      (momentOf (localDeployment tombstoneLog) ⟨{}, 5⟩
        (started (localDeployment tombstoneLog) [] []) (delivering 62)) := by
  refine ⟨by decide +kernel, ?_⟩
  refine acknowledged_records_are_durable (localDeployment tombstoneLog) [] [] ⟨{}, 5⟩ rfl
    (delivering 62) (Admitted.of_forall _ _ ?_)
  intro choice member op world
  refine clear_unrevoked op (fun _ => ?_) ?_
  · intro key message _ next beat
    obtain ⟨-, -, -, logged, -⟩ := nextRecord_spec next
    have value : ∃ offset, message = tombstone offset := by
      simp only [localDeployment, tombstoneLog, customersLog] at logged
      split at logged
      · rcases List.mem_cons.mp logged with rfl | last
        · exact ⟨0, rfl⟩
        · exact ⟨1, List.mem_singleton.mp last⟩
      · cases logged
    obtain ⟨offset, rfl⟩ := value
    exact absurd beat (tombstone_event _ world offset).1
  · intro keys client
    simp only [delivering, List.mem_append, List.mem_replicate, List.mem_singleton] at member
    rcases member with (⟨-, rfl⟩ | rfl) | ⟨-, rfl⟩ <;> cases client

/-- Two tombstones with a gap between them. -/
def gapLog : KafkaLog := customersLog [tombstone 0, tombstone 2]
  (by simp [tombstone, RawKafkaMessage.topicPartition]) (by simp [tombstone])

/-- The second record cuts the first one off, the serialization of that batch fails, and the
closing client revokes the partition. -/
def failingBatch : List Choice :=
  delivering 37 ++ [{ fault := some ⟨false, ⟨.arrowError, py "out of memory"⟩⟩ }] ++
    List.replicate 39 { client := .revoked [customers] }

/-- The moment before the commit of the second record. -/
def beforeSkip : World :=
  momentOf (localDeployment gapLog) ⟨{}, 5⟩ (started (localDeployment gapLog) [] []) failingBatch

/-- The moment after it. -/
def afterSkip : World :=
  momentOf (localDeployment gapLog) ⟨{}, 5⟩ (started (localDeployment gapLog) [] [])
    (failingBatch ++ [({} : Choice)])

/-- After the fatal error the revoke callback stores the second record and commits behind it; the
first record was delivered and is lost. -/
theorem close_skips_failed_batch :
    beforeSkip.memory.fatal = true ∧ afterSkip.commits = (customers, 3) :: beforeSkip.commits ∧
      tombstone 0 ∈ afterSkip.delivered ∧
      ¬ Stored (localDeployment gapLog) afterSkip (tombstone 0) := by
  refine ⟨by decide +kernel, by decide +kernel, by decide +kernel, ?_⟩
  have rows : ∀ record ∈ afterSkip.manifest.rows, record.Durable → 0 < record.offsetStart := by
    decide +kernel
  rintro (bronze | quarantined)
  · obtain ⟨record, member, durable, low⟩ := bronze.row
    have := rows record member durable
    have zero : (tombstone 0).offset = 0 := rfl
    omega
  · exact (tombstone_event _ afterSkip 0).2 quarantined

/-- A poll fails while one record is queued. -/
def failingPoll : List Choice :=
  delivering 17 ++ [{ client := .failed ⟨.kafkaException, py "broker down"⟩ }] ++
    List.replicate 2 ({} : Choice)

/-- The closing client revokes the partition, and the callback stores the record. -/
def closingCall : List Choice :=
  failingPoll ++ [{ client := .revoked [customers] }] ++ List.replicate 31 ({} : Choice)

/-- Only the record that waits was delivered when the client is closed. -/
theorem failingPoll_clear :
    CloseClear (localDeployment tombstoneLog) (fun _ => True) { client := .revoked [customers] }
      (momentOf (localDeployment tombstoneLog) ⟨{}, 5⟩
        (started (localDeployment tombstoneLog) [] []) failingPoll) := by
  have delivered : (momentOf (localDeployment tombstoneLog) ⟨{}, 5⟩
      (started (localDeployment tombstoneLog) [] []) failingPoll).delivered = [tombstone 0] := by
    decide +kernel
  have queued : ((momentOf (localDeployment tombstoneLog) ⟨{}, 5⟩
      (started (localDeployment tombstoneLog) [] []) failingPoll).memory.batcher.queued
        customers).map (·.kafkaOffset) = [0] := by
    decide +kernel
  generalize momentOf (localDeployment tombstoneLog) ⟨{}, 5⟩
    (started (localDeployment tombstoneLog) [] []) failingPoll = world at delivered queued
  intro key revoked event waits message member _ _ below
  have same : key = customers := List.mem_singleton.mp (List.mem_filter.mp revoked).1
  rw [same] at waits
  have first : event.kafkaOffset = 0 := by
    have offset : event.kafkaOffset ∈ [(0 : Int)] := queued ▸ List.mem_map_of_mem waits
    exact List.mem_singleton.mp offset
  rw [delivered, List.mem_singleton] at member
  rw [member, first] at below
  exact absurd below (by decide)

/-- The closing client revokes once, and that meets the condition. -/
theorem closingCall_admitted {deployment : Deployment} {counted : RawKafkaMessage → Prop}
    (state : Action (Option ConsumerRunResult) × World)
    (closed : CloseClear deployment counted { client := .revoked [customers] }
      ((machine deployment).run failingPoll state).2) :
    Admitted (machine deployment) (clear deployment False counted)
      (closingCall ++ [({} : Choice)]) state := by
  have quiet : ∀ choices : List Choice,
      (∀ choice ∈ choices, ∀ keys, choice.client ≠ .revoked keys) →
      ∀ state : Action (Option ConsumerRunResult) × World,
        Admitted (machine deployment) (clear deployment False counted) choices state :=
    fun choices unrevoked state => Admitted.of_forall choices state fun choice member op _ =>
      clear_unrevoked op (fun no => no.elim) (unrevoked choice member)
  unfold closingCall
  rw [Admitted.append, Admitted.append, Admitted.append]
  refine ⟨⟨⟨quiet _ ?_ _, Admitted.single fun op => ?_⟩, quiet _ ?_ _⟩, quiet _ ?_ _⟩
  · intro choice member keys client
    simp only [failingPoll, delivering, List.mem_append, List.mem_replicate,
      List.mem_singleton] at member
    rcases member with (((⟨-, rfl⟩ | rfl) | ⟨-, rfl⟩) | rfl) | ⟨-, rfl⟩ <;> cases client
  · cases op with
    | poll => exact fun no => no.elim
    | closeConsumer => exact closed
    | _ => trivial
  · intro choice member keys client
    obtain ⟨-, rfl⟩ := List.mem_replicate.mp member
    cases client
  · intro choice member keys client
    obtain rfl := List.mem_singleton.mp member
    cases client

/-- The revoke callback stores the queued record after the fatal error and commits behind it. -/
theorem close_stores_queued_record :
    (momentOf (localDeployment tombstoneLog) ⟨{}, 5⟩
        (started (localDeployment tombstoneLog) [] []) closingCall).memory.fatal = true ∧
      Stored (localDeployment tombstoneLog) (momentOf (localDeployment tombstoneLog) ⟨{}, 5⟩
        (started (localDeployment tombstoneLog) [] []) (closingCall ++ [({} : Choice)]))
        (tombstone 0) := by
  have fatal : (momentOf (localDeployment tombstoneLog) ⟨{}, 5⟩
      (started (localDeployment tombstoneLog) [] []) closingCall).memory.fatal = true := by
    decide +kernel
  have committed : (momentOf (localDeployment tombstoneLog) ⟨{}, 5⟩
      (started (localDeployment tombstoneLog) [] []) (closingCall ++ [({} : Choice)])).commits =
        (customers, 1) :: (momentOf (localDeployment tombstoneLog) ⟨{}, 5⟩
          (started (localDeployment tombstoneLog) [] []) closingCall).commits := by
    decide +kernel
  have delivered : tombstone 0 ∈ (momentOf (localDeployment tombstoneLog) ⟨{}, 5⟩
      (started (localDeployment tombstoneLog) [] []) (closingCall ++ [({} : Choice)])).delivered :=
    by decide +kernel
  have condition : Meeting (localDeployment tombstoneLog) False (fun _ => True) ⟨{}, 5⟩
      (started (localDeployment tombstoneLog) [] []) (closingCall ++ [({} : Choice)]) :=
    closingCall_admitted _ failingPoll_clear
  exact ⟨fatal, fatal_error_never_skips (localDeployment tombstoneLog) [] [] ⟨{}, 5⟩
    (fun _ => True) closingCall {} condition fatal customers 1 committed (tombstone 0) delivered
    rfl trivial (by decide)⟩

end Cdc
