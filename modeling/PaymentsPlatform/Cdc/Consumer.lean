import PaymentsPlatform.Cdc.Protocol

/-!
# The consumer

`ReliableCdcConsumer`: the poll loop, the three ways a record is handled, the rebalance callbacks
and the shutdown. The fields of the consumer are read and written by effects, so a crash between
any two of them is a moment of a run. A rebalance callback runs inside a poll or inside the close
of the client; whatever it raises is raised there, and the client completes the rebalance.

The loop is bounded by a number of turns. A run whose turns are used up stops where it is, without
its shutdown, so the moments of all bounded runs are the moments of the unbounded one.
-/

namespace Cdc

open Python Effects

/-- How `run` is called, with the `dry_run` of the constructor. -/
structure RunOptions where
  /-- Nothing is written and nothing is committed. -/
  dryRun : Bool := false
  /-- Stop after two empty polls. -/
  once : Bool := false
  /-- Stop after so many records. -/
  maxMessages : Option Int := none

/-- `ConsumerRunResult`. -/
structure ConsumerRunResult where
  /-- The counters at the end. -/
  counters : Counters
  /-- `dry_run`. -/
  dryRun : Bool

/-- The fields of the consumer. -/
def loadMemory : Action ConsumerMemory := perform .load

/-- Write the fields of the consumer. -/
def saveMemory (memory : ConsumerMemory) : Action Unit := perform (.save memory)

/-- `datetime.now(UTC)`. -/
def readClock : Action Instant := perform .now

/-- `time.monotonic()` in milliseconds. -/
def readMonotonic : Action Int := perform .monotonic

/-- `_stop.is_set()`. -/
def stopRequested : Action Bool := perform .stopIsSet

/-- Change the counters. -/
def count (change : Counters → Counters) : Action Unit := do
  let memory ← loadMemory
  saveMemory { memory with counters := change memory.counters }

/-- Run an operation of the batcher. -/
def cut (operation : PartitionBatcher → Instant →
    Except PyError (List CdcBatch) × PartitionBatcher) : Action (List CdcBatch) := do
  let now ← readClock
  let memory ← loadMemory
  saveMemory { memory with batcher := (operation memory.batcher now).2 }
  Program.ofExcept (operation memory.batcher now).1

/-- `_flush_batches`. -/
def flushBatches (deployment : Deployment) (dryRun : Bool) : List CdcBatch → Action Unit
  | [] => return ()
  | batch :: batches => do
    count fun counters => { counters with batches := counters.batches + 1 }
    if dryRun then flushBatches deployment dryRun batches
    else
      let _ ← process deployment batch
      count fun counters => { counters with committed := counters.committed + 1 }
      flushBatches deployment dryRun batches

/-- `_on_revoke`. -/
def onRevoke (deployment : Deployment) (dryRun : Bool) (keys : List TopicPartitionKey) :
    Action Unit := do
  let batches ← cut fun batcher now => batcher.flushPartitions deployment.sha now keys
  flushBatches deployment dryRun batches

/-- `_on_assign`. -/
def onAssign (deployment : Deployment) (dryRun : Bool) (keys : List TopicPartitionKey) :
    Action Unit := do
  let memory ← loadMemory
  saveMemory { memory with assignmentSeen := true }
  if dryRun ∨ keys = [] then return ()
  else reconcileAssigned deployment keys

/-- What `Consumer.poll` returns. -/
inductive Polled
  | nothing
  | message (message : RawKafkaMessage)
  | endOfPartition
  | failed (error : PyError)

/-- The next thing the client does in a poll. -/
def serve : Action PollAnswer := perform .poll

/-- `Consumer.poll`: rebalances are served, each with its callback, until there is a record, an
error or a timeout. -/
def pollClient (deployment : Deployment) (dryRun : Bool) : Nat → Action Polled
  | 0 => return .nothing
  | turns + 1 => do
    match ← serve with
    | .nothing => return .nothing
    | .message message => return .message message
    | .endOfPartition => return .endOfPartition
    | .failed error => return .failed error
    | .assigned keys =>
      (onAssign deployment dryRun keys).ensure (perform (.assignPartitions keys))
      pollClient deployment dryRun turns
    | .revoked keys =>
      (onRevoke deployment dryRun keys).ensure (perform (.unassignPartitions keys))
      pollClient deployment dryRun turns

/-- Commit behind a record. -/
def commitRecord (message : RawKafkaMessage) : Action Unit := do
  commitNext message.topicPartition (message.offset + 1)
  count fun counters => { counters with committed := counters.committed + 1 }

/-- The handling of one record. A heartbeat is committed at once. -/
def handleRecord (deployment : Deployment) (dryRun : Bool) (message : RawKafkaMessage) :
    Action Unit := do
  count fun counters => { counters with polled := counters.polled + 1 }
  let observedAt ← readClock
  let today ← readClock
  match ← Program.ofExcept
      (parseDebeziumMessage deployment.parser observedAt today message) with
  | .event event =>
    count fun counters => { counters with events := counters.events + 1 }
    let batches ← cut fun batcher now => batcher.add deployment.sha event now
    flushBatches deployment dryRun batches
  | .poison poison =>
    count fun counters => { counters with poison := counters.poison + 1 }
    let batches ← cut fun batcher now =>
      batcher.flushPartition deployment.sha message.topicPartition now
    flushBatches deployment dryRun batches
    if dryRun then return ()
    else
      let _ ← writePoison deployment poison
      commitRecord message
  | .heartbeat =>
    count fun counters => { counters with heartbeats := counters.heartbeats + 1 }
    if dryRun then return ()
    else commitRecord message

/-- The `while` loop of `run`. It ends with `clean_shutdown`, or with nothing when the turns are
used up. -/
def consume (deployment : Deployment) (options : RunOptions) (deadline : Int) :
    Nat → Nat → Action (Option Bool)
  | 0, _ => return none
  | turns + 1, emptyPolls => do
    if ← stopRequested then return some true
    else match ← pollClient deployment options.dryRun turns with
      | .nothing =>
        let batches ← cut fun batcher now => batcher.flushDue deployment.sha now
        flushBatches deployment options.dryRun batches
        if options.once then
          let memory ← loadMemory
          if memory.assignmentSeen then
            if 2 ≤ emptyPolls + 1 then return some true
            else consume deployment options deadline turns (emptyPolls + 1)
          else
            let now ← readMonotonic
            if deadline ≤ now then
              raise .timeoutError "Kafka assignment was not received during bounded run"
            else consume deployment options deadline turns emptyPolls
        else consume deployment options deadline turns emptyPolls
      | .endOfPartition => consume deployment options deadline turns 0
      | .failed error => .raised error
      | .message message =>
        handleRecord deployment options.dryRun message
        let memory ← loadMemory
        if options.maxMessages.any fun most => most ≤ (memory.counters.polled : Int) then
          return some true
        else consume deployment options deadline turns 0

/-- The body of the `try` of `run`: the loop and the flush of a clean shutdown. -/
def consumeAndFlush (deployment : Deployment) (options : RunOptions) (deadline : Int)
    (turns : Nat) : Action (Option Unit) := do
  match ← consume deployment options deadline turns 0 with
  | none => return none
  | some clean =>
    if clean || (← stopRequested) then
      let batches ← cut fun batcher now => batcher.flushAll deployment.sha now
      flushBatches deployment options.dryRun batches
      return some ()
    else return some ()

/-- `except Exception: self._fatal = True; raise`. -/
def failed {α : Type} (error : PyError) : Action α := do
  let memory ← loadMemory
  saveMemory { memory with fatal := true }
  .raised error

/-- The partitions the client revokes when it closes. -/
def closing : Action (List TopicPartitionKey) := perform .closeConsumer

/-- `Consumer.close`: the client may run the revoke callback for assigned partitions. -/
def closeClient (deployment : Deployment) (dryRun : Bool) : Action Unit := do
  let keys ← closing
  if keys = [] then return ()
  else (onRevoke deployment dryRun keys).ensure (perform (.unassignPartitions keys))

/-- The longest wait for an assignment in milliseconds. -/
def assignmentPatience (settings : CdcConsumerSettings) : Int :=
  min 30000 (max 10000 settings.sessionTimeoutMs)

/-- `ReliableCdcConsumer.run`, for so many turns of its loop. -/
def run (deployment : Deployment) (options : RunOptions) (turns : Nat) :
    Action (Option ConsumerRunResult) :=
  if options.maxMessages.any fun most => most ≤ 0 then
    raise .valueError "max_messages must be greater than zero"
  else do
    perform .subscribe
    let start ← readMonotonic
    let ended ← ((consumeAndFlush deployment options
      (start + assignmentPatience deployment.settings) turns).handle failed).outcome
    match ended with
    | .ok none => return none
    | .ok (some ()) =>
      closeClient deployment options.dryRun
      let memory ← loadMemory
      return some ⟨memory.counters, options.dryRun⟩
    | .error error =>
      closeClient deployment options.dryRun
      .raised error

/-- A call of `run`. -/
structure RunRequest where
  /-- Its arguments. -/
  options : RunOptions
  /-- The turns of its loop. -/
  turns : Nat

/-- A new consumer process: its memory is new, and its client has no partitions. -/
def restart (deployment : Deployment) (world : World) : World :=
  { world with
    memory := deployment.newMemory
    positions := fun _ => none
    delivered := []
    stopSet := false }

/-- Consumer processes, one after another, over a deployment. -/
def consumer (deployment : Deployment) :
    Service signature PyError World Choice RunRequest where
  machine := machine deployment
  code request := (run deployment request.options request.turns).bind fun _ => .done ()
  boot _ world := restart deployment world

end Cdc
