import PaymentsPlatform.Python.TextOrder
import PaymentsPlatform.Silver.Conservation
import PaymentsPlatform.Silver.SettlementRuns

/-!
# The order of the runs

Every run registers itself at a reading of the clock, moves only its own row, and completes it at
that reading. So while every run starts later than all runs before it, and no two runs start in one
second of which the first one starts without a fraction, the rows of the manifest are in the order
of the texts of their starts, whatever fails and wherever a process dies.
-/

namespace Silver

open Python Effects
open Settlement (SettlementContract)

variable {deployment : Deployment}

/-! ## The rows -/

/-- The rows of the manifest tell when their runs started, later rows later. -/
structure Chronological (rows : List ProcessingRun) : Prop where
  /-- The start is the text of an instant. -/
  timed : ∀ row ∈ rows, ∃ start : Instant, row.startedAt = start.utcIso
  /-- The texts are in the order of the rows. -/
  increasing : rows.Pairwise fun left right => left.startedAt < right.startedAt
  /-- A run completes at the reading it started with. -/
  completed : ∀ row ∈ rows, row.status = .completed → row.completedAt = some row.startedAt

/-- No rows. -/
theorem Chronological.nil : Chronological [] where
  timed := fun _ member => by cases member
  increasing := List.Pairwise.nil
  completed := fun _ member => by cases member

/-! ## The clock -/

/-- The clock shows a later time than at the start of every run before. -/
def Later (world : World) (now : Instant) : Prop :=
  ∀ row ∈ world.manifest.rows,
    (parseTimestamp row.startedAt).all fun start => decide (start.micros < now.micros)

instance (world : World) (now : Instant) : Decidable (Later world now) :=
  inferInstanceAs (Decidable (∀ row ∈ world.manifest.rows, _))

/-- No run before started in the same second without a fraction. -/
def Apart (world : World) (now : Instant) : Prop :=
  ∀ row ∈ world.manifest.rows, (parseTimestamp row.startedAt).all fun start =>
    decide (¬ (start.seconds = now.seconds ∧ start.microsecond = 0))

instance (world : World) (now : Instant) : Decidable (Apart world now) :=
  inferInstanceAs (Decidable (∀ row ∈ world.manifest.rows, _))

/-- A time later than all starts before, and apart from them. -/
def LaterApart (world : World) (now : Instant) : Prop := Later world now ∧ Apart world now

instance (world : World) (now : Instant) : Decidable (LaterApart world now) :=
  inferInstanceAs (Decidable (Later world now ∧ Apart world now))

/-- The clock is read under a condition. -/
def Clocked (clock : World → Instant → Prop) : Op → Choice → World → Prop
  | .now, choice, world => clock world choice.clock
  | _, _, _ => True

/-- Rows that start when chronological rows do, and complete when they start. -/
theorem Chronological.restarted {rows after : List ProcessingRun} (order : Chronological rows)
    (starts : after.map (·.startedAt) = rows.map (·.startedAt))
    (ends : ∀ row ∈ after, row.status = .completed → row.completedAt = some row.startedAt) :
    Chronological after where
  timed := by
    intro row member
    have listed : row.startedAt ∈ rows.map (·.startedAt) := by
      rw [← starts]
      exact List.mem_map_of_mem member
    obtain ⟨other, inside, same⟩ := List.mem_map.mp listed
    rw [← same]
    exact order.timed other inside
  increasing := by
    have texts : (rows.map (·.startedAt)).Pairwise (· < ·) := List.pairwise_map.mpr order.increasing
    rw [← starts] at texts
    exact List.pairwise_map.mp texts
  completed := ends

/-- A run that starts later than all others, and apart from them, comes last. -/
theorem Chronological.registered {world : World} {now : Instant} {run : ProcessingRun}
    (order : Chronological world.manifest.rows) (admitted : LaterApart world now)
    (started : run.startedAt = now.utcIso) (open' : run.status ≠ .completed) :
    Chronological (world.manifest.rows ++ [run]) := by
  obtain ⟨later, apart⟩ := admitted
  refine ⟨?_, ?_, ?_⟩
  · intro row member
    rcases List.mem_append.mp member with inside | final
    · exact order.timed row inside
    · rw [List.mem_singleton.mp final]
      exact ⟨now, started⟩
  · refine List.pairwise_append.mpr ⟨order.increasing, List.pairwise_singleton _ _, ?_⟩
    intro row inside final member
    rw [List.mem_singleton.mp member]
    obtain ⟨start, begun⟩ := order.timed row inside
    have below := later row inside
    have distinct := apart row inside
    rw [begun, parseTimestamp_utcIso, Option.all_some, decide_eq_true_eq] at below distinct
    rw [begun, started]
    exact (Instant.utcIso_lt_iff below).mpr distinct
  · intro row member status
    rcases List.mem_append.mp member with inside | final
    · exact order.completed row inside status
    · rw [List.mem_singleton.mp final] at status
      exact absurd status open'

/-! ## The effects of a run -/

/-- The effect is one of a run that started at a time: it registers nothing, changes no other run,
and completes the run at this time. -/
def OfRun (runId : PyStr) (now : Instant) : Op → Prop
  | .register _ => False
  | .transition changed status updates => changed = runId ∧ (status = .completed →
      ∀ run : ProcessingRun, (run.assign status updates).completedAt = some now.utcIso)
  | _ => True

/-- The rows are in chronological order, and the one of the run starts at the time. -/
structure Dated (runId : PyStr) (now : Instant) (world : World) : Prop where
  /-- The order. -/
  order : Chronological world.manifest.rows
  /-- The start. -/
  starts : ∀ row ∈ world.manifest.rows, row.runId = runId → row.startedAt = now.utcIso

variable {runId : PyStr} {now : Instant}

/-- A transition of the run. -/
theorem Dated.transition {world : World} {status : ProcessingStatus} {updates : List Assignment}
    (dated : Dated runId now world) (ends : status = .completed →
      ∀ run : ProcessingRun, (run.assign status updates).completedAt = some now.utcIso)
    (choice : Choice) :
    Dated runId now (effect deployment (.transition runId status updates) choice world).2 := by
  obtain ⟨current, found, -, done⟩ | ⟨problem, -, done⟩ :=
    transition_spec world.manifest runId status updates
  · simp only [effect, done]
    obtain ⟨member, key⟩ := Relational.Table.get_eq_some.mp found
    obtain ⟨same, moved⟩ := current.assign_same status updates
    have named : (current.assign status updates).runId = runId := same.runId.trans key
    have begun : (current.assign status updates).startedAt = now.utcIso :=
      same.startedAt.trans (dated.starts current member key)
    have rows : (world.manifest.put (current.assign status updates)).rows =
        world.manifest.rows.map fun row =>
          if row.runId = runId then current.assign status updates else row := by
      unfold Relational.Table.put
      rw [dif_neg (by rw [named, found]; exact Option.some_ne_none current)]
      unfold Relational.Table.update
      dsimp only
      rw [named]
    -- a row of the new table is the changed one or an old one
    have each : ∀ row ∈ (world.manifest.put (current.assign status updates)).rows,
        row = current.assign status updates ∨ row ∈ world.manifest.rows := by
      intro row inside
      rw [rows] at inside
      obtain ⟨old, listed, rfl⟩ := List.mem_map.mp inside
      split
      · exact Or.inl rfl
      · exact Or.inr listed
    refine ⟨dated.order.restarted ?_ ?_, ?_⟩
    · rw [rows, List.map_map]
      refine List.map_congr_left fun row listed => ?_
      rw [Function.comp_apply]
      split
      · rename_i own
        rw [begun, dated.starts row listed own]
      · rfl
    · intro row inside completed
      obtain rfl | old := each row inside
      · rw [begun]
        exact ends (moved.symm.trans completed) current
      · exact dated.order.completed row old completed
    · intro row inside own
      obtain rfl | old := each row inside
      · exact begun
      · exact dated.starts row old own
  · simp only [effect, done]
    exact dated

/-- An effect of the run keeps the order. -/
theorem OfRun.dated {op : Op} (ofRun : OfRun runId now op) (choice : Choice) {world : World}
    (dated : Dated runId now world) :
    Dated runId now ((machine deployment).act op choice world).2 := by
  have taken : Dated runId now (effect deployment op choice world).2 := by
    cases op with
    | transition changed status updates =>
      obtain ⟨rfl, ends⟩ := ofRun
      exact dated.transition ends choice
    | register run => cases ofRun
    | put uri data =>
      have manifest : (putEffect deployment.sha uri data world).2.manifest = world.manifest := by
        unfold putEffect
        split
        · rfl
        · split
          · rfl
          · rfl
      change Dated runId now (putEffect deployment.sha uri data world).2
      exact ⟨by rw [manifest]; exact dated.order, by rw [manifest]; exact dated.starts⟩
    | _ => exact dated
  obtain act | ⟨fault, -, act | act⟩ := act_cases deployment op choice world
  · rw [act]
    exact taken
  · rw [act]
    exact dated
  · rw [act]
    exact taken

/-- What only looks is an effect of any run. -/
theorem Looks.ofRun {op : Op} (looks : Looks op) : OfRun runId now op := by
  cases op <;> trivial

/-- A transition of the run that does not complete it. -/
theorem transition_ofRun {status : ProcessingStatus} (updates : List Assignment)
    (open' : status ≠ .completed) :
    (perform (.transition runId status updates)).Uses (OfRun runId now) :=
  Program.Uses.request ⟨rfl, fun completed => absurd completed open'⟩

/-- `_write_rows`. -/
theorem writeRows_ofRun (run : Run) (kind : OutputType) (placement : Placement) (table : Table) :
    (writeRows deployment run kind placement table).Uses (OfRun runId now) :=
  Program.Uses.bind (Program.Uses.request trivial) fun _ =>
    Program.Uses.bind (Program.Uses.ofExcept _) fun _ =>
      Program.Uses.bind (Program.Uses.request trivial) fun _ => trivial

/-- An output that is written when there is something to write. -/
theorem writeSome_ofRun (run : Run) (kind : OutputType) (placement : Placement) (table : Table) :
    (writeSome deployment run kind placement table).Uses (OfRun runId now) := by
  unfold writeSome
  split
  · trivial
  · exact Program.Uses.bind (writeRows_ofRun run kind placement table) fun _ => trivial

/-- The outputs of the entity's own rows. -/
theorem writeEntityRows_ofRun (run : Run) (eventDate : Date) (build : Build) :
    (writeEntityRows deployment run eventDate build).Uses (OfRun runId now) := by
  unfold writeEntityRows
  split
  · exact writeSome_ofRun run ..
  · exact Program.Uses.bind (Program.Uses.ofExcept _) fun _ =>
      Program.Uses.bind (writeRows_ofRun run ..) fun _ =>
        Program.Uses.bind (writeRows_ofRun run ..) fun _ => trivial

/-- `mark_failed`. -/
theorem markFailed_ofRun (problem : PyError) :
    (markFailed runId problem).Uses (OfRun runId now) := by
  refine Program.Uses.bind (Program.Uses.request trivial) fun current => ?_
  cases current with
  | none => trivial
  | some current =>
    dsimp only
    split
    · trivial
    · exact Program.Uses.bind (Program.Uses.request trivial) fun _ =>
        transition_ofRun _ (by decide)

/-- `_transform_and_write_cdc`. -/
theorem transformAndWriteCdc_ofRun (run : Run) (events : List NormalizedCdcEvent)
    (rejections : List QualityRejection) :
    (transformAndWriteCdc deployment run events rejections).Uses (OfRun run.runId now) := by
  have looks : ∀ op, Looks op → OfRun run.runId now op := fun _ looks => looks.ofRun
  refine Program.Uses.bind ((loadLatestState_looks run).mono looks) fun state => ?_
  refine Program.Uses.bind ((knownReferenceKeys_looks _).mono looks) fun known => ?_
  refine Program.Uses.bind (Program.Uses.ofExcept _) fun build => ?_
  refine Program.Uses.bind (transition_ofRun _ (by decide)) fun _ => ?_
  refine Program.Uses.bind (writeSome_ofRun run ..) fun history => ?_
  refine Program.Uses.bind (writeEntityRows_ofRun run ..) fun rows => ?_
  refine Program.Uses.bind (writeSome_ofRun run ..) fun rejected => ?_
  exact Program.Uses.bind (writeSome_ofRun run ..) fun _ => trivial

/-- The body of `process_cdc`. -/
theorem processBody_ofRun (run : Run) :
    (processBody deployment run).Uses (OfRun run.runId run.now) := by
  refine Program.Uses.bind (transition_ofRun _ (by decide)) fun _ => ?_
  refine Program.Uses.bind ((readCdc_looks _).mono fun _ looks => looks.ofRun) fun rows => ?_
  refine Program.Uses.bind (transition_ofRun _ (by decide)) fun _ => ?_
  refine Program.Uses.bind (Program.Uses.ofExcept _) fun normal => ?_
  refine Program.Uses.bind (transition_ofRun _ (by decide)) fun _ => ?_
  refine Program.Uses.bind (transformAndWriteCdc_ofRun run ..) fun written => ?_
  exact Program.Uses.bind (Program.Uses.request ⟨rfl, fun _ _ => rfl⟩) fun _ => trivial

/-- The handlers of `process_cdc`. -/
theorem processHandler_ofRun (run : Run) (problem : PyError) :
    (processHandler run problem).Uses (OfRun run.runId run.now) := by
  unfold processHandler
  split
  · refine Program.Uses.bind (Program.Uses.request trivial) fun current => ?_
    cases current with
    | none => trivial
    | some current =>
      dsimp only
      split
      · exact Program.Uses.bind (transition_ofRun _ (by decide)) fun _ => trivial
      · trivial
  · exact Program.Uses.bind (markFailed_ofRun problem) fun _ => trivial

/-- The content of a settlement object is looked at. -/
theorem readSettlement_looks (contract : Except PyError SettlementContract)
    (object : SettlementObject) (run : Run) :
    (readSettlement deployment contract object run).Uses Looks := by
  refine Program.Uses.bind (Program.Uses.bind (Program.Uses.request trivial) fun _ =>
    Program.Uses.ofExcept _) fun payload => ?_
  exact Program.Uses.bind (Program.Uses.ofExcept _) fun _ => Program.Uses.ofExcept _

/-- The body of `process_settlement`. -/
theorem settlementBody_ofRun (contract : Except PyError SettlementContract)
    (object : SettlementObject) (run : Run) :
    (settlementBody deployment contract object run).Uses (OfRun run.runId run.now) := by
  refine Program.Uses.bind (transition_ofRun _ (by decide)) fun _ => ?_
  refine Program.Uses.bind ((readSettlement_looks contract object run).mono
    fun _ looks => looks.ofRun) fun normal => ?_
  refine Program.Uses.bind (transition_ofRun _ (by decide)) fun _ => ?_
  refine Program.Uses.bind (transition_ofRun _ (by decide)) fun _ => ?_
  refine Program.Uses.bind (transition_ofRun _ (by decide)) fun _ => ?_
  refine Program.Uses.bind (writeSome_ofRun run ..) fun settlements => ?_
  refine Program.Uses.bind (writeSome_ofRun run ..) fun rejected => ?_
  exact Program.Uses.bind (Program.Uses.request ⟨rfl, fun _ _ => rfl⟩) fun _ => trivial

/-! ## The calls -/

/-- What an effect may do to rows in chronological order: leave them in it. -/
def Ordered (before after : World) : Prop :=
  Chronological before.manifest.rows → Chronological after.manifest.rows

/-- A part of a call keeps the order while the clock goes on as it should. -/
def Orders (deployment : Deployment) {α : Type} (post : α → World → Prop) (program : Action α)
    (world : World) : Prop :=
  Meets (machine deployment) (.sequential (Clocked LaterApart) Ordered) post (fun _ _ => True)
    program world

/-- One effect, from what it does when it takes place. -/
theorem orders_perform {op : Op} {post : op.Answer → World → Prop} {world : World}
    (takes : ∀ choice, Clocked LaterApart op choice world →
      Ordered world (effect deployment op choice world).2 ∧
      ∀ answer, (effect deployment op choice world).1 = .ok answer →
        post answer (effect deployment op choice world).2) :
    Orders deployment post (perform op) world := by
  refine Meets.request ?_
  rintro moved ⟨rfl⟩ choice admitted
  obtain ⟨ordered, ends⟩ := takes choice admitted
  obtain act | ⟨fault, -, act | act⟩ := act_cases deployment op choice world
  · rw [act]
    refine ⟨ordered, ?_⟩
    cases outcome : (effect deployment op choice world).1 with
    | ok answer => exact ends answer outcome
    | error problem => trivial
  · rw [act]
    exact ⟨id, trivial⟩
  · rw [act]
    exact ⟨ordered, trivial⟩

/-- Sequencing. -/
theorem Orders.seq {α β : Type} {middle : α → World → Prop} {post : β → World → Prop}
    {program : Action α} {next : α → Action β} {world : World}
    (first : Orders deployment middle program world)
    (rest : ∀ value end', middle value end' → Orders deployment post (next value) end') :
    Orders deployment post (program.bind next) world :=
  Meets.bind (Meets.mono first rest fun _ _ ends => ends)

/-- A part that only looks. -/
theorem looks_orders {α : Type} {program : Action α} (uses : program.Uses Looks) (world : World) :
    Orders deployment (fun _ end' => end' = world) program world := by
  refine Meets.mono (Meets.of_uses_with (I := fun end' => end' = world) uses ?_ rfl)
    (fun _ _ same => same) fun _ _ _ => trivial
  rintro op looks choice end' rfl
  rw [looks.act]
  exact ⟨id, rfl⟩

/-- A part with effects of a run that is registered. -/
theorem ofRun_orders {α : Type} {program : Action α} (uses : program.Uses (OfRun runId now))
    {world : World} (dated : Dated runId now world) :
    Orders deployment (fun _ _ => True) program world := by
  refine Meets.mono (Meets.of_uses_with (I := Dated runId now) uses ?_ dated)
    (fun _ _ _ => trivial) fun _ _ _ => trivial
  intro op ofRun choice end' kept
  have after : Dated runId now ((machine deployment).act op choice end').2 :=
    ofRun.dated choice kept
  exact ⟨fun _ => after.order, after⟩

/-- A call that reads the clock, registers a run of this time and goes on with effects of the
run. -/
theorem started_orders {dryRun : Bool} {row : Instant → PyStr → ProcessingRun}
    {look rest : Instant → PyStr → Action ProcessingResult} {world : World}
    (order : Chronological world.manifest.rows)
    (named : ∀ now runId, (row now runId).runId = runId)
    (starts : ∀ now runId, (row now runId).startedAt = now.utcIso)
    (new : ∀ now runId, (row now runId).status ≠ .completed)
    (looks : ∀ now runId, (look now runId).Uses Looks)
    (uses : ∀ now runId, (rest now runId).Uses (OfRun runId now)) :
    Orders deployment (fun _ _ => True)
      ((perform .now).bind fun now => (perform .newRunId).bind fun runId =>
        if dryRun = true then look now runId
        else (perform (.register (row now runId))).bind fun _ => rest now runId) world := by
  have reads : Orders deployment (fun now end' => end' = world ∧ LaterApart world now)
      (perform .now) world :=
    orders_perform fun choice admitted =>
      ⟨id, fun now read => ⟨rfl, Except.ok.inj read ▸ admitted⟩⟩
  refine reads.seq ?_
  rintro now end' ⟨rfl, admitted⟩
  have names : Orders deployment (fun _ end'' => end'' = end') (perform .newRunId) end' :=
    orders_perform fun _ _ => ⟨id, fun _ _ => rfl⟩
  refine names.seq ?_
  rintro runId end'' rfl
  split
  · exact Meets.mono (looks_orders (looks now runId) end'') (fun _ _ _ => trivial)
      fun _ _ _ => trivial
  · have registers : Orders deployment (fun _ end' => Dated runId now end')
        (perform (.register (row now runId))) end'' := by
      refine orders_perform fun choice _ => ?_
      obtain ⟨absent, done⟩ | ⟨problem, done⟩ := register_spec end''.manifest (row now runId)
      · have after : Chronological (end''.manifest.rows ++ [row now runId]) :=
          order.registered admitted (starts now runId) (new now runId)
        simp only [effect, done]
        refine ⟨fun _ => after, fun _ _ => ⟨after, ?_⟩⟩
        intro other member own
        rcases List.mem_append.mp member with inside | final
        · exact absurd (own.trans (named now runId).symm)
            (Relational.Table.get_eq_none.mp absent other inside)
        · rw [List.mem_singleton.mp final]
          exact starts now runId
      · simp only [effect, done]
        exact ⟨id, fun _ no => by cases no⟩
    exact registers.seq fun _ _ dated => ofRun_orders (uses now runId) dated

/-- A call that looks for the prior run of its identity, and goes on. -/
theorem lookup_orders {identity : RunIdentity}
    {next : Option ProcessingRun → Action ProcessingResult} {world : World}
    (continues : ∀ prior, Orders deployment (fun _ _ => True) (next prior) world) :
    Orders deployment (fun _ _ => True) ((perform (.findLatestIdentity identity)).bind next)
      world := by
  have looks : (perform (.findLatestIdentity identity)).Uses Looks :=
    Program.Uses.request (show Looks (.findLatestIdentity identity) from trivial)
  refine (looks_orders looks world).seq ?_
  rintro prior end' rfl
  exact continues prior

/-- `process_cdc`. -/
theorem processCdc_orders (request : ProcessRequest) {world : World}
    (order : Chronological world.manifest.rows) :
    Orders deployment (fun _ _ => True) (processCdc deployment request) world := by
  have starting : Orders deployment (fun _ _ => True) (startRun deployment request) world := by
    refine started_orders order (fun _ _ => rfl) (fun _ _ => rfl)
      (fun _ _ => (by decide : ProcessingStatus.discovered ≠ .completed)) ?_ ?_
    · intro now runId
      exact Program.Uses.bind (readCdc_looks _) fun _ =>
        Program.Uses.bind (Program.Uses.ofExcept _) fun _ => trivial
    · intro now runId
      exact Program.Uses.handle (processBody_ofRun _) fun problem =>
        processHandler_ofRun (runOf request runId now) problem
  refine lookup_orders fun prior => ?_
  cases prior with
  | none => exact starting
  | some prior =>
    cases forced : request.forceReprocess with
    | false => trivial
    | true => exact starting

/-- `process_settlement`. -/
theorem processSettlement_orders (contract : Except PyError SettlementContract)
    (request : SettlementRequest) {world : World} (order : Chronological world.manifest.rows) :
    Orders deployment (fun _ _ => True) (processSettlement deployment contract request) world := by
  have starting : Orders deployment (fun _ _ => True)
      (startSettlement deployment contract request) world := by
    refine started_orders order (fun _ _ => rfl) (fun _ _ => rfl)
      (fun _ _ => (by decide : ProcessingStatus.discovered ≠ .completed)) ?_ ?_
    · intro now runId
      exact Program.Uses.bind (readSettlement_looks contract _ _) fun _ => trivial
    · intro now runId
      exact Program.Uses.handle (settlementBody_ofRun contract _ _) fun problem =>
        Program.Uses.bind (markFailed_ofRun problem) fun _ => trivial
  refine lookup_orders fun prior => ?_
  cases prior with
  | none => exact starting
  | some prior =>
    cases forced : request.forceReprocess with
    | false => trivial
    | true => exact starting

end Silver
