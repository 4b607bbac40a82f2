import PaymentsPlatform.Silver.Fates
import PaymentsPlatform.Silver.Publication

/-!
# Every row of a completed run is accounted for

`process_cdc` from an arbitrary world: any manifest, any stored objects, any failures. A run that is
`COMPLETED` afterwards and was not before is the run of the call. Its counts are those of its
work, its outputs are on file, and its work accounts for every row of the object.
-/

namespace Silver

open Python Effects

variable {deployment : Deployment} {request : ProcessRequest} {base : PyStr → Option Bytes}
  {earlier : List ProcessingRun}

/-- A table is on file as an output describes it: the object at the address has the digest of the
file of the table. -/
structure Filed (deployment : Deployment) (objects : PyStr → Option Bytes)
    (planned : OutputType × Table) (output : SilverOutput) : Prop where
  /-- The kind of output. -/
  outputType : output.outputType = planned.1
  /-- The rows. -/
  recordCount : output.recordCount = planned.2.rowCount
  /-- The object and the file of the table have the digest of the output. -/
  present : ∃ data content, deployment.format.write planned.2 = .ok data ∧
    objects output.objectUri = some content ∧
    deployment.sha.hexdigest content = deployment.sha.hexdigest data ∧
    output.checksumSha256 = deployment.sha.hexdigest data

/-- What is on file stays on file. -/
theorem Filed.mono {before after : PyStr → Option Bytes} {planned : OutputType × Table}
    {output : SilverOutput} (kept : Preserved before after)
    (filed : Filed deployment before planned output) : Filed deployment after planned output := by
  obtain ⟨data, content, written, present, same, digest⟩ := filed.present
  exact ⟨filed.outputType, filed.recordCount, data, content, written, kept _ _ present, same,
    digest⟩

/-- A row of the manifest is the completion of the work of a call. -/
structure Completion (deployment : Deployment) (objects : PyStr → Option Bytes)
    (earlier : List ProcessingRun) (request : ProcessRequest) (work : Work)
    (row : ProcessingRun) : Prop where
  /-- The run is the one of the call. -/
  called : work.run = runOf request work.run.runId work.run.now
  /-- The row is the one the run registered. -/
  same : SameRun (registeredRun deployment work.run) row
  /-- The work is done. -/
  done : Done deployment objects earlier work
  /-- `input_record_count` counts the rows. -/
  input : row.inputRecordCount = work.rows.length
  /-- `rejected_record_count` counts the rejections. -/
  rejected : row.rejectedRecordCount = work.build.rejections.length
  /-- The tables of the run are on file. -/
  outputs : List.Forall₂ (Filed deployment objects)
    (planTables work.entity work.accepted work.build) row.outputs

/-- A completion stays one. -/
theorem Completion.mono {before after : PyStr → Option Bytes} {work : Work} {row : ProcessingRun}
    (kept : Preserved before after)
    (completion : Completion deployment before earlier request work row) :
    Completion deployment after earlier request work row :=
  ⟨completion.called, completion.same, completion.done.mono kept, completion.input,
    completion.rejected, completion.outputs.imp fun _ _ filed => filed.mono kept⟩

/-- What a call may do to the world: objects stay, and a run that is completed was so before or is
completed by the work of the call, on the snapshot that was there at its start. -/
structure Grows (deployment : Deployment) (request : ProcessRequest)
    (base : PyStr → Option Bytes) (earlier : List ProcessingRun) (before after : World) : Prop where
  /-- Stored objects stay. -/
  objects : Preserved before.objects after.objects
  /-- Where a completed run comes from. -/
  completed : ∀ row ∈ after.manifest.rows, row.status = .completed →
    row ∈ before.manifest.rows ∨
      ∃ work, Completion deployment after.objects earlier request work row ∧
        priorState deployment base earlier work.run = some work.state

namespace Grows

variable {first second third : World}

/-- Nothing happens. -/
theorem refl (world : World) : Grows deployment request base earlier world world :=
  ⟨fun _ _ present => present, fun _ member _ => Or.inl member⟩

/-- One after the other. -/
theorem trans (one : Grows deployment request base earlier first second)
    (two : Grows deployment request base earlier second third) :
    Grows deployment request base earlier first third := by
  refine ⟨fun uri data present => two.objects uri data (one.objects uri data present), ?_⟩
  intro row member completed
  rcases two.completed row member completed with old | new
  · rcases one.completed row old completed with older | ⟨work, completion, prior⟩
    · exact Or.inl older
    · exact Or.inr ⟨work, completion.mono two.objects, prior⟩
  · exact Or.inr new

/-- Any number of steps. -/
theorem along (path : Relation.ReflTransGen (Grows deployment request base earlier) first second) :
    Grows deployment request base earlier first second := by
  induction path with
  | refl => exact refl first
  | tail _ step ih => exact ih.trans step

/-- Objects are stored. -/
theorem of_objects (kept : Preserved first.objects second.objects)
    (manifest : second.manifest = first.manifest) :
    Grows deployment request base earlier first second :=
  ⟨kept, fun _ member _ => Or.inl (manifest ▸ member)⟩

/-- The last row of the manifest changes. -/
theorem of_last {rows : List ProcessingRun} {row next : ProcessingRun}
    (here : first.manifest.rows = rows ++ [row]) (there : second.manifest.rows = rows ++ [next])
    (objects : second.objects = first.objects)
    (justified : next.status = .completed →
      ∃ work, Completion deployment second.objects earlier request work next ∧
        priorState deployment base earlier work.run = some work.state) :
    Grows deployment request base earlier first second := by
  refine ⟨fun uri data present => objects ▸ present, ?_⟩
  intro other member completed
  rw [there] at member
  rcases List.mem_append.mp member with old | new
  · exact Or.inl (here ▸ List.mem_append_left _ old)
  · obtain rfl := List.mem_singleton.mp new
    exact Or.inr (justified completed)

end Grows

/-- A part of a call grows the world, and ends with the given conditions. -/
def Conserves (deployment : Deployment) (request : ProcessRequest)
    (base : PyStr → Option Bytes) (earlier : List ProcessingRun) {α : Type}
    (post : α → World → Prop) (error : World → Prop) (program : Action α) (world : World) : Prop :=
  Meets (machine deployment)
    (.sequential (fun _ _ _ => True) (Grows deployment request base earlier)) post
    (fun _ end' => error end') program world

namespace Conserves

variable {α β : Type} {post : α → World → Prop} {error : World → Prop} {program : Action α}
  {world : World}

/-- Weaker end conditions are met as well. -/
theorem mono {post' : α → World → Prop} {error' : World → Prop}
    (conserves : Conserves deployment request base earlier post error program world)
    (post_le : ∀ value end', post value end' → post' value end')
    (error_le : ∀ end', error end' → error' end') :
    Conserves deployment request base earlier post' error' program world :=
  Meets.mono conserves post_le fun _ end' => error_le end'

/-- Sequencing. -/
theorem seq {M : α → World → Prop} {post : β → World → Prop} {next : α → Action β}
    (first : Conserves deployment request base earlier M error program world)
    (rest : ∀ value end', M value end' →
      Conserves deployment request base earlier post error (next value) end') :
    Conserves deployment request base earlier post error (program.bind next) world :=
  Meets.bind (Meets.mono first rest fun _ _ ends => ends)

/-- A computation without effects. -/
theorem ofExcept {P : α → World → Prop} {outcome : Except PyError α}
    (value_ok : ∀ value, outcome = .ok value → P value world) (error_ok : error world) :
    Conserves deployment request base earlier P error (Program.ofExcept outcome) world :=
  Meets.ofExcept value_ok fun _ _ => error_ok

end Conserves

/-- One effect, from what it does when it takes place. -/
theorem conserves_perform {op : Op} {post : op.Answer → World → Prop} {error : World → Prop}
    {world : World}
    (takes : ∀ choice,
      Grows deployment request base earlier world (effect deployment op choice world).2 ∧
      (∀ answer, (effect deployment op choice world).1 = .ok answer →
        post answer (effect deployment op choice world).2) ∧
      error (effect deployment op choice world).2)
    (stays : error world) :
    Conserves deployment request base earlier post error (perform op) world := by
  refine Meets.request ?_
  rintro moved ⟨rfl⟩ choice -
  obtain ⟨grows, ends, failed⟩ := takes choice
  obtain act | ⟨fault, -, act | act⟩ := act_cases deployment op choice world
  · rw [act]
    refine ⟨grows, ?_⟩
    cases outcome : (effect deployment op choice world).1 with
    | ok answer => exact ends answer outcome
    | error problem => exact failed
  · rw [act]
    exact ⟨Grows.refl world, stays⟩
  · rw [act]
    exact ⟨grows, failed⟩

/-! ## Reading -/

/-- The effect only looks, and does not ask for a run identifier. -/
def Looks : Op → Prop
  | .now | .wallClock | .getRun _ | .findLatestIdentity _ | .latestOutput _ _ _ | .readBronze _
  | .readSilver _ | .serialize _ => True
  | _ => False

/-- What only looks changes nothing. -/
theorem Looks.act {op : Op} (looks : Looks op) (choice : Choice) (world : World) :
    ((machine deployment).act op choice world).2 = world := by
  have same : (effect deployment op choice world).2 = world := by
    cases op <;> first | rfl | cases looks
  obtain act | ⟨fault, -, act | act⟩ := act_cases deployment op choice world
  · rw [act, same]
  · rw [act]
  · rw [act, same]

/-- A part that only looks ends as it does under the other rules. -/
theorem Keeps.looking {α : Type} {post : α → World → Prop} {error : World → Prop}
    {program : Action α} {world : World} (keeps : Keeps deployment {} post error program world)
    (uses : program.Uses Looks) :
    Conserves deployment request base earlier post error program world := by
  refine Meets.within keeps uses (fun _ _ same => same) ?_ ?_
  · intro op looks choice moved _
    cases op <;> trivial
  · intro op looks choice moved
    rw [looks.act]
    exact Grows.refl moved

/-- One effect that only looks. -/
theorem looks_conserves (op : Op) (looks : Looks op) (world : World) :
    Conserves deployment request base earlier (fun _ end' => end' = world) (fun _ => True)
      (perform op) world := by
  refine Meets.request ?_
  rintro moved ⟨rfl⟩ choice -
  rw [looks.act]
  refine ⟨Grows.refl world, ?_⟩
  cases ((machine deployment).act op choice world).1 with
  | ok answer => rfl
  | error problem => trivial

/-- `read_cdc` looks. -/
theorem readCdc_looks (object : InputObject) : (readCdc deployment object).Uses Looks :=
  Program.Uses.bind (Program.Uses.request trivial) fun _ => Program.Uses.ofExcept _

/-- `read_table` looks. -/
theorem readTable_looks (uri : PyStr) (entity : Entity) :
    (readTable deployment uri entity).Uses Looks := by
  refine Program.Uses.bind (Program.Uses.request trivial) fun data => ?_
  refine Program.Uses.bind (Program.Uses.ofExcept _) fun table => ?_
  cases table with
  | state other rows =>
    dsimp only
    split <;> trivial
  | _ => trivial

/-- `_load_latest_state` looks. -/
theorem loadLatestState_looks (run : Run) : (loadLatestState deployment run).Uses Looks := by
  refine Program.Uses.bind (Program.Uses.request trivial) fun latest => ?_
  cases latest with
  | none => trivial
  | some output =>
    exact Program.Uses.bind (Program.Uses.ofExcept _) fun entity =>
      Program.Uses.bind (readTable_looks _ entity) fun _ => trivial

/-- `_known_reference_keys` looks. -/
theorem knownReferenceKeys_looks (entities : List Entity) :
    (knownReferenceKeys deployment entities).Uses Looks := by
  induction entities with
  | nil => trivial
  | cons entity entities ih =>
    refine Program.Uses.bind (Program.Uses.request trivial) fun latest => ?_
    cases latest with
    | none => exact ih
    | some output =>
      exact Program.Uses.bind (readTable_looks _ entity) fun _ =>
        Program.Uses.bind ih fun _ => trivial

/-! ## The row of the run -/

variable {run : Run} {rows : List ProcessingRun} {row : ProcessingRun} {world : World}

/-- A transition that completes nothing. -/
theorem transition_conserves (own : Own deployment run rows row world)
    {status : ProcessingStatus} (updates : List Assignment) (open' : status ≠ .completed) :
    Conserves deployment request base earlier (fun answer end' =>
      answer = row.assign status updates ∧ Own deployment run rows answer end'
        ∧ end'.objects = world.objects)
      (Held deployment run rows) (perform (.transition run.runId status updates)) world := by
  refine conserves_perform ?_ ⟨row, own⟩
  intro choice
  obtain ⟨same, problem, failed⟩ | ⟨-, outcome, next, objects⟩ :=
    transition_effect own choice status updates
  · rw [same, failed]
    exact ⟨Grows.refl world, fun answer no => (by cases no), row, own⟩
  · refine ⟨Grows.of_last own.rows next.rows objects ?_, ?_, _, next⟩
    · intro completed
      rw [(row.assign_same status updates).2] at completed
      exact absurd completed open'
    · intro answer returned
      rw [outcome] at returned
      obtain rfl := Except.ok.inj returned
      exact ⟨rfl, next, objects⟩

/-- The completion of the row. -/
theorem complete_conserves (own : Own deployment run rows row world)
    {updates : List Assignment} {work : Work}
    (completion : Completion deployment world.objects earlier request work
      (row.assign .completed updates))
    (prior : priorState deployment base earlier work.run = some work.state) :
    Conserves deployment request base earlier
      (fun answer end' => Own deployment run rows answer end')
      (Held deployment run rows) (perform (.transition run.runId .completed updates)) world := by
  refine conserves_perform ?_ ⟨row, own⟩
  intro choice
  obtain ⟨same, problem, failed⟩ | ⟨-, outcome, next, objects⟩ :=
    transition_effect own choice .completed updates
  · rw [same, failed]
    exact ⟨Grows.refl world, fun answer no => (by cases no), row, own⟩
  · refine ⟨Grows.of_last own.rows next.rows objects fun _ => ⟨work, objects ▸ completion, prior⟩,
      fun answer returned => ?_, _, next⟩
    rw [outcome] at returned
    obtain rfl := Except.ok.inj returned
    exact next

/-! ## Writing -/

/-- Objects were stored and nothing else happened. -/
structure Adds (before after : World) : Prop where
  /-- The manifest is as it was. -/
  manifest : after.manifest = before.manifest
  /-- Stored objects stay. -/
  objects : Preserved before.objects after.objects

/-- One after the other. -/
theorem Adds.trans {first second third : World} (one : Adds first second)
    (two : Adds second third) : Adds first third :=
  ⟨two.manifest.trans one.manifest,
    fun uri data present => two.objects uri data (one.objects uri data present)⟩

/-- The run still owns its row. -/
theorem Adds.own {before after : World} (adds : Adds before after)
    (own : Own deployment run rows row before) : Own deployment run rows row after :=
  ⟨by rw [adds.manifest]; exact own.rows, own.same⟩

/-- The upload of an object: it is there afterwards, or one of the same digest. -/
theorem put_conserves (uri : PyStr) (data : Bytes) (world : World) :
    Conserves deployment request base earlier (fun _ end' => Adds world end' ∧
      ∃ content, end'.objects uri = some content ∧
        deployment.sha.hexdigest content = deployment.sha.hexdigest data)
      (fun end' => end'.manifest = world.manifest) (perform (.put uri data)) world := by
  refine conserves_perform ?_ rfl
  intro choice
  change Grows deployment request base earlier world (putEffect deployment.sha uri data world).2 ∧
    (∀ answer, (putEffect deployment.sha uri data world).1 = .ok answer →
      Adds world (putEffect deployment.sha uri data world).2 ∧ ∃ content,
        (putEffect deployment.sha uri data world).2.objects uri = some content ∧
          deployment.sha.hexdigest content = deployment.sha.hexdigest data) ∧
    (putEffect deployment.sha uri data world).2.manifest = world.manifest
  have stays : Adds world world := ⟨rfl, fun _ _ present => present⟩
  unfold putEffect
  cases present : world.objects uri with
  | none =>
    have adds : Adds world (world.setObject uri data) := by
      refine ⟨rfl, fun other content found => ?_⟩
      have apart : other ≠ uri := by
        rintro rfl
        rw [present] at found
        cases found
      exact (Function.update_of_ne apart ..).trans found
    exact ⟨Grows.of_objects adds.objects adds.manifest,
      fun _ _ => ⟨adds, data, Function.update_self .., rfl⟩, rfl⟩
  | some existing =>
    dsimp only
    split
    · rename_i same
      exact ⟨Grows.refl world, fun _ _ => ⟨stays, existing, present, same⟩, rfl⟩
    · exact ⟨Grows.refl world, fun _ no => (by cases no), rfl⟩

/-- `_write_rows`. -/
theorem writeRows_conserves (run : Run) (kind : OutputType) (placement : Placement) (table : Table)
    (world : World) :
    Conserves deployment request base earlier (fun output end' =>
      Filed deployment end'.objects (kind, table) output ∧ Adds world end')
      (fun end' => end'.manifest = world.manifest)
      (writeRows deployment run kind placement table) world := by
  refine Conserves.seq (M := fun data end' => end' = world ∧
    deployment.format.write table = .ok data) ?_ ?_
  · refine conserves_perform ?_ rfl
    intro choice
    exact ⟨Grows.refl world, fun data written => ⟨rfl, written⟩, rfl⟩
  · rintro data end' ⟨rfl, written⟩
    refine Conserves.seq (Conserves.ofExcept (P := fun _ end'' => end'' = end')
      (fun _ _ => rfl) rfl) ?_
    rintro place end'' rfl
    refine Conserves.seq (put_conserves place.2 data end'') ?_
    rintro _ end''' ⟨adds, content, present, same⟩
    exact ⟨⟨rfl, rfl, data, content, written, present, same, rfl⟩, adds⟩

/-- An output that is written when there is something to write. -/
theorem writeSome_conserves (run : Run) (kind : OutputType) (placement : Placement) (table : Table)
    (world : World) :
    Conserves deployment request base earlier (fun outputs end' =>
      List.Forall₂ (Filed deployment end'.objects) (planSome kind table) outputs ∧
        Adds world end')
      (fun end' => end'.manifest = world.manifest)
      (writeSome deployment run kind placement table) world := by
  unfold writeSome planSome
  split
  · exact ⟨.nil, rfl, fun _ _ present => present⟩
  · refine Conserves.seq (writeRows_conserves run kind placement table world) ?_
    rintro output end' ⟨filed, adds⟩
    exact ⟨.cons filed .nil, adds⟩

/-- The outputs of the entity's own rows. -/
theorem writeEntityRows_conserves (run : Run) (eventDate : Date) (build : Build) (world : World) :
    Conserves deployment request base earlier (fun outputs end' => ∃ entity,
      Entity.ofName run.entityName = some entity ∧
      List.Forall₂ (Filed deployment end'.objects) (planEntityRows entity build) outputs ∧
        Adds world end')
      (fun end' => end'.manifest = world.manifest)
      (writeEntityRows deployment run eventDate build) world := by
  unfold writeEntityRows
  split
  · rename_i events
    refine (writeSome_conserves run .events _ _ world).mono ?_ fun _ same => same
    rintro outputs end' ⟨filed, adds⟩
    refine ⟨.transactionEvents, by rw [events, Entity.ofName_name], ?_, adds⟩
    unfold planEntityRows
    rw [if_pos rfl]
    exact filed
  · rename_i other
    refine Conserves.seq (Conserves.ofExcept (P := fun entity end' => end' = world ∧
      Entity.ofName run.entityName = some entity)
      (fun entity accepted => ⟨rfl, entitySchema_ok accepted⟩) rfl) ?_
    rintro found end' ⟨rfl, named⟩
    have state : found ≠ .transactionEvents := by
      rintro rfl
      exact other (Entity.name_of_ofName named).symm
    refine Conserves.seq (writeRows_conserves run .latestAll _ _ end') ?_
    rintro latest middle ⟨filed, adds⟩
    refine Conserves.seq ((writeRows_conserves run .current _ _ middle).mono
      (fun _ _ ends => ends) fun end'' same => by rw [same, adds.manifest]) ?_
    rintro current end'' ⟨filed', adds'⟩
    refine ⟨found, named, ?_, adds.trans adds'⟩
    unfold planEntityRows
    rw [if_neg state]
    exact .cons (filed.mono adds'.objects) (.cons filed' .nil)

/-! ## The call -/

/-- `_transform_and_write_cdc`: everything planned is on file afterwards. -/
theorem transformAndWriteCdc_conserves (own : Own deployment run rows row world)
    (events : List NormalizedCdcEvent) (rejections : List QualityRejection)
    (unfinished : row.status ≠ .completed) :
    Conserves deployment request base earlier (fun answer end' => ∃ found state known build,
      Own deployment run rows (row.assign .writing []) end' ∧
      Entity.ofName run.entityName = some found ∧
      priorState deployment world.objects rows run = some state ∧
      priorState deployment end'.objects rows run = some state ∧
      mergeEvents run.entityName run.object.uri run.now { state, known, rejections }
        (sortEvents events) = .ok build ∧
      List.Forall₂ (Filed deployment end'.objects) (planTables found events build) answer.1 ∧
      answer.2 = build.rejections.length)
      (Held deployment run rows) (transformAndWriteCdc deployment run events rejections)
      world := by
  have held : ∀ end' : World, end' = world → Held deployment run rows end' := by
    rintro end' rfl
    exact ⟨row, own⟩
  refine Conserves.seq (((loadLatestState_keeps run world).looking
    (loadLatestState_looks run)).mono (fun _ _ ends => ends) held) ?_
  rintro state end' ⟨rfl, loaded⟩
  refine Conserves.seq (((knownReferenceKeys_keeps referenceEntities end').looking
    (knownReferenceKeys_looks referenceEntities)).mono (fun _ _ ends => ends) held) ?_
  rintro known end'' rfl
  refine Conserves.seq (Conserves.ofExcept (P := fun build end' => end' = end'' ∧
    mergeEvents run.entityName run.object.uri run.now { state, known, rejections }
      (sortEvents events) = .ok build) (fun build merged => ⟨rfl, merged⟩) (held _ rfl)) ?_
  rintro build middle ⟨rfl, merged⟩
  refine Conserves.seq (transition_conserves own [] (by decide)) ?_
  rintro writing world₀ ⟨rfl, own₀, objects⟩
  have before : priorState deployment middle.objects rows run = some state := by
    unfold priorState at loaded ⊢
    rw [own.rows, latestAmong_append_open unfinished] at loaded
    exact loaded
  have prior : priorState deployment world₀.objects rows run = some state := by
    rw [objects]
    exact before
  have lost : ∀ {start end' : World}, Own deployment run rows (row.assign .writing []) start
      → end'.manifest = start.manifest → Held deployment run rows end' :=
    fun has same => ⟨_, by rw [same]; exact has.rows, has.same⟩
  refine Conserves.seq ((writeSome_conserves run .history _ (.history events) world₀).mono
    (fun _ _ ends => ends) fun _ same => lost own₀ same) ?_
  rintro history world₁ ⟨filed₁, adds₁⟩
  have own₁ := adds₁.own own₀
  refine Conserves.seq ((writeEntityRows_conserves run _ build world₁).mono
    (fun _ _ ends => ends) fun _ same => lost own₁ same) ?_
  rintro outputs world₂ ⟨found, named, filed₂, adds₂⟩
  have own₂ := adds₂.own own₁
  refine Conserves.seq ((writeSome_conserves run .rejections _
    (.rejections build.rejections) world₂).mono (fun _ _ ends => ends)
    fun _ same => lost own₂ same) ?_
  rintro rejected world₃ ⟨filed₃, adds₃⟩
  have own₃ := adds₃.own own₂
  refine Conserves.seq ((writeSome_conserves run .unresolvedReferences _
    (.unresolved build.unresolved) world₃).mono (fun _ _ ends => ends)
    fun _ same => lost own₃ same) ?_
  rintro unresolved world₄ ⟨filed₄, adds₄⟩
  have kept : ∀ {before : World}, Adds before world₄ →
      ∀ {plan : List (OutputType × Table)} {outputs : List SilverOutput},
      List.Forall₂ (Filed deployment before.objects) plan outputs →
      List.Forall₂ (Filed deployment world₄.objects) plan outputs := by
    intro before adds plan outputs filed
    exact filed.imp fun _ _ one => one.mono adds.objects
  have adds₂₄ := (adds₂.trans adds₃).trans adds₄
  refine ⟨found, state, known, build, adds₄.own own₃, named, before,
    priorState_mono (adds₁.trans adds₂₄).objects prior, merged, ?_, rfl⟩
  unfold planTables
  refine List.rel_append (List.rel_append (List.rel_append ?_ ?_) ?_) filed₄
  · exact kept adds₂₄ filed₁
  · exact kept (adds₃.trans adds₄) filed₂
  · exact kept adds₄ filed₃

/-- The body of `process_cdc`. -/
theorem processBody_conserves {runId : PyStr} {now : Instant}
    (own : Own deployment (runOf request runId now) earlier row world) :
    Conserves deployment request world.objects earlier
      (fun result end' => ∃ row, Own deployment (runOf request runId now) earlier row end' ∧
        result = resultOf row)
      (Held deployment (runOf request runId now) earlier)
      (processBody deployment (runOf request runId now)) world := by
  refine Conserves.seq (transition_conserves own [] (by decide)) ?_
  rintro reading world₁ ⟨-, own₁, objects₁⟩
  refine Conserves.seq (((readCdc_keeps request.object world₁).looking
    (readCdc_looks request.object)).mono (fun _ _ ends => ends) ?_) ?_
  · rintro end' rfl
    exact ⟨reading, own₁⟩
  rintro rows end' ⟨rfl, read⟩
  refine Conserves.seq (transition_conserves own₁ _ (by decide)) ?_
  rintro validating world₂ ⟨rfl, own₂, objects₂⟩
  refine Conserves.seq (Conserves.ofExcept (P := fun normal end' => end' = world₂ ∧
    normalizeCdcTable ((runOf request runId now).context deployment) rows = .ok normal)
    (fun normal normalized => ⟨rfl, normalized⟩) ⟨_, own₂⟩) ?_
  rintro ⟨events, rejections⟩ end' ⟨rfl, normalized⟩
  refine Conserves.seq (transition_conserves own₂ [] (by decide)) ?_
  rintro transforming world₃ ⟨rfl, own₃, objects₃⟩
  refine Conserves.seq (transformAndWriteCdc_conserves own₃ _ _ (by simp [ProcessingRun.assign])) ?_
  rintro ⟨outputs, count⟩ world₄ ⟨entity, state, known, build, own₄, named, before, prior, merged,
    filed, counted⟩
  rw [objects₃, objects₂, objects₁] at before
  let work : Work :=
    ⟨runOf request runId now, entity, rows, events, rejections, state, known, build⟩
  have completion : ∀ updates : List Assignment, updates = [.completedAt now.utcIso,
      .outputs outputs, .outputRecordCount (outputCount outputs), .rejectedRecordCount count,
      .errorCode none, .errorMessage none] →
      Completion deployment world₄.objects earlier request work
        (((((reading.assign .validating [.inputRecordCount rows.length]).assign .transforming
          []).assign .writing [])).assign .completed updates) := by
    rintro updates rfl
    exact ⟨rfl, own₄.same.trans (ProcessingRun.assign_same _ _ _).1,
      ⟨rfl, named, read, normalized, prior, merged⟩, rfl, counted, filed⟩
  exact Conserves.seq (complete_conserves own₄ (completion _ rfl) before)
    fun row _ owned => ⟨row, owned, rfl⟩

/-- The row of the run as `get` finds it. -/
theorem getRun_conserves (own : Own deployment run rows row world) :
    Conserves deployment request base earlier
      (fun current end' => current = some row ∧ end' = world) (fun _ => True)
      (perform (.getRun run.runId)) world := by
  refine conserves_perform (fun choice => ⟨Grows.refl world, fun current found => ?_, trivial⟩)
    trivial
  exact ⟨(Except.ok.inj found).symm.trans own.get, rfl⟩

/-- `mark_failed`. -/
theorem markFailed_conserves (own : Own deployment run rows row world) (problem : PyError) :
    Conserves deployment request base earlier
      (fun failed end' => Own deployment run rows failed end') (fun _ => True)
      (markFailed run.runId problem) world := by
  refine Conserves.seq (getRun_conserves own) ?_
  rintro current end' ⟨rfl, rfl⟩
  dsimp only
  split
  · exact own
  · refine Conserves.seq (looks_conserves .wallClock trivial end') ?_
    rintro clock end'' rfl
    exact (transition_conserves own _ (by decide)).mono (fun _ _ ends => ends.2.1)
      fun _ _ => trivial

/-- The handlers of `process_cdc`. -/
theorem processHandler_conserves (own : Own deployment run rows row world) (problem : PyError) :
    Conserves deployment request base earlier
      (fun result end' => ∃ row, Own deployment run rows row end' ∧ result = resultOf row)
      (fun _ => True) (processHandler run problem) world := by
  unfold processHandler
  split
  · refine Conserves.seq (getRun_conserves own) ?_
    rintro current end' ⟨rfl, rfl⟩
    dsimp only
    split
    · exact Conserves.seq ((transition_conserves own _ (by decide)).mono
        (fun _ _ ends => ends) fun _ _ => trivial) fun row _ ends => ⟨row, ends.2.1, rfl⟩
    · trivial
  · exact Conserves.seq (markFailed_conserves own problem) fun row _ owned => ⟨row, owned, rfl⟩

/-- What a call returns that processes its object: the row of its run. -/
def ReturnsRow (deployment : Deployment) (request : ProcessRequest) (before : World)
    (result : ProcessingResult) (after : World) : Prop :=
  ∃ runId now row, Own deployment (runOf request runId now) before.manifest.rows row after ∧
    result = resultOf row

/-- `process_cdc` of an object that is to be processed. -/
theorem startRun_conserves (deployment : Deployment) (request : ProcessRequest) (world : World) :
    Conserves deployment request world.objects world.manifest.rows
      (fun result end' => request.dryRun = true ∨ ReturnsRow deployment request world result end')
      (fun _ => True) (startRun deployment request) world := by
  refine Conserves.seq (looks_conserves .now trivial world) ?_
  rintro now world₁ rfl
  refine Conserves.seq (M := fun _ end' => end' = world₁)
    (conserves_perform (fun _ => ⟨Grows.refl world₁, fun _ _ => rfl, trivial⟩) trivial) ?_
  rintro runId world₂ rfl
  split
  · rename_i dry
    refine Conserves.seq (((readCdc_keeps request.object world₂).looking
      (readCdc_looks request.object)).mono (fun _ _ ends => ends) fun _ _ => trivial) ?_
    rintro rows end' ⟨rfl, -⟩
    exact Conserves.seq (Conserves.ofExcept (P := fun _ _ => True) (fun _ _ => trivial) trivial)
      fun _ _ _ => Or.inl dry
  · refine Conserves.seq (M := fun _ end' =>
      Own deployment (runOf request runId now) world₂.manifest.rows
        (registeredRun deployment (runOf request runId now)) end'
      ∧ end'.objects = world₂.objects) ?_ ?_
    · refine conserves_perform ?_ trivial
      intro choice
      obtain ⟨absent, registered⟩ | ⟨problem, registered⟩ := register_spec world₂.manifest
        (registeredRun deployment (runOf request runId now))
      · simp only [effect, registered]
        refine ⟨⟨fun _ _ present => present, ?_⟩, ?_, trivial⟩
        · intro row member completed
          rcases List.mem_append.mp member with old | new
          · exact Or.inl old
          · obtain rfl := List.mem_singleton.mp new
            cases completed
        · intro _ _
          exact ⟨⟨rfl, ⟨rfl, rfl, rfl, rfl, rfl, rfl, rfl, rfl⟩⟩, trivial⟩
      · simp only [effect, registered]
        exact ⟨Grows.refl world₂, fun _ no => (by cases no), trivial⟩
    · rintro _ end' ⟨own, objects⟩
      have body := processBody_conserves own
      rw [objects] at body
      refine Meets.handle (Meets.mono body ?_ ?_)
      · rintro result end'' ⟨row, owned, same⟩
        exact Or.inr ⟨runId, now, row, owned, same⟩
      · rintro problem end'' ⟨row, held⟩
        refine Meets.mono (processHandler_conserves held problem) ?_ fun _ _ ends => ends
        rintro result last ⟨row, owned, same⟩
        exact Or.inr ⟨runId, now, row, owned, same⟩

/-- The object of a call is to be processed: its identity is new, or the call is forced. -/
def Due (deployment : Deployment) (request : ProcessRequest) (world : World) : Prop :=
  findLatestIdentity world.manifest (identityOf deployment request.object) = none ∨
    request.forceReprocess = true

/-- `process_cdc`: what it returns is skipped, or the object was to be processed. -/
theorem processCdc_conserves (deployment : Deployment) (request : ProcessRequest)
    (world : World) :
    Conserves deployment request world.objects world.manifest.rows
      (fun result end' => result.skipped = true ∨ (Due deployment request world ∧
        (request.dryRun = true ∨ ReturnsRow deployment request world result end')))
      (fun _ => True) (processCdc deployment request) world := by
  refine Conserves.seq (M := fun prior end' => end' = world ∧
    prior = findLatestIdentity world.manifest (identityOf deployment request.object)) ?_ ?_
  · refine conserves_perform (fun choice => ⟨Grows.refl world, fun prior found => ?_, trivial⟩)
      trivial
    exact ⟨rfl, (Except.ok.inj found).symm⟩
  rintro prior end' ⟨rfl, found⟩
  have due : Due deployment request end' → Conserves deployment
      request end'.objects end'.manifest.rows (fun result last => result.skipped = true ∨
        (Due deployment request end' ∧
          (request.dryRun = true ∨ ReturnsRow deployment request end' result last)))
      (fun _ => True) (startRun deployment request) end' := by
    intro due
    exact (startRun_conserves deployment request end').mono
      (fun _ _ ends => Or.inr ⟨due, ends⟩) fun _ ends => ends
  cases prior with
  | none => exact due (Or.inl found.symm)
  | some prior =>
    cases forced : request.forceReprocess with
    | false => exact Or.inl rfl
    | true => exact due (Or.inr forced)

/-- A run that a call completes accounts for every row of its object: from any world, whatever
fails on the way, and also when the process ends before it returns. -/
theorem events_accounted (deployment : Deployment) (request : ProcessRequest) (before : World)
    (choices : List Choice) :
    ∀ row ∈ ((machine deployment).run choices
        (processCdc deployment request, before)).2.manifest.rows,
      row.status = .completed → row ∉ before.manifest.rows →
      ∃ work, Completion deployment ((machine deployment).run choices
          (processCdc deployment request, before)).2.objects before.manifest.rows request work row ∧
        Accounts deployment work ∧ row.rejectedRecordCount ≤ row.inputRecordCount := by
  have conserves := processCdc_conserves deployment request before
  obtain ⟨-, path⟩ := Meets.run choices conserves (Admitted.of_forall _ _ fun _ _ _ _ => trivial)
  have grows := Grows.along path
  intro row member completed new
  rcases grows.completed row member completed with old | ⟨work, completion, -⟩
  · exact absurd old new
  · have accounts := accounts_of_work completion.done.normalized completion.done.merged
    refine ⟨work, completion, accounts, ?_⟩
    rw [completion.rejected, completion.input]
    exact accounts.rejected_le

/-- The choices of an undisturbed call. -/
def firstChoices : List Choice := List.replicate 24 { clock := Instant.epoch, runId := [65] }

/-- The call on the first object. -/
def firstRequest : ProcessRequest := ⟨customerObject 1, false, false⟩

/-- The world after the call. -/
def firstWorld : World :=
  ((machine firstDeployment).run firstChoices (processCdc firstDeployment firstRequest, .empty)).2

set_option maxRecDepth 10000 in
/-- The call completes its run, which rejects two of the five rows. -/
theorem firstWorld_completed :
    firstWorld.manifest.rows.map (fun row =>
      (row.status, row.inputRecordCount, row.rejectedRecordCount)) = [(.completed, 5, 2)] := by
  decide +kernel

/-- The rows of the first object are accounted for. -/
theorem first_rows_accounted :
    ∃ row ∈ firstWorld.manifest.rows, row.status = .completed ∧ row.inputRecordCount = 5 ∧
      row.rejectedRecordCount = 2 ∧
      ∃ work, Completion firstDeployment firstWorld.objects World.empty.manifest.rows firstRequest
        work row ∧ Accounts firstDeployment work := by
  have listed : (ProcessingStatus.completed, 5, 2) ∈ firstWorld.manifest.rows.map fun row =>
      (row.status, row.inputRecordCount, row.rejectedRecordCount) := by
    rw [firstWorld_completed]
    exact List.mem_singleton_self _
  obtain ⟨row, member, values⟩ := List.mem_map.mp listed
  obtain ⟨status, count, rejected⟩ := Prod.mk.inj values |>.imp_right Prod.mk.inj
  have accounted := events_accounted firstDeployment firstRequest .empty firstChoices
  rw [← firstWorld] at accounted
  obtain ⟨work, completion, accounts, -⟩ := accounted row member status List.not_mem_nil
  exact ⟨row, member, status, count, rejected, work, completion, accounts⟩

end Silver
