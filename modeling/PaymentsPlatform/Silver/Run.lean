import PaymentsPlatform.Silver.Evidence

/-!
# A call keeps the rules

One lemma for each part of `process_cdc`, up to the whole: every effect of a call is one of the
permitted steps, in every branch, whatever fails. Inside the `try` the run owns the last row of the
manifest, and no object is stored yet at the addresses it is going to write.
-/

namespace Silver

open Python Effects

variable {deployment : Deployment} {conditions : Conditions}

/-- A part of a call keeps the rules, and ends with the given conditions. -/
def Keeps (deployment : Deployment) (conditions : Conditions) {α : Type}
    (post : α → World → Prop) (error : World → Prop) (program : Action α) (world : World) : Prop :=
  Meets (machine deployment) (.sequential Admits (Advance deployment conditions)) post
    (fun _ end' => error end') program world

/-- Nothing happens. -/
theorem Advance.stays (world : World) : Advance deployment conditions world world :=
  .stores rfl fun _ => Or.inl rfl

namespace Keeps

variable {α β : Type} {post : α → World → Prop} {error : World → Prop} {program : Action α}
  {world : World}

/-- Weaker end conditions are met as well. -/
theorem mono {post' : α → World → Prop} {error' : World → Prop}
    (keeps : Keeps deployment conditions post error program world)
    (post_le : ∀ value end', post value end' → post' value end')
    (error_le : ∀ end', error end' → error' end') :
    Keeps deployment conditions post' error' program world :=
  Meets.mono keeps post_le fun _ end' => error_le end'

/-- Sequencing. -/
theorem seq {middle : α → World → Prop} {post : β → World → Prop} {next : α → Action β}
    (first : Keeps deployment conditions middle error program world)
    (rest : ∀ value end', middle value end' →
      Keeps deployment conditions post error (next value) end') :
    Keeps deployment conditions post error (program.bind next) world :=
  Meets.bind (Meets.mono first rest fun _ _ ends => ends)

/-- A computation without effects. -/
theorem ofExcept {P : α → World → Prop} {outcome : Except PyError α}
    (value_ok : ∀ value, outcome = .ok value → P value world) (error_ok : error world) :
    Keeps deployment conditions P error (Program.ofExcept outcome) world :=
  Meets.ofExcept value_ok fun _ _ => error_ok

end Keeps

/-- One effect, from what it does when it takes place. -/
theorem keeps_perform {op : Op} {post : op.Answer → World → Prop} {error : World → Prop}
    {world : World}
    (takes : ∀ choice, Admits op choice world →
      Advance deployment conditions world (effect deployment op choice world).2 ∧
      (∀ answer, (effect deployment op choice world).1 = .ok answer →
        post answer (effect deployment op choice world).2) ∧
      error (effect deployment op choice world).2)
    (stays : error world) : Keeps deployment conditions post error (perform op) world := by
  refine Meets.request ?_
  rintro moved ⟨rfl⟩ choice admitted
  obtain ⟨advance, ends, failed⟩ := takes choice admitted
  obtain act | ⟨fault, -, act | act⟩ := act_cases deployment op choice world
  · rw [act]
    refine ⟨advance, ?_⟩
    cases outcome : (effect deployment op choice world).1 with
    | ok answer => exact ends answer outcome
    | error problem => exact failed
  · rw [act]
    exact ⟨Advance.stays world, stays⟩
  · rw [act]
    exact ⟨advance, failed⟩

/-- An effect that only looks. -/
theorem looks_keeps {op : Op} {world : World}
    (only : ∀ choice, (effect deployment op choice world).2 = world) :
    Keeps deployment conditions (fun answer end' => end' = world ∧
      ∃ choice, Admits op choice world ∧
        (effect deployment op choice world).1 = .ok answer)
      (fun end' => end' = world) (perform op) world := by
  refine keeps_perform ?_ rfl
  intro choice admitted
  rw [only choice]
  exact ⟨Advance.stays world, fun answer outcome => ⟨rfl, choice, admitted, outcome⟩, rfl⟩

/-! ## Reading -/

/-- The content of a Silver object. -/
theorem readSilver_keeps (uri : PyStr) (world : World) :
    Keeps deployment conditions (fun data end' => end' = world ∧ world.objects uri = some data)
      (fun end' => end' = world) (perform (.readSilver uri)) world := by
  refine (looks_keeps fun _ => rfl).mono ?_ fun _ same => same
  rintro data end' ⟨rfl, choice, -, outcome⟩
  refine ⟨rfl, ?_⟩
  change readEffect deployment.backend uri end' = .ok data at outcome
  unfold readEffect at outcome
  cases present : end'.objects uri with
  | none => rw [present] at outcome; cases outcome
  | some content => rw [present] at outcome; cases outcome; rfl

/-- `read_table`. -/
theorem readTable_keeps (uri : PyStr) (entity : Entity) (world : World) :
    Keeps deployment conditions (fun rows end' => end' = world ∧
      readRows deployment world.objects uri entity = some rows)
      (fun end' => end' = world) (readTable deployment uri entity) world := by
  refine Keeps.seq (readSilver_keeps uri world) ?_
  rintro data end' ⟨rfl, present⟩
  refine Keeps.seq (Keeps.ofExcept (P := fun table end'' => end'' = end' ∧
    deployment.format.read data = .ok table) (fun table decoded => ⟨rfl, decoded⟩) rfl) ?_
  rintro table end'' ⟨rfl, decoded⟩
  cases table with
  | history rows => rfl
  | settlements rows => rfl
  | rejections rows => rfl
  | unresolved rows => rfl
  | state other rows =>
    dsimp only
    split
    · rename_i same
      refine ⟨rfl, ?_⟩
      unfold readRows
      rw [present]
      dsimp only
      rw [decoded]
      exact if_pos same
    · rfl

/-- The entity of a schema is the one of its name. -/
theorem entitySchema_ok {entityName : PyStr} {entity : Entity}
    (accepted : entitySchema entityName = .ok entity) : Entity.ofName entityName = some entity := by
  unfold entitySchema at accepted
  cases named : Entity.ofName entityName with
  | none => rw [named] at accepted; cases accepted
  | some other => rw [named] at accepted; cases accepted; rfl

/-- `_load_latest_state`. -/
theorem loadLatestState_keeps (run : Run) (world : World) :
    Keeps deployment conditions (fun state end' => end' = world ∧
      priorState deployment world.objects world.manifest.rows run = some state)
      (fun end' => end' = world) (loadLatestState deployment run) world := by
  refine Keeps.seq (looks_keeps fun _ => rfl) ?_
  rintro latest end' ⟨rfl, choice, -, outcome⟩
  obtain rfl : latestAmong end'.manifest.rows run.entityName .latestAll
      (if run.forceReprocess then some run.object.checksumSha256 else none) = latest :=
    Except.ok.inj outcome
  cases found : latestAmong end'.manifest.rows run.entityName .latestAll
      (if run.forceReprocess then some run.object.checksumSha256 else none) with
  | none =>
    refine ⟨rfl, ?_⟩
    unfold priorState
    rw [found]
  | some output =>
    refine Keeps.seq (Keeps.ofExcept (P := fun entity end'' => end'' = end' ∧
      Entity.ofName run.entityName = some entity)
      (fun entity accepted => ⟨rfl, entitySchema_ok accepted⟩) rfl) ?_
    rintro entity end'' ⟨rfl, named⟩
    refine Keeps.seq (readTable_keeps output.objectUri entity end'') ?_
    rintro rows end''' ⟨rfl, read⟩
    refine ⟨rfl, ?_⟩
    unfold priorState
    rw [found, named]
    dsimp only
    rw [Option.bind_some, read]
    rfl

/-- `_known_reference_keys`. -/
theorem knownReferenceKeys_keeps (entities : List Entity) (world : World) :
    Keeps deployment conditions (fun _ end' => end' = world) (fun end' => end' = world)
      (knownReferenceKeys deployment entities) world := by
  induction entities with
  | nil => rfl
  | cons entity entities ih =>
    refine Keeps.seq (looks_keeps fun _ => rfl) ?_
    rintro latest end' ⟨rfl, -⟩
    cases latest with
    | none => exact ih
    | some output =>
      refine Keeps.seq (readTable_keeps output.objectUri entity end') ?_
      rintro rows end'' ⟨rfl, -⟩
      exact Keeps.seq ih fun _ _ same => same

/-- `read_cdc`. -/
theorem readCdc_keeps (object : InputObject) (world : World) :
    Keeps deployment conditions (fun rows end' => end' = world ∧
      ∃ payload, deployment.bronze object = .ok payload ∧
        decodeBronze deployment object payload = .ok rows)
      (fun end' => end' = world) (readCdc deployment object) world := by
  refine Keeps.seq (looks_keeps fun _ => rfl) ?_
  rintro payload end' ⟨rfl, choice, -, content⟩
  exact Keeps.ofExcept (fun rows decoded => ⟨rfl, payload, content, decoded⟩) rfl

/-! ## The row of the run -/

/-- The run owns the last row of the manifest. -/
structure Own (deployment : Deployment) (run : Run) (earlier : List ProcessingRun)
    (row : ProcessingRun) (world : World) : Prop where
  /-- It is the last row. -/
  rows : world.manifest.rows = earlier ++ [row]
  /-- It is the row of the run. -/
  same : SameRun (registeredRun deployment run) row

/-- The run owns the last row, whatever its status is. -/
def Held (deployment : Deployment) (run : Run) (earlier : List ProcessingRun)
    (world : World) : Prop := ∃ row, Own deployment run earlier row world

variable {run : Run} {earlier : List ProcessingRun} {row : ProcessingRun} {world : World}

/-- The row of the run is found under its key. -/
theorem Own.get (own : Own deployment run earlier row world) :
    world.manifest.get run.runId = some row :=
  Relational.Table.get_eq_some.mpr
    ⟨by rw [own.rows]; exact List.mem_append_right _ (List.mem_singleton_self _), own.same.runId⟩

/-- Updates of the same run add up. -/
theorem SameRun.trans {first second third : ProcessingRun} (one : SameRun first second)
    (two : SameRun second third) : SameRun first third :=
  ⟨two.runId.trans one.runId, two.pipelineName.trans one.pipelineName,
    two.entityName.trans one.entityName, two.inputObjectUri.trans one.inputObjectUri,
    two.inputChecksum.trans one.inputChecksum, two.startedAt.trans one.startedAt,
    two.codeVersion.trans one.codeVersion, two.schemaVersion.trans one.schemaVersion⟩

/-- A row that replaces the last one is the last one. -/
theorem put_last {table : ManifestTable} {next : ProcessingRun}
    (rows : table.rows = earlier ++ [row]) (key : next.runId = row.runId) :
    (table.put next).rows = earlier ++ [next] := by
  have present : table.get next.runId = some row :=
    Relational.Table.get_eq_some.mpr
      ⟨by rw [rows]; exact List.mem_append_right _ (List.mem_singleton_self _), key.symm⟩
  have apart : ∀ other ∈ earlier, other.runId ≠ next.runId := by
    have distinct := table.nodup
    rw [rows, List.map_append, List.nodup_append] at distinct
    intro other member same
    exact distinct.2.2 _ (List.mem_map_of_mem member) row.runId
      (List.mem_singleton_self _) (same.trans key)
  unfold Relational.Table.put
  rw [dif_neg (by rw [present]; exact Option.some_ne_none row)]
  unfold Relational.Table.update
  dsimp only
  rw [rows, List.map_append]
  congr 1
  · conv_rhs => rw [← List.map_id earlier]
    refine List.map_congr_left fun other member => ?_
    exact if_neg (apart other member)
  · rw [List.map_singleton, if_pos key.symm]

/-- A transition of the row of the run. -/
theorem transition_effect (own : Own deployment run earlier row world) (choice : Choice)
    (status : ProcessingStatus) (updates : List Assignment) :
    ((effect deployment (.transition run.runId status updates) choice world).2 = world ∧
      ∃ problem, (effect deployment (.transition run.runId status updates) choice world).1 =
        .error problem) ∨
    (row.status ≠ .completed ∧
      (effect deployment (.transition run.runId status updates) choice world).1 =
        .ok (row.assign status updates) ∧
      Own deployment run earlier (row.assign status updates)
        (effect deployment (.transition run.runId status updates) choice world).2 ∧
      (effect deployment (.transition run.runId status updates) choice world).2.objects =
        world.objects) := by
  obtain ⟨current, found, permitted, done⟩ | ⟨problem, -, done⟩ :=
    transition_spec world.manifest run.runId status updates
  · obtain rfl := Option.some.inj (own.get.symm.trans found)
    obtain ⟨same, -⟩ := row.assign_same status updates
    refine Or.inr ⟨ProcessingStatus.not_completed_of_allowed permitted, ?_⟩
    simp only [effect, done]
    exact ⟨rfl, ⟨put_last own.rows same.runId, own.same.trans same⟩, trivial⟩
  · refine Or.inl ?_
    simp only [effect, done]
    exact ⟨trivial, problem, rfl⟩

/-- A transition that completes nothing. -/
theorem transition_keeps (own : Own deployment run earlier row world) {status : ProcessingStatus}
    (updates : List Assignment) (open' : status ≠ .completed) :
    Keeps deployment conditions (fun answer end' => answer = row.assign status updates ∧
      Own deployment run earlier answer end' ∧ end'.objects = world.objects)
      (Held deployment run earlier) (perform (.transition run.runId status updates)) world := by
  refine keeps_perform ?_ ⟨row, own⟩
  intro choice _
  obtain ⟨same, problem, failed⟩ | ⟨unfinished, outcome, next, objects⟩ :=
    transition_effect own choice status updates
  · rw [same, failed]
    exact ⟨Advance.stays world, fun answer no => (by cases no), row, own⟩
  · obtain ⟨kept, now⟩ := row.assign_same status updates
    rw [outcome]
    refine ⟨.moves earlier row _ own.rows next.rows kept unfinished (by rw [now]; exact open')
      objects, ?_, _, next⟩
    rintro answer ⟨rfl⟩
    exact ⟨rfl, next, objects⟩

/-- The completion of the row, with its evidence. -/
theorem complete_keeps (own : Own deployment run earlier row world) {updates : List Assignment}
    (work : Work) (called : ∃ request, conditions.request request ∧
      work.run = runOf request work.run.runId work.run.now)
    (explains : Explains deployment world.objects earlier work (row.assign .completed updates)) :
    Keeps deployment conditions (fun _ _ => True) (Held deployment run earlier)
      (perform (.transition run.runId .completed updates)) world := by
  refine keeps_perform ?_ ⟨row, own⟩
  intro choice _
  obtain ⟨same, problem, failed⟩ | ⟨unfinished, outcome, next, objects⟩ :=
    transition_effect own choice .completed updates
  · rw [same, failed]
    exact ⟨Advance.stays world, fun answer no => (by cases no), row, own⟩
  · obtain ⟨kept, now⟩ := row.assign_same .completed updates
    exact ⟨.completes earlier row _ work own.rows next.rows kept unfinished now objects called
      explains, fun _ _ => trivial, _, next⟩

/-! ## Writing -/

/-- The run stored objects of these kinds and did nothing else. -/
structure Wrote (deployment : Deployment) (runId : PyStr) (kinds : List OutputType)
    (before after : World) : Prop where
  /-- The manifest is as it was. -/
  manifest : after.manifest = before.manifest
  /-- What is new is at an address of the run. -/
  objects : ∀ uri, after.objects uri = before.objects uri ∨
    before.objects uri = none ∧ ∃ kind ∈ kinds, IsAddress deployment runId kind uri

/-- Nothing is stored yet at the addresses of a kind. -/
def Unwritten (deployment : Deployment) (runId : PyStr) (kind : OutputType)
    (world : World) : Prop :=
  ∀ uri, IsAddress deployment runId kind uri → world.objects uri = none

namespace Wrote

variable {runId : PyStr} {kinds more : List OutputType} {before middle after : World}

/-- Nothing was written. -/
theorem refl (world : World) : Wrote deployment runId kinds world world :=
  ⟨rfl, fun _ => Or.inl rfl⟩

/-- More kinds. -/
theorem widen (wrote : Wrote deployment runId kinds before after)
    (included : ∀ kind ∈ kinds, kind ∈ more) : Wrote deployment runId more before after := by
  refine ⟨wrote.manifest, fun uri => ?_⟩
  obtain same | ⟨absent, kind, member, address⟩ := wrote.objects uri
  · exact Or.inl same
  · exact Or.inr ⟨absent, kind, included kind member, address⟩

/-- One after the other. -/
theorem trans (first : Wrote deployment runId kinds before middle)
    (second : Wrote deployment runId more middle after) :
    Wrote deployment runId (kinds ++ more) before after := by
  refine ⟨second.manifest.trans first.manifest, fun uri => ?_⟩
  obtain same | ⟨absent, kind, member, address⟩ := second.objects uri
  · rw [same]
    exact (first.widen fun kind member => List.mem_append_left more member).objects uri
  · obtain same | new := first.objects uri
    · exact Or.inr ⟨same.symm.trans absent, kind, List.mem_append_right _ member, address⟩
    · exact Or.inr ⟨new.1, kind, List.mem_append_right _ member, address⟩

/-- Stored objects stay. -/
theorem preserved (wrote : Wrote deployment runId kinds before after) :
    Preserved before.objects after.objects := by
  intro uri data present
  obtain same | ⟨absent, -⟩ := wrote.objects uri
  · exact same.trans present
  · rw [absent] at present
    cases present

/-- The addresses of other kinds are still free. -/
theorem unwritten (wrote : Wrote deployment runId kinds before after) (plain : 47 ∉ runId)
    {kind : OutputType} (other : kind ∉ kinds) (free : Unwritten deployment runId kind before) :
    Unwritten deployment runId kind after := by
  intro uri address
  obtain same | ⟨-, found, member, address'⟩ := wrote.objects uri
  · exact same.trans (free uri address)
  · obtain ⟨-, rfl⟩ := address_unique address address' plain plain
    exact absurd member other

/-- The run still owns its row. -/
theorem own (wrote : Wrote deployment runId kinds before after)
    (own : Own deployment run earlier row before) : Own deployment run earlier row after :=
  ⟨by rw [wrote.manifest]; exact own.rows, own.same⟩

end Wrote

/-- The upload to a free address. -/
theorem put_keeps (own : Own deployment run earlier row world) {kind : OutputType} {uri : PyStr}
    (data : Bytes) (address : IsAddress deployment run.runId kind uri)
    (absent : world.objects uri = none) :
    Keeps deployment conditions (fun _ end' => Wrote deployment run.runId [kind] world end'
      ∧ end'.objects uri = some data)
      (fun end' => end'.manifest = world.manifest) (perform (.put uri data)) world := by
  have wrote : Wrote deployment run.runId [kind] world (world.setObject uri data) := by
    refine ⟨rfl, fun other => ?_⟩
    by_cases here : other = uri
    · subst here
      exact Or.inr ⟨absent, kind, List.mem_singleton_self kind, address⟩
    · exact Or.inl (Function.update_of_ne here ..)
  refine keeps_perform ?_ rfl
  intro choice _
  have stored : effect deployment (.put uri data) choice world =
      (.ok (), world.setObject uri data) := by
    change putEffect deployment.sha uri data world = _
    unfold putEffect
    rw [absent]
    rfl
  rw [stored]
  refine ⟨.stores rfl fun other => ?_, fun _ _ => ⟨wrote, Function.update_self ..⟩, rfl⟩
  obtain same | ⟨free, found, -, address'⟩ := wrote.objects other
  · exact Or.inl same
  · exact Or.inr ⟨free, row, by rw [own.rows]; simp, found, by
      rw [own.same.runId]; exact address'⟩

/-- `_write_rows`. -/
theorem writeRows_keeps (own : Own deployment run earlier row world) {kind : OutputType}
    (placement : Placement) (table : Table) (entity : 47 ∉ run.entityName)
    (partner : 47 ∉ placement.partner)
    (free : Unwritten deployment run.runId kind world) :
    Keeps deployment conditions (fun output end' =>
      Stored deployment end'.objects run.runId (kind, table) output ∧
        Wrote deployment run.runId [kind] world end')
      (fun end' => end'.manifest = world.manifest)
      (writeRows deployment run kind placement table) world := by
  refine Keeps.seq ((looks_keeps fun _ => rfl).mono (fun _ _ ends => ends)
    fun end' same => by rw [same]) ?_
  rintro data end' ⟨rfl, choice, -, written⟩
  refine Keeps.seq (Keeps.ofExcept (P := fun place end'' => end'' = end' ∧
    IsAddress deployment run.runId kind place.2) ?_ rfl) ?_
  · intro place located
    exact ⟨rfl, run.entityName, _, _, place, entity, partner, located, rfl⟩
  · rintro place end'' ⟨rfl, address⟩
    refine Keeps.seq (put_keeps own data address (free _ address)) ?_
    rintro _ end''' ⟨wrote, present⟩
    exact ⟨⟨rfl, rfl, address, data, written, present, rfl⟩, wrote⟩

/-- An output that is written when there is something to write. -/
theorem writeSome_keeps (own : Own deployment run earlier row world) {kind : OutputType}
    (placement : Placement) (table : Table) (entity : 47 ∉ run.entityName)
    (partner : 47 ∉ placement.partner)
    (free : Unwritten deployment run.runId kind world) :
    Keeps deployment conditions (fun outputs end' =>
      List.Forall₂ (Stored deployment end'.objects run.runId) (planSome kind table) outputs ∧
        Wrote deployment run.runId [kind] world end')
      (fun end' => end'.manifest = world.manifest)
      (writeSome deployment run kind placement table) world := by
  unfold writeSome planSome
  split
  · exact ⟨List.Forall₂.nil, Wrote.refl world⟩
  · refine Keeps.seq (writeRows_keeps own placement table entity partner free) ?_
    rintro output end' ⟨stored, wrote⟩
    exact ⟨List.Forall₂.cons stored List.Forall₂.nil, wrote⟩

/-- The kinds of the entity's own rows. -/
def rowKinds : List OutputType := [.events, .latestAll, .current]

/-- The outputs of the entity's own rows. -/
theorem writeEntityRows_keeps (own : Own deployment run earlier row world) (eventDate : Date)
    (build : Build) (plain : 47 ∉ run.runId) (entity : 47 ∉ run.entityName)
    (free : ∀ kind ∈ rowKinds, Unwritten deployment run.runId kind world) :
    Keeps deployment conditions (fun outputs end' => ∃ entity,
      Entity.ofName run.entityName = some entity ∧
      List.Forall₂ (Stored deployment end'.objects run.runId) (planEntityRows entity build)
        outputs ∧ Wrote deployment run.runId rowKinds world end')
      (fun end' => end'.manifest = world.manifest)
      (writeEntityRows deployment run eventDate build) world := by
  unfold writeEntityRows
  split
  · rename_i events
    refine (writeSome_keeps own _ _ entity (partner_plain rfl) (free .events (by decide))).mono ?_
      fun _ same => same
    rintro outputs end' ⟨stored, wrote⟩
    refine ⟨.transactionEvents, by rw [events, Entity.ofName_name], ?_,
      wrote.widen (by decide)⟩
    unfold planEntityRows
    rw [if_pos rfl]
    exact stored
  · rename_i other
    refine Keeps.seq (Keeps.ofExcept (P := fun entity end' => end' = world ∧
      Entity.ofName run.entityName = some entity)
      (fun entity accepted => ⟨rfl, entitySchema_ok accepted⟩) rfl) ?_
    · rintro found end' ⟨rfl, named⟩
      have state : found ≠ .transactionEvents := by
        rintro rfl
        exact other (Entity.name_of_ofName named).symm
      refine Keeps.seq (writeRows_keeps own {} _ entity (partner_plain rfl)
        (free .latestAll (by decide))) ?_
      rintro latest middle ⟨stored, wrote⟩
      refine Keeps.seq ((writeRows_keeps (wrote.own own) {} _ entity (partner_plain rfl)
        (wrote.unwritten plain (by decide) (free .current (by decide)))).mono
          (fun _ _ ends => ends) ?_) ?_
      · intro end'' same
        rw [same, wrote.manifest]
      · rintro current end'' ⟨stored', wrote'⟩
        refine ⟨found, named, ?_, (wrote.trans wrote').widen (by decide)⟩
        unfold planEntityRows
        rw [if_neg state]
        exact .cons (stored.mono wrote'.preserved) (.cons stored' .nil)

/-! ## The call -/

/-- `_transform_and_write_cdc`: everything planned is stored afterwards. -/
theorem transformAndWriteCdc_keeps (own : Own deployment run earlier row world)
    (events : List NormalizedCdcEvent) (rejections : List QualityRejection)
    (unfinished : row.status ≠ .completed) (plain : 47 ∉ run.runId)
    (entity : 47 ∉ run.entityName) (free : ∀ kind, Unwritten deployment run.runId kind world) :
    Keeps deployment conditions (fun answer end' => ∃ found state known build row',
      Own deployment run earlier row' end' ∧ Entity.ofName run.entityName = some found ∧
      priorState deployment end'.objects earlier run = some state ∧
      mergeEvents run.entityName run.object.uri run.now { state, known, rejections }
        (sortEvents events) = .ok build ∧
      List.Forall₂ (Stored deployment end'.objects run.runId) (planTables found events build)
        answer.1)
      (Held deployment run earlier) (transformAndWriteCdc deployment run events rejections)
      world := by
  have held : ∀ end' : World, end' = world → Held deployment run earlier end' := by
    rintro end' rfl
    exact ⟨row, own⟩
  refine Keeps.seq ((loadLatestState_keeps run world).mono (fun _ _ ends => ends) held) ?_
  rintro state end' ⟨rfl, loaded⟩
  refine Keeps.seq ((knownReferenceKeys_keeps referenceEntities end').mono
    (fun _ _ ends => ends) held) ?_
  rintro known end'' rfl
  refine Keeps.seq (Keeps.ofExcept (P := fun build end' => end' = end'' ∧
    mergeEvents run.entityName run.object.uri run.now { state, known, rejections }
      (sortEvents events) = .ok build) (fun build merged => ⟨rfl, merged⟩) (held _ rfl)) ?_
  rintro build middle ⟨rfl, merged⟩
  refine Keeps.seq (transition_keeps own [] (by decide)) ?_
  rintro writing world₀ ⟨-, own₀, objects⟩
  have prior : priorState deployment world₀.objects earlier run = some state := by
    rw [objects]
    unfold priorState at loaded ⊢
    rw [own.rows, latestAmong_append_open unfinished] at loaded
    exact loaded
  have free₀ : ∀ kind, Unwritten deployment run.runId kind world₀ := by
    intro kind uri address
    rw [objects]
    exact free kind uri address
  have lost : ∀ {start end' : World}, Own deployment run earlier writing start
      → end'.manifest = start.manifest → Held deployment run earlier end' :=
    fun has same => ⟨writing, by rw [same]; exact has.rows, has.same⟩
  refine Keeps.seq ((writeSome_keeps own₀ _ (.history events) entity (partner_plain rfl)
    (free₀ .history)).mono
    (fun _ _ ends => ends) fun _ same => lost own₀ same) ?_
  rintro history world₁ ⟨stored₁, wrote₁⟩
  have own₁ := wrote₁.own own₀
  refine Keeps.seq ((writeEntityRows_keeps own₁ _ build plain entity fun kind member =>
    wrote₁.unwritten plain (by revert member; cases kind <;> decide) (free₀ kind)).mono
    (fun _ _ ends => ends) fun _ same => lost own₁ same) ?_
  rintro rows world₂ ⟨found, named, stored₂, wrote₂⟩
  have own₂ := wrote₂.own own₁
  have wrote₀₂ := wrote₁.trans wrote₂
  refine Keeps.seq ((writeSome_keeps own₂ {} (.rejections build.rejections) entity
    (partner_plain rfl) (wrote₀₂.unwritten plain (by decide) (free₀ .rejections))).mono
    (fun _ _ ends => ends) fun _ same => lost own₂ same) ?_
  rintro rejected world₃ ⟨stored₃, wrote₃⟩
  have own₃ := wrote₃.own own₂
  have wrote₀₃ := wrote₀₂.trans wrote₃
  refine Keeps.seq ((writeSome_keeps own₃ {} (.unresolved build.unresolved) entity
    (partner_plain rfl) (wrote₀₃.unwritten plain (by decide) (free₀ .unresolvedReferences))).mono
    (fun _ _ ends => ends) fun _ same => lost own₃ same) ?_
  rintro unresolved world₄ ⟨stored₄, wrote₄⟩
  have kept : ∀ {before : World}, Preserved before.objects world₄.objects →
      ∀ {plan : List (OutputType × Table)} {outputs : List SilverOutput},
      List.Forall₂ (Stored deployment before.objects run.runId) plan outputs →
      List.Forall₂ (Stored deployment world₄.objects run.runId) plan outputs := by
    intro before stays plan outputs stored
    exact stored.imp fun _ _ one => one.mono stays
  refine ⟨found, state, known, build, writing, wrote₄.own own₃, named,
    priorState_mono (wrote₀₃.trans wrote₄).preserved prior, merged, ?_⟩
  unfold planTables
  refine List.rel_append (List.rel_append (List.rel_append ?_ ?_) ?_) stored₄
  · exact kept ((wrote₂.trans wrote₃).trans wrote₄).preserved stored₁
  · exact kept (wrote₃.trans wrote₄).preserved stored₂
  · exact kept wrote₄.preserved stored₃

/-- The body of `process_cdc`. -/
theorem processBody_keeps {request : ProcessRequest} {runId : PyStr} {now : Instant}
    (called : conditions.request request)
    (own : Own deployment (runOf request runId now) earlier row world) (plain : 47 ∉ runId)
    (free : ∀ kind, Unwritten deployment runId kind world) :
    Keeps deployment conditions (fun _ _ => True)
      (Held deployment (runOf request runId now) earlier)
      (processBody deployment (runOf request runId now)) world := by
  refine Keeps.seq (transition_keeps own [] (by decide)) ?_
  rintro reading world₁ ⟨-, own₁, objects₁⟩
  refine Keeps.seq ((readCdc_keeps request.object world₁).mono (fun _ _ ends => ends) ?_) ?_
  · rintro end' rfl
    exact ⟨reading, own₁⟩
  rintro rows end' ⟨rfl, read⟩
  refine Keeps.seq (transition_keeps own₁ _ (by decide)) ?_
  rintro validating world₂ ⟨-, own₂, objects₂⟩
  refine Keeps.seq (Keeps.ofExcept (P := fun normal end' => end' = world₂ ∧
    normalizeCdcTable ((runOf request runId now).context deployment) rows = .ok normal)
    (fun normal normalized => ⟨rfl, normalized⟩) ⟨validating, own₂⟩) ?_
  rintro ⟨events, rejections⟩ end' ⟨rfl, normalized⟩
  refine Keeps.seq (transition_keeps own₂ [] (by decide)) ?_
  rintro transforming world₃ ⟨rfl, own₃, objects₃⟩
  have free₃ : ∀ kind, Unwritten deployment runId kind world₃ := by
    intro kind uri address
    rw [objects₃, objects₂, objects₁]
    exact free kind uri address
  have status : (validating.assign .transforming []).status ≠ .completed := by
    rw [(validating.assign_same .transforming []).2]
    decide
  refine Keeps.seq (transformAndWriteCdc_keeps own₃ _ _ status plain
    (entityFromKey_plain request.object.objectKey) free₃) ?_
  rintro ⟨outputs, count⟩ world₄ ⟨entity, state, known, build, writing, own₄, named, prior, merged,
    stored⟩
  let work : Work :=
    ⟨runOf request runId now, entity, rows, events, rejections, state, known, build⟩
  refine Keeps.seq (complete_keeps own₄ work ⟨request, called, rfl⟩ ?_) fun _ _ _ => trivial
  have same := (writing.assign_same .completed [.completedAt now.utcIso, .outputs outputs,
    .outputRecordCount (outputCount outputs), .rejectedRecordCount count, .errorCode none,
    .errorMessage none]).1
  have key : (writing.assign .completed [.completedAt now.utcIso, .outputs outputs,
    .outputRecordCount (outputCount outputs), .rejectedRecordCount count, .errorCode none,
    .errorMessage none]).runId = runId := same.runId.trans own₄.same.runId
  refine ⟨own₄.same.trans same, ⟨rfl, named, read, normalized, prior, merged⟩, rfl, ?_⟩
  exact (congrArg (fun id => List.Forall₂ (Stored deployment world₄.objects id)
    (planTables entity work.accepted build) outputs) key).mpr stored

/-- `mark_failed`. -/
theorem markFailed_keeps (own : Own deployment run earlier row world) (problem : PyError) :
    Keeps deployment conditions (fun _ _ => True) (fun _ => True)
      (markFailed run.runId problem) world := by
  refine Keeps.seq ((looks_keeps fun _ => rfl).mono (fun _ _ ends => ends) fun _ _ => trivial) ?_
  rintro current end' ⟨rfl, -⟩
  cases current with
  | none => trivial
  | some current =>
    dsimp only
    split
    · trivial
    · refine Keeps.seq ((looks_keeps fun _ => rfl).mono (fun _ _ ends => ends)
        fun _ _ => trivial) ?_
      rintro clock end'' ⟨rfl, -⟩
      exact (transition_keeps own _ (by decide)).mono (fun _ _ _ => trivial) fun _ _ => trivial

/-- The handlers of `process_cdc`. -/
theorem processHandler_keeps (own : Own deployment run earlier row world) (problem : PyError) :
    Keeps deployment conditions (fun _ _ => True) (fun _ => True)
      (processHandler run problem) world := by
  have failing : Keeps deployment conditions (fun _ _ => True) (fun _ => True)
      ((markFailed run.runId problem).bind fun failed => .done (resultOf failed)) world :=
    Keeps.seq (markFailed_keeps own problem) fun _ _ _ => trivial
  unfold processHandler
  split
  · refine Keeps.seq ((looks_keeps fun _ => rfl).mono (fun _ _ ends => ends)
      fun _ _ => trivial) ?_
    rintro current end' ⟨rfl, -⟩
    cases current with
    | none => trivial
    | some current =>
      dsimp only
      split
      · exact Keeps.seq ((transition_keeps own _ (by decide)).mono (fun _ _ ends => ends)
          fun _ _ => trivial) fun _ _ _ => trivial
      · trivial
  · exact failing

/-- The registration of a run under a key that is free. -/
theorem register_keeps {request : ProcessRequest} {runId : PyStr} {now : Instant}
    (called : conditions.request request) (plain : 47 ∉ runId)
    (first : request.forceReprocess = false →
      findLatestIdentity world.manifest (identityOf deployment request.object) = none) :
    Keeps deployment conditions (fun _ end' =>
      Own deployment (runOf request runId now) world.manifest.rows
        (registeredRun deployment (runOf request runId now)) end'
      ∧ end'.objects = world.objects ∧ ∀ row ∈ world.manifest.rows, row.runId ≠ runId)
      (fun _ => True)
      (perform (.register (registeredRun deployment (runOf request runId now)))) world := by
  refine keeps_perform ?_ trivial
  intro choice _
  obtain ⟨absent, done⟩ | ⟨problem, done⟩ :=
    register_spec world.manifest (registeredRun deployment (runOf request runId now))
  · have fresh : ∀ row ∈ world.manifest.rows, row.runId ≠ runId :=
      Relational.Table.get_eq_none.mp absent
    simp only [effect, done]
    refine ⟨.registers request runId now called plain fresh first rfl rfl, ?_, trivial⟩
    intro _ _
    exact ⟨⟨rfl, ⟨rfl, rfl, rfl, rfl, rfl, rfl, rfl, rfl⟩⟩, trivial, fresh⟩
  · simp only [effect, done]
    exact ⟨Advance.stays world, fun _ no => (by cases no), trivial⟩

/-- `process_cdc` of an object that is to be processed: the run registers itself under a key that
is free, and the addresses of such a run are free too. -/
theorem startRun_keeps {request : ProcessRequest} (called : conditions.request request)
    (first : request.forceReprocess = false →
      findLatestIdentity world.manifest (identityOf deployment request.object) = none)
    (free : ∀ runId, 47 ∉ runId → (∀ row ∈ world.manifest.rows, row.runId ≠ runId) →
      ∀ kind, Unwritten deployment runId kind world) :
    Keeps deployment conditions (fun _ _ => True) (fun _ => True)
      (startRun deployment request) world := by
  refine Keeps.seq ((looks_keeps fun _ => rfl).mono (fun _ _ ends => ends)
    fun _ _ => trivial) ?_
  rintro now world₁ ⟨rfl, clock, -, ⟨rfl⟩⟩
  refine Keeps.seq ((looks_keeps fun _ => rfl).mono (fun _ _ ends => ends)
    fun _ _ => trivial) ?_
  rintro runId world₂ ⟨rfl, issued, plain, ⟨rfl⟩⟩
  split
  · refine Keeps.seq ((readCdc_keeps request.object world₂).mono (fun _ _ ends => ends)
      fun _ _ => trivial) ?_
    rintro rows end' ⟨rfl, -⟩
    exact Keeps.seq (Keeps.ofExcept (P := fun _ _ => True) (fun _ _ => trivial) trivial)
      fun _ _ _ => trivial
  · refine Keeps.seq (register_keeps called plain first) ?_
    rintro _ end' ⟨own, objects, fresh⟩
    have unwritten : ∀ kind, Unwritten deployment issued.runId kind end' := by
      intro kind uri address
      rw [objects]
      exact free issued.runId plain fresh kind uri address
    refine Meets.handle (Meets.mono (processBody_keeps called own plain unwritten)
      (fun _ _ ends => ends) ?_)
    rintro problem end'' ⟨row, held⟩
    exact processHandler_keeps held problem

/-- `process_cdc`. -/
theorem processCdc_keeps {request : ProcessRequest} (called : conditions.request request)
    (free : ∀ runId, 47 ∉ runId → (∀ row ∈ world.manifest.rows, row.runId ≠ runId) →
      ∀ kind, Unwritten deployment runId kind world) :
    Keeps deployment conditions (fun _ _ => True) (fun _ => True)
      (processCdc deployment request) world := by
  refine Keeps.seq ((looks_keeps fun _ => rfl).mono (fun _ _ ends => ends) fun _ _ => trivial) ?_
  rintro prior end' ⟨rfl, choice, -, looked⟩
  obtain rfl : findLatestIdentity end'.manifest (identityOf deployment request.object) = prior :=
    Except.ok.inj looked
  cases found : findLatestIdentity end'.manifest (identityOf deployment request.object) with
  | none => exact startRun_keeps called (fun _ => found) free
  | some row =>
    cases forced : request.forceReprocess with
    | false => trivial
    | true =>
      refine startRun_keeps called (fun normal => ?_) free
      rw [forced] at normal
      cases normal

end Silver
