import PaymentsPlatform.Silver.Rows
import PaymentsPlatform.Silver.Run

/-!
# Publication

What holds at every moment of a history of `process_cdc` calls, whatever fails and wherever a
process dies: every completed row of the manifest is explained by the work of its run, its outputs
are stored, and neither changes afterwards. From this follows what `latest_output` returns.
-/

namespace Silver

open Python Effects

variable {deployment : Deployment} {conditions : Conditions}

/-- A row that ends a list, or a row before the end. -/
theorem split_last {α : Type} {front earlier later : List α} {last item : α}
    (same : front ++ [last] = earlier ++ item :: later) :
    (later = [] ∧ earlier = front ∧ item = last) ∨
      ∃ between, later = between ++ [last] ∧ front = earlier ++ item :: between := by
  rcases List.eq_nil_or_concat later with rfl | ⟨between, end', rfl⟩
  · obtain ⟨fronts, ends⟩ := List.append_inj' same rfl
    exact Or.inl ⟨rfl, fronts.symm, (List.cons.inj ends).1.symm⟩
  · rw [List.concat_eq_append] at same ⊢
    rw [← List.cons_append, ← List.append_assoc] at same
    obtain ⟨fronts, ends⟩ := List.append_inj' same rfl
    rw [(List.cons.inj ends).1]
    exact Or.inr ⟨between, rfl, fronts⟩

/-- A completed row is the completion of some work of a call. -/
def Completed (deployment : Deployment) (conditions : Conditions)
    (objects : PyStr → Option Bytes) (earlier : List ProcessingRun) (row : ProcessingRun) : Prop :=
  ∃ work, (∃ request, conditions.request request ∧
    work.run = runOf request work.run.runId work.run.now) ∧
    Explains deployment objects earlier work row

/-- A completed row stays explained. -/
theorem Completed.mono {before after : PyStr → Option Bytes} {earlier : List ProcessingRun}
    {row : ProcessingRun} (kept : Preserved before after)
    (completed : Completed deployment conditions before earlier row) :
    Completed deployment conditions after earlier row := by
  obtain ⟨work, called, explains⟩ := completed
  exact ⟨work, called, explains.mono kept⟩

/-- What holds at every moment. -/
structure Sound (deployment : Deployment) (conditions : Conditions) (world : World) : Prop where
  /-- Run identifiers are path segments. -/
  plain : ∀ row ∈ world.manifest.rows, 47 ∉ row.runId
  /-- Every object is at an address of a registered run. -/
  owned : ∀ uri data, world.objects uri = some data →
    ∃ row ∈ world.manifest.rows, ∃ kind, IsAddress deployment row.runId kind uri
  /-- Every completed row is explained. -/
  recorded : ∀ earlier row later, world.manifest.rows = earlier ++ row :: later →
    row.status = .completed → Completed deployment conditions world.objects earlier row

/-- Nothing has happened yet. -/
theorem Sound.empty : Sound deployment conditions .empty where
  plain := fun _ member => by cases member
  owned := fun _ _ present => by cases present
  recorded := fun earlier row later rows => by
    cases earlier <;> cases rows

/-- The addresses of a new run are free. -/
theorem Sound.unwritten {world : World} (sound : Sound deployment conditions world)
    (runId : PyStr) (plain : 47 ∉ runId)
    (fresh : ∀ row ∈ world.manifest.rows, row.runId ≠ runId) (kind : OutputType) :
    Unwritten deployment runId kind world := by
  intro uri address
  cases present : world.objects uri with
  | none => rfl
  | some data =>
    obtain ⟨row, member, other, address'⟩ := sound.owned uri data present
    obtain ⟨same, -⟩ := address_unique address' address (sound.plain row member) plain
    exact absurd same (fresh row member)

section

variable {before after : World}

/-- The last row changed: what is known of the rows stays true. -/
theorem Sound.replace (sound : Sound deployment conditions before)
    {earlier : List ProcessingRun} {row next : ProcessingRun}
    (here : before.manifest.rows = earlier ++ [row])
    (there : after.manifest.rows = earlier ++ [next]) (same : SameRun row next)
    (objects : after.objects = before.objects)
    (completed : next.status = .completed →
      Completed deployment conditions before.objects earlier next) :
    Sound deployment conditions after where
  plain := by
    intro other member
    rw [there, List.mem_append, List.mem_singleton] at member
    rcases member with inside | rfl
    · exact sound.plain other (by rw [here]; exact List.mem_append_left _ inside)
    · rw [same.runId]
      exact sound.plain row (by rw [here]; simp)
  owned := by
    intro uri data present
    rw [objects] at present
    obtain ⟨owner, member, kind, address⟩ := sound.owned uri data present
    rw [here, List.mem_append, List.mem_singleton] at member
    rcases member with inside | rfl
    · exact ⟨owner, by rw [there]; exact List.mem_append_left _ inside, kind, address⟩
    · exact ⟨next, by rw [there]; simp, kind, by rw [same.runId]; exact address⟩
  recorded := by
    intro front item back rows status
    rw [objects]
    rw [there] at rows
    obtain ⟨rfl, rfl, rfl⟩ | ⟨between, rfl, rfl⟩ := split_last rows
    · exact completed status
    · refine sound.recorded front item (between ++ [row]) ?_ status
      rw [here, List.append_assoc]
      rfl

/-- A permitted step keeps what holds. -/
theorem Sound.step (sound : Sound deployment conditions before)
    (advance : Advance deployment conditions before after) : Sound deployment conditions after := by
  cases advance with
  | stores manifest grown =>
    refine ⟨?_, ?_, ?_⟩
    · rw [manifest]
      exact sound.plain
    · intro uri data present
      rw [manifest]
      obtain same | ⟨-, row, member, kind, address⟩ := grown uri
      · exact sound.owned uri data (same.symm.trans present)
      · exact ⟨row, member, kind, address⟩
    · intro earlier row later rows status
      rw [manifest] at rows
      exact (sound.recorded earlier row later rows status).mono
        (show Advance deployment conditions before after from .stores manifest grown).preserved
  | registers request runId now called plain fresh first rows objects =>
    refine ⟨?_, ?_, ?_⟩
    · intro row member
      rw [rows, List.mem_append, List.mem_singleton] at member
      rcases member with inside | rfl
      · exact sound.plain row inside
      · exact plain
    · intro uri data present
      rw [objects] at present
      obtain ⟨row, member, kind, address⟩ := sound.owned uri data present
      exact ⟨row, by rw [rows]; exact List.mem_append_left _ member, kind, address⟩
    · intro earlier row later split status
      rw [objects]
      rw [rows] at split
      obtain ⟨-, -, rfl⟩ | ⟨between, rfl, whole⟩ := split_last split
      · cases status
      · exact sound.recorded earlier row between whole status
  | moves earlier row next here there same unfinished open' objects =>
    exact sound.replace here there same objects fun status => absurd status open'
  | completes earlier row next work here there same unfinished completed objects called explains =>
    exact sound.replace here there same objects fun _ => ⟨work, called, explains⟩

/-- What a later moment keeps: stored objects and completed rows. -/
structure Since (before after : World) : Prop where
  /-- Stored objects stay. -/
  objects : Preserved before.objects after.objects
  /-- Completed rows stay. -/
  completed : ∀ row ∈ before.manifest.rows, row.status = .completed →
    row ∈ after.manifest.rows

/-- A permitted step keeps objects and completed rows. -/
theorem Advance.since (advance : Advance deployment conditions before after) :
    Since before after := by
  refine ⟨advance.preserved, ?_⟩
  intro row member status
  have replaced : ∀ earlier last next, before.manifest.rows = earlier ++ [last] →
      after.manifest.rows = earlier ++ [next] → last.status ≠ .completed →
      row ∈ after.manifest.rows := by
    intro earlier last next here there unfinished
    rw [here, List.mem_append, List.mem_singleton] at member
    rcases member with inside | rfl
    · rw [there]
      exact List.mem_append_left _ inside
    · exact absurd status unfinished
  cases advance with
  | stores manifest grown =>
    rw [manifest]
    exact member
  | registers request runId now called plain fresh first rows objects =>
    rw [rows]
    exact List.mem_append_left _ member
  | moves earlier last next here there same unfinished open' objects =>
    exact replaced earlier last next here there unfinished
  | completes earlier last next work here there same unfinished completed objects called explains =>
    exact replaced earlier last next here there unfinished

/-- Objects and completed rows stay along any number of steps. -/
theorem since_tracks : Tracks (Advance deployment conditions) Since where
  refl := fun _ => ⟨fun _ _ present => present, fun _ member _ => member⟩
  trans := fun one two => ⟨
    fun uri data present => two.objects uri data (one.objects uri data present),
    fun row member status => two.completed row (one.completed row member status) status⟩
  step := fun advance => advance.since

end

/-- The calls and choices of a history are the given ones. -/
def Possible (deployment : Deployment) (conditions : Conditions)
    (events : List (Event ProcessRequest Choice)) (state : Program signature PyError Unit × World) :
    Prop :=
  (service deployment).Admitted (fun request _ => conditions.request request) Admits
    events state

/-- A history in two parts. -/
theorem Possible.append {events more : List (Event ProcessRequest Choice)}
    {state : Program signature PyError Unit × World}
    (possible : Possible deployment conditions (events ++ more) state) :
    Possible deployment conditions events state ∧
      Possible deployment conditions more ((service deployment).run events state) :=
  ((service deployment).admitted_append events more state).mp possible

/-- What holds at every moment of a history, with anything else that permitted steps keep, and what
is kept until every later moment. -/
theorem reached_with {events : List (Event ProcessRequest Choice)} {I : World → Prop}
    {state : Program signature PyError Unit × World}
    (kept : ∀ before after, Advance deployment conditions before after →
      Sound deployment conditions before → I before → I after)
    (possible : Possible deployment conditions events state)
    (sound : Sound deployment conditions state.2) (start : I state.2)
    (running : Keeps deployment conditions (fun _ _ => True) (fun _ => True) state.1 state.2) :
    (Sound deployment conditions ((service deployment).run events state).2 ∧
        I ((service deployment).run events state).2) ∧
      Since state.2 ((service deployment).run events state).2 ∧
      Keeps deployment conditions (fun _ _ => True) (fun _ => True)
        ((service deployment).run events state).1 ((service deployment).run events state).2 := by
  refine (service deployment).keeps_admitted (I := fun world =>
    Sound deployment conditions world ∧ I world) since_tracks
    (fun before after advance here =>
      ⟨here.1.step advance, kept before after advance here.1 here.2⟩)
    ?_ events state possible ⟨sound, start⟩ running
  intro request world here called
  have same : Since world world := ⟨fun _ _ present => present, fun _ member _ => member⟩
  exact ⟨here, same, Keeps.seq (processCdc_keeps called here.1.unwritten) fun _ _ _ => trivial⟩

/-- What holds at every moment of a history, and what is kept until every later one. -/
theorem reached {events : List (Event ProcessRequest Choice)}
    {state : Program signature PyError Unit × World}
    (possible : Possible deployment conditions events state)
    (sound : Sound deployment conditions state.2)
    (running : Keeps deployment conditions (fun _ _ => True) (fun _ => True) state.1 state.2) :
    Sound deployment conditions ((service deployment).run events state).2 ∧
      Since state.2 ((service deployment).run events state).2 ∧
      Keeps deployment conditions (fun _ _ => True) (fun _ => True)
        ((service deployment).run events state).1 ((service deployment).run events state).2 := by
  obtain ⟨here, since, running⟩ := reached_with (I := fun _ => True) (fun _ _ _ _ _ => trivial)
    possible sound trivial running
  exact ⟨here.1, since, running⟩

/-! ## The outputs of a completed run -/

/-- An output of a kind is the stored table of that kind. -/
theorem find_stored {objects : PyStr → Option Bytes} {runId : PyStr}
    {plan : List (OutputType × Table)} {outputs : List SilverOutput}
    (stored : List.Forall₂ (Stored deployment objects runId) plan outputs) (kind : OutputType) :
    Option.Rel (Stored deployment objects runId)
      (plan.find? fun planned => planned.1 = kind)
      (outputs.find? fun output => output.outputType = kind) := by
  induction stored with
  | nil => exact .none
  | @cons planned output plan outputs first _ ih =>
    by_cases here : planned.1 = kind
    · rw [List.find?_cons_of_pos (by simpa using here),
        List.find?_cons_of_pos (by simpa using first.outputType.trans here)]
      exact .some first
    · rw [List.find?_cons_of_neg (by simpa using here),
        List.find?_cons_of_neg (by simpa [first.outputType] using here)]
      exact ih

/-- The table of a kind is not among the tables of another one. -/
theorem planSome_find {kind other : OutputType} {table : Table} (different : other ≠ kind) :
    ((planSome other table).find? fun planned => planned.1 = kind) = none := by
  unfold planSome
  split
  · rfl
  · rw [List.find?_cons_of_neg (by simpa using different), List.find?_nil]

/-- The snapshots a run of a state entity writes. -/
theorem planTables_find {entity : Entity} (state : entity ≠ .transactionEvents)
    (events : List NormalizedCdcEvent) (build : Build) :
    ((planTables entity events build).find? fun planned => planned.1 = .latestAll) =
      some (.latestAll, .state entity (latestRows build.state)) ∧
    ((planTables entity events build).find? fun planned => planned.1 = .current) =
      some (.current, .state entity (currentRows (latestRows build.state))) := by
  unfold planTables planEntityRows
  rw [if_neg state]
  constructor
  · rw [List.find?_append, List.find?_append, List.find?_append, planSome_find (by decide)]
    rfl
  · rw [List.find?_append, List.find?_append, List.find?_append, planSome_find (by decide)]
    rfl

/-- The two snapshots of a completed run. -/
structure Snapshots (deployment : Deployment) (objects : PyStr → Option Bytes) (entity : Entity)
    (rows : List StateRow) (run : ProcessingRun) (latest current : SilverOutput) : Prop where
  /-- The one with the deleted rows. -/
  latestFound : run.output? .latestAll = some latest
  /-- It holds the rows. -/
  latestStored : Stored deployment objects run.runId (.latestAll, .state entity rows) latest
  /-- The one without them. -/
  currentFound : run.output? .current = some current
  /-- It holds the rows that are not deleted. -/
  currentStored : Stored deployment objects run.runId
    (.current, .state entity (currentRows rows)) current

/-- A completed run of a state entity has both snapshots. -/
theorem Explains.snapshots {objects : PyStr → Option Bytes} {earlier : List ProcessingRun}
    {work : Work} {row : ProcessingRun} (explains : Explains deployment objects earlier work row)
    (state : work.entity ≠ .transactionEvents) :
    ∃ latest current, Snapshots deployment objects work.entity (latestRows work.build.state) row
      latest current := by
  obtain ⟨planned, planned'⟩ := planTables_find state work.accepted work.build
  have one := find_stored explains.outputs .latestAll
  have two := find_stored explains.outputs .current
  rw [planned] at one
  rw [planned'] at two
  cases found : row.output? .latestAll with
  | none =>
    unfold ProcessingRun.output? at found
    rw [found] at one
    cases one
  | some latest =>
    cases found' : row.output? .current with
    | none =>
      unfold ProcessingRun.output? at found'
      rw [found'] at two
      cases two
    | some current =>
      refine ⟨latest, current, found, ?_, found', ?_⟩
      · unfold ProcessingRun.output? at found
        rw [found] at one
        cases one with
        | some stored => exact stored
      · unfold ProcessingRun.output? at found'
        rw [found'] at two
        cases two with
        | some stored => exact stored

/-- The rows of a stored table are read from its object. -/
theorem Stored.rows {objects : PyStr → Option Bytes} {runId : PyStr} {kind : OutputType}
    {entity : Entity} {rows : List StateRow} {output : SilverOutput}
    (stored : Stored deployment objects runId (kind, .state entity rows) output) :
    readRows deployment objects output.objectUri entity =
      some (rows.map (StateRow.narrow entity)) := by
  obtain ⟨data, written, present, -⟩ := stored.present
  unfold readRows
  rw [present]
  dsimp only
  rw [deployment.format.read_write _ _ written]
  exact if_pos rfl

/-- The latest output of a kind every run has is the one of the first run in the order. -/
theorem latestAmong_eq_head {rows : List ProcessingRun} {entityName : PyStr}
    {excluded : Option PyStr} (kind : OutputType)
    (all : ∀ run ∈ completedRuns rows entityName excluded,
      ∃ output, run.output? kind = some output) :
    latestAmong rows entityName kind excluded =
      (descending ProcessingRun.completionKey
        (completedRuns rows entityName excluded)).head?.bind (·.output? kind) := by
  unfold latestAmong
  cases sorted : descending ProcessingRun.completionKey
      (completedRuns rows entityName excluded) with
  | nil => rfl
  | cons first others =>
    have member : first ∈ completedRuns rows entityName excluded :=
      mem_descending.mp (by rw [sorted]; exact List.mem_cons_self ..)
    obtain ⟨output, has⟩ := all first member
    rw [List.findSome?_cons, has]
    exact has.symm

/-- A completed row, where it is in the manifest. -/
theorem Sound.explained {world : World} (sound : Sound deployment conditions world)
    {row : ProcessingRun} (member : row ∈ world.manifest.rows) (status : row.status = .completed) :
    ∃ earlier later work, world.manifest.rows = earlier ++ row :: later ∧
      Explains deployment world.objects earlier work row := by
  obtain ⟨earlier, later, rows⟩ := List.append_of_mem member
  obtain ⟨work, -, explains⟩ := sound.recorded earlier row later rows status
  exact ⟨earlier, later, work, rows, explains⟩

/-- The entity of a completed row is the one of its name. -/
theorem Explains.entity_eq {objects : PyStr → Option Bytes} {earlier : List ProcessingRun}
    {work : Work} {row : ProcessingRun} (explains : Explains deployment objects earlier work row)
    {entity : Entity} (named : row.entityName = entity.name) : work.entity = entity := by
  have own := explains.done.named
  have same : work.run.entityName = entity.name := explains.same.entityName.symm.trans named
  rw [same, Entity.ofName_name] at own
  exact (Option.some.inj own).symm

/-- The snapshots of every completed run of a state entity. -/
theorem Sound.snapshots {world : World} (sound : Sound deployment conditions world)
    {entity : Entity} (state : entity ≠ .transactionEvents) {row : ProcessingRun}
    (member : row ∈ world.manifest.rows) (named : row.entityName = entity.name)
    (status : row.status = .completed) :
    ∃ rows latest current, Snapshots deployment world.objects entity rows row latest current := by
  obtain ⟨earlier, later, work, -, explains⟩ := sound.explained member status
  obtain rfl := explains.entity_eq named
  obtain ⟨latest, current, snapshots⟩ := explains.snapshots state
  exact ⟨_, latest, current, snapshots⟩

/-- An output that is returned: it is one of a completed run, and no other run can have written
its object. -/
structure Returned (deployment : Deployment) (world : World) (output : SilverOutput)
    (run : ProcessingRun) : Prop where
  /-- The run is in the manifest. -/
  registered : run ∈ world.manifest.rows
  /-- It is completed. -/
  completed : run.status = .completed
  /-- The output is one of its outputs. -/
  member : output ∈ run.outputs
  /-- The object is stored, with the recorded digest and number of rows. -/
  stored : ∃ data table, world.objects output.objectUri = some data ∧
    deployment.sha.hexdigest data = output.checksumSha256 ∧
    deployment.format.read data = .ok table ∧ table.rowCount = output.recordCount
  /-- A run that writes to the address is this run. -/
  writer : ∀ other ∈ world.manifest.rows, ∀ kind,
    IsAddress deployment other.runId kind output.objectUri → other = run

/-- Narrowing a table keeps its rows. -/
theorem Table.rowCount_narrow (table : Table) : table.narrow.rowCount = table.rowCount := by
  cases table with
  | history rows => exact List.length_map ..
  | state entity rows => exact List.length_map ..
  | settlements rows => exact List.length_map ..
  | rejections rows => rfl
  | unresolved rows => rfl

/-- Every output of a completed run is stored and its own. -/
theorem Sound.returned {world : World} (sound : Sound deployment conditions world)
    {run : ProcessingRun} (registered : run ∈ world.manifest.rows)
    (completed : run.status = .completed) {output : SilverOutput} (member : output ∈ run.outputs) :
    Returned deployment world output run := by
  obtain ⟨earlier, later, work, -, explains⟩ := sound.explained registered completed
  obtain ⟨planned, -, stored⟩ : ∃ planned, planned ∈
      planTables work.entity work.accepted work.build ∧
        Stored deployment world.objects run.runId planned output := by
    have related := explains.outputs
    generalize planTables work.entity work.accepted work.build = plan at related
    generalize run.outputs = outputs at related member
    clear explains
    induction related with
    | nil => cases member
    | cons first _ ih =>
      rcases List.mem_cons.mp member with rfl | later
      · exact ⟨_, List.mem_cons_self .., first⟩
      · obtain ⟨planned, inside, stored⟩ := ih later
        exact ⟨planned, List.mem_cons_of_mem _ inside, stored⟩
  obtain ⟨data, written, present, digest⟩ := stored.present
  refine ⟨registered, completed, member, ⟨data, planned.2.narrow, present, digest.symm,
    deployment.format.read_write _ _ written,
    (Table.rowCount_narrow _).trans stored.recordCount.symm⟩, ?_⟩
  intro other present' kind address
  obtain ⟨same, -⟩ := address_unique address stored.address (sound.plain other present')
    (sound.plain run registered)
  exact List.inj_on_of_nodup_map world.manifest.nodup present' registered same

/-- What an entity publishes: nothing, or the two snapshots of one completed run, of which the
current one holds the rows of the other that are not deleted. -/
def Published (deployment : Deployment) (world : World) (entity : Entity)
    (excluded : Option PyStr) : Prop :=
  (latestOutput world.manifest entity.name .latestAll excluded = none ∧
    latestOutput world.manifest entity.name .current excluded = none) ∨
  ∃ run latest current rows,
    latestOutput world.manifest entity.name .latestAll excluded = some latest ∧
    latestOutput world.manifest entity.name .current excluded = some current ∧
    Returned deployment world latest run ∧ Returned deployment world current run ∧
    readRows deployment world.objects latest.objectUri entity = some rows ∧
    readRows deployment world.objects current.objectUri entity =
      some (rows.filter fun row => !row.lineage.isDeleted)

/-- Filtering and narrowing rows. -/
theorem currentRows_narrow (entity : Entity) (rows : List StateRow) :
    (currentRows rows).map (StateRow.narrow entity) =
      (rows.map (StateRow.narrow entity)).filter fun row => !row.lineage.isDeleted := by
  unfold currentRows
  rw [List.filter_map]
  rfl

/-- Every state entity publishes a consistent pair of snapshots. -/
theorem Sound.published {world : World} (sound : Sound deployment conditions world)
    {entity : Entity} (state : entity ≠ .transactionEvents) (excluded : Option PyStr) :
    Published deployment world entity excluded := by
  have each : ∀ run ∈ completedRuns world.manifest.rows entity.name excluded,
      run ∈ world.manifest.rows ∧ run.status = .completed ∧ ∃ rows latest current,
        Snapshots deployment world.objects entity rows run latest current := by
    intro run member
    unfold completedRuns at member
    obtain ⟨registered, facts⟩ := List.mem_filter.mp member
    rw [decide_eq_true_eq] at facts
    exact ⟨registered, facts.2.1, sound.snapshots state registered facts.1 facts.2.1⟩
  have latestHead := latestAmong_eq_head .latestAll fun run member =>
    let ⟨_, _, _, latest, _, snapshots⟩ := each run member
    ⟨latest, snapshots.latestFound⟩
  have currentHead := latestAmong_eq_head .current fun run member =>
    let ⟨_, _, _, _, current, snapshots⟩ := each run member
    ⟨current, snapshots.currentFound⟩
  unfold Published latestOutput
  rw [latestHead, currentHead]
  cases sorted : descending ProcessingRun.completionKey
      (completedRuns world.manifest.rows entity.name excluded) with
  | nil => exact Or.inl ⟨rfl, rfl⟩
  | cons run others =>
    have member : run ∈ completedRuns world.manifest.rows entity.name excluded :=
      mem_descending.mp (by rw [sorted]; exact List.mem_cons_self ..)
    obtain ⟨registered, completed, rows, latest, current, snapshots⟩ := each run member
    refine Or.inr ⟨run, latest, current, rows.map (StateRow.narrow entity),
      snapshots.latestFound, snapshots.currentFound,
      sound.returned registered completed (List.mem_of_find?_eq_some snapshots.latestFound),
      sound.returned registered completed (List.mem_of_find?_eq_some snapshots.currentFound),
      snapshots.latestStored.rows, ?_⟩
    rw [snapshots.currentStored.rows, currentRows_narrow]

/-- At every moment of every history of calls, whatever fails and wherever a process dies: a state
entity publishes the two snapshots of one completed run; whatever `latest_output` returns is a
stored output of a completed run, which no other run wrote; and a completed run never changes. -/
theorem outputs_published_consistently (deployment : Deployment)
    (events more : List (Event ProcessRequest Choice))
    (possible : Possible deployment {} (events ++ more) (.done (), .empty)) :
    (∀ entity, entity ≠ .transactionEvents → ∀ excluded,
      Published deployment ((service deployment).moment events .empty) entity excluded) ∧
    (∀ entityName kind excluded output,
      latestOutput ((service deployment).moment events .empty).manifest entityName kind excluded =
        some output →
      ∃ run, Returned deployment ((service deployment).moment events .empty) output run ∧
        run.entityName = entityName ∧ output.outputType = kind) ∧
    ∀ run ∈ ((service deployment).moment events .empty).manifest.rows, run.status = .completed →
      ((service deployment).moment (events ++ more) .empty).manifest.get run.runId = some run := by
  obtain ⟨before, after⟩ := possible.append
  obtain ⟨sound, -, running⟩ := reached before Sound.empty trivial
  obtain ⟨-, since, -⟩ := reached after sound running
  refine ⟨fun entity state excluded => sound.published state excluded, ?_, ?_⟩
  · intro entityName kind excluded output found
    obtain ⟨run, registered, named, completed, has⟩ := latestAmong_mem found
    exact ⟨run, sound.returned registered completed (List.mem_of_find?_eq_some has), named,
      by simpa using List.find?_some has⟩
  · intro run registered completed
    unfold Service.moment
    rw [Service.run_append]
    exact Relational.Table.get_eq_some.mpr ⟨since.completed run registered completed, rfl⟩

/-! ## A concrete deployment -/

/-- A format that has files for the given tables: zeros, as many as tables come before. -/
def sampleFormat (tables : List Table) : TableFormat where
  write table :=
    match tables.findIdx? (· = table) with
    | some index => .ok (List.replicate index 0)
    | none => .error ⟨.arrowError, "Column contains nulls"⟩
  read data :=
    match tables[data.length]? with
    | some table => .ok table.narrow
    | none => .error ⟨.arrowError, "Not a Parquet file"⟩
  read_write := by
    intro table data written
    cases found : tables.findIdx? (· = table) with
    | none => rw [found] at written; cases written
    | some index =>
      rw [found] at written
      cases written
      obtain ⟨bound, here, -⟩ := List.findIdx?_eq_some_iff_getElem.mp found
      have same : tables[index] = table := by simpa using here
      rw [List.length_replicate, List.getElem?_eq_getElem bound, same]

/-- The Bronze object of a number. -/
def customerObject (number : UInt8) : InputObject where
  uri := [number.toNat]
  bucket := [98]
  objectKey := py "cdc/entity=customers/part.parquet"
  checksumSha256 := sha256.hexdigest [number]

/-- The tables a run on customers writes, from the rows of the snapshot before and of its object. -/
def customerTables (run : Run) (prior : List StateRow) (rows : List BronzeRow) : List Table :=
  match normalizeCdcTable ⟨sha256, 100, run.object.uri, run.runId, run.now, [49]⟩ rows with
  | .error _ => []
  | .ok (events, rejections) =>
    let accepted := (deduplicateEvents events).1
    match mergeEvents run.entityName run.object.uri run.now
      { state := indexRows .customers prior, known := [], rejections } (sortEvents accepted) with
    | .error _ => []
    | .ok build => (planTables .customers accepted build).map Prod.snd

/-- A deployment on MinIO in which the object of a number has the given rows. -/
def customerDeployment (tables : List Table) (rows : UInt8 → List BronzeRow) : Deployment where
  sha := sha256
  sha_hexadecimal := sha256.hexdigest_digits
  recursionLimit := 100
  format := sampleFormat tables
  readParquet data := match data with
    | [number] => .ok ⟨cdcArrowSchema.map fun (name, type) => (name, some type), rows number⟩
    | _ => .error ⟨.arrowError, "Not a Parquet file"⟩
  backend := .minio 3
  settings := ⟨[49], [49], [49], [115]⟩
  bronze object := match object.uri with
    | [number] => .ok [UInt8.ofNat number]
    | _ => .error ⟨.osError, "No such file or directory"⟩

/-- A call that is not disturbed, at a time and under a run identifier. -/
def callAt (request : ProcessRequest) (runId : PyStr) (now : Instant) :
    List (Event ProcessRequest Choice) :=
  .start request :: List.replicate 24 (.step { clock := now, runId })

/-- The calls of an undisturbed call. -/
theorem start_mem_callAt {request other : ProcessRequest} {runId : PyStr} {now : Instant}
    (member : .start other ∈ callAt request runId now) : other = request := by
  rcases List.mem_cons.mp member with same | later
  · exact Event.start.inj same
  · cases (List.mem_replicate.mp later).2

/-- The choices of an undisturbed call. -/
theorem step_mem_callAt {request : ProcessRequest} {choice : Choice} {runId : PyStr}
    {now : Instant} (member : .step choice ∈ callAt request runId now) :
    choice = { clock := now, runId } := by
  rcases List.mem_cons.mp member with no | later
  · cases no
  · exact Event.step.inj (List.mem_replicate.mp later).2

/-- A history whose run identifiers are path segments. -/
theorem possible_of_plain {events : List (Event ProcessRequest Choice)}
    {state : Program signature PyError Unit × World}
    (plain : ∀ choice, .step choice ∈ events → 47 ∉ choice.runId) :
    Possible deployment {} events state := by
  refine (service deployment).admitted_imp events state (fun _ _ _ _ => trivial) ?_
    ((service deployment).admitted_free events state)
  intro op choice world member _
  cases op with
  | newRunId => exact plain choice member
  | _ => trivial

/-- A customer is created. -/
def createdRows : List BronzeRow := [customerRow 1 [99] (py "\x7b\"customer_id\":\"a\"\x7d")]

/-- A row follows with the identity of the first one, a row without a key, and another customer that
is created and deleted. -/
def firstRows : List BronzeRow :=
  createdRows ++ [
    { customerRow 2 [99] (py "\x7b\"customer_id\":\"a\"\x7d") with
      eventId := some (Cdc.deterministicEventId sha256 [116] 0 1) },
    customerRow 3 [99] (py "\x7b\x7d"),
    customerRow 4 [99] (py "\x7b\"customer_id\":\"b\"\x7d"),
    customerRow 5 [100] (py "\x7b\"customer_id\":\"b\"\x7d")]

/-- One object, with these rows. -/
def firstDeployment : Deployment :=
  customerDeployment (customerTables (runOf ⟨customerObject 1, false, false⟩ [65] Instant.epoch) []
    firstRows) fun _ => firstRows

/-- It is processed. -/
def firstHistory : List (Event ProcessRequest Choice) :=
  callAt ⟨customerObject 1, false, false⟩ [65] Instant.epoch

set_option maxRecDepth 10000 in
/-- The run completes and publishes a snapshot. -/
theorem firstHistory_completes :
    ((service firstDeployment).moment firstHistory .empty).manifest.rows.map
        (fun run => (run.status, run.inputChecksum)) =
      [(.completed, (customerObject 1).checksumSha256)] ∧
    (latestOutput ((service firstDeployment).moment firstHistory .empty).manifest
      Entity.customers.name .latestAll none).isSome = true := by
  decide +kernel

/-- The customers of the first object are published. -/
theorem first_customer_published :
    Possible firstDeployment {} (firstHistory ++ []) (.done (), .empty) ∧
    (latestOutput ((service firstDeployment).moment firstHistory .empty).manifest
      Entity.customers.name .latestAll none).isSome = true ∧
    Published firstDeployment ((service firstDeployment).moment firstHistory .empty) .customers
      none := by
  have possible : Possible firstDeployment {} (firstHistory ++ []) (.done (), .empty) := by
    refine possible_of_plain fun choice member => ?_
    rw [List.append_nil] at member
    rw [step_mem_callAt member]
    decide
  exact ⟨possible, firstHistory_completes.2,
    (outputs_published_consistently firstDeployment firstHistory [] possible).1 .customers
      (by decide) none⟩

end Silver
