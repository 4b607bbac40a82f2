import PaymentsPlatform.Settlement.Layout

/-!
# What an attempt may do

The steps an ingestion attempt takes on manifest and store, with the evidence each one needs: a
row becomes `PROCESSED` when its content is in Bronze and its rejected rows are listed, and
`QUARANTINED` when its content is in quarantine; an object is created in Bronze for a row that is
not terminal. The rules are stated under a policy, which says what has been delivered, when a
content may be quarantined and when it may be published.
-/

namespace Settlement

open Python Effects
open Cdc (Location StoredFile Metadata)

/-- An object of a bucket at an address, and what is known of its content. -/
def StoredAt (deployment : Deployment) (bucket uri : PyStr) (content : Bytes → Prop)
    (world : World) : Prop :=
  ∃ key place file, deployment.backend.locate bucket key = .ok place ∧ place.2 = uri ∧
    world.objects place.1 = some file ∧ content file.data

/-- An object of Bronze in the directory of a partner, with a content of this digest. -/
def InBronze (deployment : Deployment) (world : World) (partnerId checksum : PyStr)
    (location : Location) : Prop :=
  location.bucket = deployment.bronzeBucket ∧
    (splitChar 47 location.key).take 2 = partnerSegments partnerId ∧
    ∃ file, world.objects location = some file ∧ deployment.sha.hexdigest file.data = checksum

/-- Conditions on a history: which files are delivered, when a content may be quarantined under a
partner, when one may be published at a place of Bronze, which runs there are, and which contents
may be registered and counted. -/
structure Policy (deployment : Deployment) where
  /-- The file was delivered. -/
  delivered : IngestRequest → Prop
  /-- What is known of stored bytes that have the digest of given ones. -/
  same : Bytes → Bytes → Prop
  /-- Bytes that are stored now are the given ones. -/
  same_refl : ∀ data, same data data
  /-- The content with this digest may be quarantined. -/
  clear : World → PyStr → PyStr → Prop
  /-- The content may be published at this place. -/
  permitted : World → Location → Bytes → Prop
  /-- The run identifier was issued. -/
  issued : PyStr → Prop := fun _ => True
  /-- The content of the partner may be registered. -/
  owned : PyStr → PyStr → Prop := fun _ _ => True
  /-- The rows of the content of the partner may be counted. -/
  counted : PyStr → PyStr → Prop := fun _ _ => True
  /-- Quarantine depends on Bronze only. -/
  clear_bronze : ∀ before after partnerId checksum,
    (∀ key, after.objects ⟨deployment.bronzeBucket, key⟩ =
      before.objects ⟨deployment.bronzeBucket, key⟩) →
    clear before partnerId checksum → clear after partnerId checksum

/-- The counts of a row are those of the validation of a delivered file. -/
structure Validated (deployment : Deployment) (delivered : IngestRequest → Prop)
    (row : ManifestRecord) (validation : FileValidationResult) : Prop where
  /-- The file, what its name says, and the outcome of its validation. -/
  judged : ∃ request filename context, delivered request ∧
    deployment.sha.hexdigest request.file.data = row.checksumSha256 ∧
    parseSettlementFilename deployment.contract request.expectedPartnerId request.file.name =
      .ok filename ∧
    filename.partnerId = row.partnerId ∧
    validateSettlementFile deployment.contract filename context request.file.data =
      .ok validation
  /-- The rows of the file. -/
  records : row.recordCount = validation.recordCount
  /-- The valid ones. -/
  accepted : row.acceptedCount = validation.acceptedRecords.length
  /-- The others. -/
  rejected : row.rejectedCount = validation.rejectedRecords.length

/-- The evidence behind a processed row. -/
structure ProcessedEvidence {deployment : Deployment} (policy : Policy deployment) (world : World)
    (row : ManifestRecord) : Prop where
  /-- The partner can be part of a key. -/
  partner : isPartitionValue row.partnerId = true
  /-- The content is in Bronze. -/
  bronze : ∃ uri, row.bronzePath = some uri ∧ StoredAt deployment deployment.bronzeBucket uri
    (fun data => deployment.sha.hexdigest data = row.checksumSha256) world
  /-- The rejected rows are listed in quarantine. -/
  listed : ∃ validation, Validated deployment policy.delivered row validation ∧
    (validation.rejectedRecords ≠ [] → ∃ uri, row.quarantinePath = some uri ∧
      StoredAt deployment deployment.quarantineBucket uri
        (fun data => policy.same data (rejectedListing validation.rejectedRecords)) world)

/-- The evidence behind a quarantined row: the delivered bytes are in quarantine. -/
def QuarantinedEvidence {deployment : Deployment} (policy : Policy deployment) (world : World)
    (row : ManifestRecord) : Prop :=
  isPartitionValue row.partnerId = true ∧ ∃ uri, row.quarantinePath = some uri ∧
    StoredAt deployment deployment.quarantineBucket uri
      (fun data => ∃ request, policy.delivered request ∧ policy.same data request.file.data ∧
        deployment.sha.hexdigest request.file.data = row.checksumSha256) world

/-- The row is in the manifest as it is. -/
def Current (row : ManifestRecord) (world : World) : Prop :=
  world.manifest.get row.fileId = some row

/-- The content with this digest is settled for the partner. -/
def Settled (world : World) (partnerId checksum : PyStr) : Prop :=
  ∃ row, Current row world ∧ row.partnerId = partnerId ∧ row.checksumSha256 = checksum ∧
    row.status.terminal

/-- Content that may appear in Bronze: a row that is not terminal stands for it. -/
def Publishing (deployment : Deployment) (world : World) (location : Location)
    (data : Bytes) : Prop :=
  ∃ row, Current row world ∧ row.status = .processing ∧
    (splitChar 47 location.key).take 2 = partnerSegments row.partnerId ∧
    deployment.sha.hexdigest data = row.checksumSha256

section

variable {deployment : Deployment}

/-- Stored bytes stay. -/
def Preserved (before after : World) : Prop :=
  ∀ location file, before.objects location = some file →
    ∃ kept, after.objects location = some kept ∧ kept.data = file.data

/-- An object that is set keeps the bytes that were there. -/
theorem setObject_preserved {world : World} {location : Location} {file : StoredFile}
    (kept : ∀ old, world.objects location = some old → old.data = file.data) :
    Preserved world (world.setObject location file) := by
  intro other old present
  by_cases same : other = location
  · subst same
    exact ⟨file, Function.update_self .., (kept old present).symm⟩
  · exact ⟨old, (Function.update_of_ne same ..).trans present, rfl⟩

/-- What is at a place after an object was set: the object, or what was there. -/
theorem setObject_cases {world : World} {place location : Location} {file stored : StoredFile}
    (present : (world.setObject place file).objects location = some stored) :
    (location = place ∧ stored = file) ∨ world.objects location = some stored := by
  by_cases here : location = place
  · subst here
    exact Or.inl ⟨rfl, Option.some.inj (present.symm.trans (Function.update_self ..))⟩
  · exact Or.inr ((Function.update_of_ne here ..).symm.trans present)

/-- What is in Bronze depends on its bucket only. -/
theorem InBronze.congr {before after : World} {partnerId checksum : PyStr} {location : Location}
    (same : after.objects location = before.objects location)
    (inside : InBronze deployment after partnerId checksum location) :
    InBronze deployment before partnerId checksum location := by
  obtain ⟨bucket, directory, file, present, digest⟩ := inside
  exact ⟨bucket, directory, file, same ▸ present, digest⟩

/-- What is in Bronze after an object was set: it was there, or it is published now. -/
theorem InBronze.of_setObject {world : World} {location place : Location} {file : StoredFile}
    {partnerId checksum : PyStr}
    (kept : ∀ old, world.objects place = some old → old.data = file.data)
    (inside : InBronze deployment (world.setObject place file) partnerId checksum location) :
    InBronze deployment world partnerId checksum location ∨
      (location = place ∧ world.objects place = none ∧
        place.bucket = deployment.bronzeBucket ∧
        (splitChar 47 place.key).take 2 = partnerSegments partnerId ∧
        deployment.sha.hexdigest file.data = checksum) := by
  by_cases here : location = place
  · subst here
    obtain ⟨bucket, directory, stored, present, digest⟩ := inside
    have set : (world.setObject location file).objects location = some file :=
      Function.update_self ..
    rw [set] at present
    obtain rfl := Option.some.inj present
    cases held : world.objects location with
    | none => exact Or.inr ⟨rfl, rfl, bucket, directory, digest⟩
    | some old =>
      exact Or.inl ⟨bucket, directory, old, held, by rw [kept old held]; exact digest⟩
  · exact Or.inl (inside.congr (Function.update_of_ne here ..))

/-- What an upload leaves behind. -/
structure Uploaded (policy : Policy deployment) (bucket uri : PyStr) (data : Bytes)
    (before after : World) : Prop where
  /-- The manifest is as it was. -/
  manifest : after.manifest = before.manifest
  /-- Stored bytes stay. -/
  preserved : Preserved before after
  /-- The object is there. -/
  present : StoredAt deployment bucket uri (fun content => policy.same content data ∧
    deployment.sha.hexdigest content = deployment.sha.hexdigest data) after
  /-- Other buckets are as they were. -/
  others : ∀ location, location.bucket ≠ bucket →
    after.objects location = before.objects location

/-- What is stored stays stored. -/
theorem StoredAt.later {bucket uri : PyStr} {content : Bytes → Prop} {before after : World}
    (preserved : Preserved before after) (stored : StoredAt deployment bucket uri content before) :
    StoredAt deployment bucket uri content after := by
  obtain ⟨key, place, file, located, address, present, holds⟩ := stored
  obtain ⟨kept, still, same⟩ := preserved place.1 file present
  exact ⟨key, place, kept, located, address, still, by rw [same]; exact holds⟩

/-- What is stored has every property its content implies. -/
theorem StoredAt.imp {bucket uri : PyStr} {content content' : Bytes → Prop} {world : World}
    (stored : StoredAt deployment bucket uri content world)
    (weaker : ∀ data, content data → content' data) :
    StoredAt deployment bucket uri content' world := by
  obtain ⟨key, place, file, located, address, present, holds⟩ := stored
  exact ⟨key, place, file, located, address, present, weaker _ holds⟩

/-- An upload leaves a row as it is. -/
theorem Uploaded.current {policy : Policy deployment} {bucket uri : PyStr} {data : Bytes}
    {before after : World}
    (uploaded : Uploaded policy bucket uri data before after) {row : ManifestRecord}
    (current : Current row before) : Current row after := by
  unfold Current at current ⊢
  rw [uploaded.manifest]
  exact current

/-- A row is in the manifest once. -/
theorem Current.unique {row other : ManifestRecord} {world : World} (current : Current row world)
    (again : Current other world) (same : other.fileId = row.fileId) : other = row := by
  unfold Current at current again
  rw [same, current] at again
  exact (Option.some.inj again).symm

/-- Two rows of the same content of the same partner are one. -/
theorem Current.same_content {row other : ManifestRecord} {world : World}
    (current : Current row world) (again : Current other world)
    (partner : other.partnerId = row.partnerId)
    (content : other.checksumSha256 = row.checksumSha256) : other = row := by
  refine current.unique again ?_
  rw [other.identified, row.identified, partner, content]

end

namespace Policy

variable {deployment : Deployment} (policy : Policy deployment)

/-- The choices the policy admits: an upload that meets an object with the same digest meets the
same content, a publication is permitted, and a file that cannot be opened for validation may be
quarantined. -/
def admits : Op → Choice → World → Prop
  | .put place data sidecar, _, world =>
    (∀ file, world.objects place.1 = some file →
      deployment.sha.hexdigest file.data = sidecar.checksumSha256 →
      policy.same file.data data) ∧
    (place.1.bucket = deployment.bronzeBucket → policy.permitted world place.1 data)
  | .openSource file filename, choice, world =>
    ∀ fault, choice.fault = some fault → fault.error.kind.isOSError = true →
      policy.clear world filename.partnerId (deployment.sha.hexdigest file.data)
  | .newRunId, choice, _ => policy.issued choice.runId
  | _, _, _ => True

/-- The key of a quarantine object names the run that wrote it. -/
def Filed (location : Location) : Prop :=
  ∃ runId, policy.issued runId ∧
    (splitChar 47 location.key)[3]? = some (py "ingestion_run_id=" ++ runId)

/-- The row keeps its counts, or it may get new ones. -/
def Counted (row updated : ManifestRecord) : Prop :=
  (updated.acceptedCount = row.acceptedCount ∧ updated.rejectedCount = row.rejectedCount) ∨
    policy.counted row.partnerId row.checksumSha256

/-- An update of other columns keeps the counts. -/
theorem Counted.same {row : ManifestRecord} {status : ManifestStatus} {updates : List Assignment}
    (others : updates.all Assignment.uncounted = true) :
    policy.Counted row (row.assign status updates) :=
  Or.inl (row.assign_uncounted status others)

/-- One step of an attempt. -/
inductive Step (before after : World) : Prop
  /-- Nothing changes. -/
  | stay (same : after = before)
  /-- A content is registered. -/
  | registered (discovery : Discovery)
      (owned : policy.owned discovery.partnerId discovery.checksumSha256)
      (absent : before.manifest.get discovery.row.fileId = none)
      (same : after = { before with manifest := before.manifest.insert discovery.row absent })
  /-- A row moves on. -/
  | moved (row updated : ManifestRecord) (current : Current row before)
      (permitted : row.status.allowed updated.status = true) (file : SameFile row updated)
      (counts : policy.Counted row updated)
      (processed : updated.status = .processed →
        ProcessedEvidence policy before updated)
      (quarantined : updated.status = .quarantined →
        QuarantinedEvidence policy before updated ∧
          policy.clear before row.partnerId row.checksumSha256)
      (same : after = { before with manifest := before.manifest.put updated })
  /-- An object is created, or its metadata are. -/
  | stored (location : Location) (file : StoredFile)
      (kept : ∀ old, before.objects location = some old → old.data = file.data)
      (published : location.bucket = deployment.bronzeBucket → before.objects location = none →
        Publishing deployment before location file.data ∧
          policy.permitted before location file.data)
      (filed : location.bucket = deployment.quarantineBucket → before.objects location = none →
        policy.Filed location)
      (same : after = before.setObject location file)

/-- The contract of a part of the program under the policy. -/
abbrev Keeps {α : Type} (post : α → World → Prop) (program : Action α) (world : World) : Prop :=
  Meets (machine deployment) (.sequential policy.admits policy.Step) post (fun _ _ => True)
    program world

variable {policy}

/-- One effect: what it does when it takes place, and what its failure may leave. -/
theorem keeps_perform {op : Op} {post : op.Answer → World → Prop} {world : World}
    (takes : ∀ choice, policy.admits op choice world →
      policy.Step world (effect deployment op choice world).2 ∧
        ∀ answer, (effect deployment op choice world).1 = .ok answer →
          post answer (effect deployment op choice world).2)
    (leaves : ∀ choice extent, policy.admits op choice world →
      policy.Step world (leftovers deployment op choice extent world)) :
    policy.Keeps post (perform op) world := by
  refine Meets.request ?_
  rintro moved ⟨rfl⟩ choice admitted
  obtain acted | ⟨fault, -, -, failed⟩ := act_cases deployment op choice world
  · rw [acted]
    obtain ⟨step, ends⟩ := takes choice admitted
    refine ⟨step, ?_⟩
    split
    · rename_i answer outcome
      exact ends answer outcome
    · trivial
  · rw [failed]
    exact ⟨leaves choice fault.extent admitted, trivial⟩

/-- An effect that only looks. -/
theorem keeps_observe {op : Op} {post : op.Answer → World → Prop} {world : World}
    (looks : ∀ choice, (effect deployment op choice world).2 = world)
    (left : ∀ choice extent, leftovers deployment op choice extent world = world)
    (ends : ∀ choice answer, (effect deployment op choice world).1 = .ok answer →
      post answer world) : policy.Keeps post (perform op) world := by
  refine keeps_perform ?_ ?_
  · intro choice _
    rw [looks choice]
    exact ⟨.stay rfl, fun answer outcome => ends choice answer outcome⟩
  · intro choice extent _
    rw [left choice extent]
    exact .stay rfl

/-- The size of the file. -/
theorem sizeSource_keeps (file : SourceFile) (world : World) :
    policy.Keeps (fun size end' => size = file.data.length ∧ end' = world)
      (perform (.sizeSource file)) world := by
  refine keeps_observe (fun _ => rfl) ?_ ?_
  · intro choice extent
    cases extent <;> rfl
  · intro choice answer outcome
    exact ⟨(Except.ok.inj outcome).symm, rfl⟩

/-- The digest of the file. -/
theorem hashSource_keeps (file : SourceFile) (world : World) :
    policy.Keeps (fun checksum end' => checksum = deployment.sha.hexdigest file.data
      ∧ end' = world) (perform (.hashSource file)) world := by
  refine keeps_observe (fun _ => rfl) ?_ ?_
  · intro choice extent
    cases extent <;> rfl
  · intro choice answer outcome
    exact ⟨(Except.ok.inj outcome).symm, rfl⟩

/-- The digest of the file, or the failure to compute it. -/
theorem hashOutcome_keeps (file : SourceFile) (world : World) :
    policy.Keeps (fun outcome end' => end' = world ∧ ∀ checksum, outcome = .ok checksum →
      checksum = deployment.sha.hexdigest file.data) (perform (.hashSource file)).outcome
      world := by
  refine Meets.outcome (Meets.request ?_)
  rintro moved ⟨rfl⟩ choice -
  obtain acted | ⟨fault, -, -, failed⟩ := act_cases deployment (.hashSource file) choice world
  · rw [acted]
    exact ⟨.stay rfl, rfl, fun _ same => (Except.ok.inj same).symm⟩
  · rw [failed]
    have left : leftovers deployment (.hashSource file) choice fault.extent world = world := by
      cases fault.extent <;> rfl
    rw [left]
    exact ⟨.stay rfl, rfl, fun _ no => by cases no⟩

/-- The clock. -/
theorem now_keeps (world : World) :
    policy.Keeps (fun _ end' => end' = world) (perform .now) world := by
  refine keeps_observe (fun _ => rfl) ?_ fun _ _ _ => rfl
  intro choice extent
  cases extent <;> rfl

/-- A run identifier. -/
theorem newRunId_keeps (world : World) :
    policy.Keeps (fun runId end' => policy.issued runId ∧ end' = world) (perform .newRunId)
      world := by
  refine keeps_perform ?_ ?_
  · rintro choice issued
    refine ⟨.stay rfl, ?_⟩
    rintro answer ⟨rfl⟩
    exact ⟨issued, rfl⟩
  · intro choice extent _
    cases extent <;> exact .stay rfl

/-- A discovery: the row of the content is in the manifest afterwards, and it is terminal if the
content was settled before. -/
theorem register_keeps {discovery : Discovery}
    (owned : policy.owned discovery.partnerId discovery.checksumSha256) (world : World) :
    policy.Keeps (fun answer end' => Current answer.1 end' ∧
      answer.1.partnerId = discovery.partnerId ∧
      answer.1.checksumSha256 = discovery.checksumSha256 ∧ end'.objects = world.objects ∧
      (Settled world discovery.partnerId discovery.checksumSha256 → answer.1.status.terminal))
      (perform (.register discovery)) world := by
  have act : policy.Step world (effect deployment (.register discovery) {} world).2 ∧
      ∀ answer, (effect deployment (.register discovery) {} world).1 = .ok answer →
        Current answer.1 (effect deployment (.register discovery) {} world).2 ∧
        answer.1.partnerId = discovery.partnerId ∧
        answer.1.checksumSha256 = discovery.checksumSha256 ∧
        (effect deployment (.register discovery) {} world).2.objects = world.objects ∧
        (Settled world discovery.partnerId discovery.checksumSha256 →
          answer.1.status.terminal) := by
    obtain ⟨row, kind, found, done⟩ | ⟨kind, absent, done⟩ | ⟨problem, done⟩ :=
      registerDiscovery_spec world.manifest discovery
    · simp only [effect, done]
      refine ⟨.stay rfl, ?_⟩
      rintro answer ⟨rfl⟩
      obtain ⟨present, partner, content⟩ := ManifestTable.lookup_eq_some.mp found
      refine ⟨present, partner, content, trivial, ?_⟩
      rintro ⟨other, current, partner', content', settled⟩
      rw [← Current.same_content current present (partner.trans partner'.symm)
        (content.trans content'.symm)] at settled
      exact settled
    · simp only [effect, done]
      refine ⟨.registered discovery owned absent rfl, ?_⟩
      rintro answer ⟨rfl⟩
      refine ⟨?_, rfl, rfl, trivial, ?_⟩
      · unfold Current
        rw [Relational.Table.get_insert, if_pos rfl]
      · rintro ⟨other, current, partner, content, -⟩
        unfold Current at current
        rw [other.identified, partner, content] at current
        cases absent.symm.trans current
    · simp only [effect, done]
      exact ⟨.stay rfl, fun answer outcome => by cases outcome⟩
  refine keeps_perform (fun _ _ => act) ?_
  intro choice extent _
  cases extent with
  | everything => exact act.1
  | objectOnly => exact .stay rfl
  | nothing => exact .stay rfl

/-- A transition: the row is in the manifest with its new columns afterwards. The evidence for a
terminal status is about the row that is in the manifest now. -/
theorem transition_keeps {fileId : PyStr} {status : ManifestStatus} {updates : List Assignment}
    {world : World}
    (processed : ∀ row, Current row world → row.fileId = fileId → status = .processed →
      ProcessedEvidence policy world (row.assign status updates))
    (quarantined : ∀ row, Current row world → row.fileId = fileId → status = .quarantined →
      QuarantinedEvidence policy world (row.assign status updates) ∧
        policy.clear world row.partnerId row.checksumSha256)
    (counts : ∀ row, Current row world → row.fileId = fileId →
      policy.Counted row (row.assign status updates)) :
    policy.Keeps (fun answer end' => Current answer end' ∧ end'.objects = world.objects ∧
      ∃ row, Current row world ∧ row.fileId = fileId ∧ row.status.allowed status = true ∧
        answer = row.assign status updates)
      (perform (.transition fileId status updates)) world := by
  have act : policy.Step world (effect deployment (.transition fileId status updates) {} world).2 ∧
      ∀ answer, (effect deployment (.transition fileId status updates) {} world).1 = .ok answer →
        Current answer (effect deployment (.transition fileId status updates) {} world).2 ∧
        (effect deployment (.transition fileId status updates) {} world).2.objects =
          world.objects ∧
        ∃ row, Current row world ∧ row.fileId = fileId ∧ row.status.allowed status = true ∧
          answer = row.assign status updates := by
    obtain ⟨row, found, permitted, done⟩ | ⟨problem, -, done⟩ :=
      transition_spec world.manifest fileId status updates
    · have key := Relational.Table.key_of_get found
      have current : Current row world := by
        unfold Current
        rw [key]
        exact found
      obtain ⟨same, now⟩ := row.assign_same status updates
      simp only [effect, done]
      refine ⟨.moved row (row.assign status updates) current (by rw [now]; exact permitted) same
        (counts row current key) (fun ends => processed row current key (now ▸ ends))
        (fun ends => quarantined row current key (now ▸ ends)) rfl, ?_⟩
      rintro answer ⟨rfl⟩
      refine ⟨?_, trivial, row, current, key, permitted, rfl⟩
      unfold Current
      rw [Relational.Table.get_put, if_pos rfl]
    · simp only [effect, done]
      exact ⟨.stay rfl, fun answer outcome => by cases outcome⟩
  refine keeps_perform (fun _ _ => act) ?_
  intro choice extent _
  cases extent with
  | everything => exact act.1
  | objectOnly => exact .stay rfl
  | nothing => exact .stay rfl

/-- A transition that needs no evidence. -/
theorem transition_open_keeps {fileId : PyStr} {status : ManifestStatus}
    {updates : List Assignment} {world : World} (open' : ¬ status.terminal)
    (counts : ∀ row, Current row world → row.fileId = fileId →
      policy.Counted row (row.assign status updates)) :
    policy.Keeps (fun answer end' => Current answer end' ∧ end'.objects = world.objects ∧
      ∃ row, Current row world ∧ row.fileId = fileId ∧ row.status.allowed status = true ∧
        answer = row.assign status updates)
      (perform (.transition fileId status updates)) world :=
  transition_keeps (fun _ _ _ ends => absurd (Or.inl ends) open')
    (fun _ _ _ ends => absurd (Or.inr ends) open') counts

/-- Setting an object is a step: its bytes are the old ones, or new ones that may be published. -/
theorem setObject_step {place : Location × PyStr} {data : Bytes} {sidecar : Cdc.Sidecar}
    {choice : Choice} {world : World} {file : StoredFile}
    (bronze : place.1.bucket = deployment.bronzeBucket →
      Publishing deployment world place.1 data)
    (filed : place.1.bucket = deployment.quarantineBucket → policy.Filed place.1)
    (admitted : policy.admits (.put place data sidecar) choice world)
    (fresh : world.objects place.1 = none → file.data = data)
    (kept : ∀ old, world.objects place.1 = some old → old.data = file.data) :
    policy.Step world (world.setObject place.1 file) := by
  refine .stored place.1 file kept (fun inside absent => ?_) (fun inside _ => filed inside) rfl
  rw [fresh absent]
  exact ⟨bronze inside, admitted.2 inside⟩

/-- What the upload to a place leaves behind. -/
structure Placed (policy : Policy deployment) (place : Location × PyStr) (data : Bytes)
    (before after : World) : Prop where
  /-- The manifest is as it was. -/
  manifest : after.manifest = before.manifest
  /-- Stored bytes stay. -/
  preserved : Preserved before after
  /-- The object is there. -/
  present : ∃ file, after.objects place.1 = some file ∧ policy.same file.data data ∧
    deployment.sha.hexdigest file.data = deployment.sha.hexdigest data
  /-- Other places are as they were. -/
  others : ∀ location, location ≠ place.1 → after.objects location = before.objects location

/-- An object that is set is there. -/
theorem setObject_placed {place : Location × PyStr} {data : Bytes} {world : World}
    {file : StoredFile} (same : policy.same file.data data)
    (digest : deployment.sha.hexdigest file.data = deployment.sha.hexdigest data)
    (kept : ∀ old, world.objects place.1 = some old → old.data = file.data) :
    Placed policy place data world (world.setObject place.1 file) where
  manifest := rfl
  preserved := setObject_preserved kept
  present := ⟨file, Function.update_self .., same, digest⟩
  others := fun _ other => Function.update_of_ne other ..

/-- The upload of an object. -/
theorem put_keeps {place : Location × PyStr} {data : Bytes} {sidecar : Cdc.Sidecar}
    {world : World} (digest : deployment.sha.hexdigest data = sidecar.checksumSha256)
    (bronze : place.1.bucket = deployment.bronzeBucket →
      Publishing deployment world place.1 data)
    (filed : place.1.bucket = deployment.quarantineBucket → policy.Filed place.1) :
    policy.Keeps (fun _ end' => Placed policy place data world end')
      (perform (.put place data sidecar)) world := by
  have act : ∀ choice, policy.admits (.put place data sidecar) choice world →
      policy.Step world (putEffect deployment.sha place data sidecar world).2 ∧
        ∀ answer, (putEffect deployment.sha place data sidecar world).1 = .ok answer →
          Placed policy place data world (putEffect deployment.sha place data sidecar world).2 := by
    intro choice admitted
    unfold putEffect
    cases held : world.objects place.1 with
    | none =>
      have kept : ∀ old, world.objects place.1 = some old → old.data = data := by simp [held]
      exact ⟨setObject_step bronze filed admitted (fun _ => rfl) kept,
        fun _ _ => setObject_placed (policy.same_refl data) rfl kept⟩
    | some existing =>
      dsimp only
      by_cases same : deployment.sha.hexdigest existing.data = sidecar.checksumSha256
      · rw [if_pos same]
        have kept : ∀ old, world.objects place.1 = some old → old.data = existing.data := by
          rw [held]
          rintro old ⟨rfl⟩
          rfl
        exact ⟨setObject_step bronze filed admitted (by simp [held]) kept,
          fun _ _ => setObject_placed (admitted.1 existing held same) (same.trans digest.symm)
            kept⟩
      · rw [if_neg same]
        exact ⟨.stay rfl, fun answer outcome => by cases outcome⟩
  refine keeps_perform act ?_
  intro choice extent admitted
  cases extent with
  | nothing => exact .stay rfl
  | everything => exact (act choice admitted).1
  | objectOnly =>
    change policy.Step world (linkEffect place data world)
    unfold linkEffect
    cases held : world.objects place.1 with
    | none => exact setObject_step bronze filed admitted (fun _ => rfl) (by simp [held])
    | some existing => exact .stay rfl

end Policy

end Settlement
