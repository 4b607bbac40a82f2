import PaymentsPlatform.Settlement.Outcomes

/-!
# Uploads

Which parts of an attempt upload to Bronze: only `copy_to_bronze` does. Of all the others it is
enough to know that they leave Bronze alone and settle no row as `PROCESSED` (`Op.Aside`). An
invariant of the uploads is kept part by part (`Preserves`).
-/

namespace Settlement

open Python Effects
open Cdc (Location StoredFile Metadata)

/-- Effects that neither upload to Bronze nor settle a row as `PROCESSED`. -/
def Op.Aside (deployment : Deployment) : Op → Prop
  | .put place _ _ => place.1.bucket ≠ deployment.bronzeBucket
  | .transition _ status _ => status ≠ .processed
  | _ => True

section

variable {deployment : Deployment}

/-- The part of a program keeps the invariant under the condition on the choices. -/
abbrev Preserves (deployment : Deployment) (admits : Op → Choice → World → Prop)
    (I : World → Prop) {α : Type} (post : α → World → Prop) (program : Action α)
    (world : World) : Prop :=
  Meets (machine deployment) (.sequential admits fun before after => I before → I after)
    post (fun _ _ => True) program world

section

variable {admits : Op → Choice → World → Prop} {I : World → Prop}

/-- Sequencing. -/
theorem Preserves.seq {α β : Type} {M : α → World → Prop} {post : β → World → Prop}
    {program : Action α} {next : α → Action β} {world : World}
    (first : Preserves deployment admits I M program world)
    (rest : ∀ value end', M value end' → Preserves deployment admits I post (next value) end') :
    Preserves deployment admits I post (program.bind next) world :=
  Meets.bind (first.mono rest fun _ _ ends => ends)

/-- A handler that keeps the invariant wherever it starts. -/
theorem Preserves.rescue {α : Type} {post : α → World → Prop} {program : Action α}
    {handler : PyError → Action α} {world : World}
    (first : Preserves deployment admits I post program world)
    (rest : ∀ problem end', Preserves deployment admits I post (handler problem) end') :
    Preserves deployment admits I post (program.handle handler) world :=
  Meets.handle (first.mono (fun _ _ ends => ends) fun problem end' _ => rest problem end')

end

/-- The part of a program performs such effects only. -/
abbrev Aside (deployment : Deployment) {α : Type} (program : Action α) : Prop :=
  program.Uses (S := signature) (Op.Aside deployment)

/-- An upload to another bucket. -/
theorem putContent_aside {bucket : PyStr} (elsewhere : bucket ≠ deployment.bronzeBucket)
    (key : PyStr) (data : Bytes) (checksum contentType : PyStr) (metadata : Metadata) :
    Aside deployment (putContent deployment bucket key data checksum contentType metadata) := by
  refine Program.Uses.ofExcept_bind fun place located => ?_
  obtain ⟨valid, -, where'⟩ := Cdc.Backend.locate_spec located
  refine Program.Uses.bind (Program.Uses.request ?_) fun _ => trivial
  change place.1.bucket ≠ deployment.bronzeBucket
  rw [where']
  exact elsewhere

/-- `quarantine_file`. -/
theorem quarantineFile_aside (source : SourceFile) (partnerId : PyStr)
    (settlementDate : Option Date) (runId checksum : PyStr) (metadata : Metadata) :
    Aside deployment
      (quarantineFile deployment source partnerId settlementDate runId checksum metadata) := by
  refine Program.Uses.ofExcept_bind fun key _ => ?_
  unfold putImmutable
  split
  · trivial
  · exact putContent_aside deployment.buckets_differ.symm ..

/-- `write_rejected_records`. -/
theorem writeRejectedRecords_aside (records : List RejectedRecord)
    (sourceFileName partnerId : PyStr) (settlementDate : Date) (runId : PyStr)
    (metadata : Metadata) :
    Aside deployment (writeRejectedRecords deployment records sourceFileName partnerId
      settlementDate runId metadata) :=
  Program.Uses.ofExcept_bind fun _ _ => putContent_aside deployment.buckets_differ.symm ..

/-- A transition to another status than `PROCESSED`. -/
theorem transition_aside (fileId : PyStr) {status : ManifestStatus} (updates : List Assignment)
    (other : status ≠ .processed) :
    Aside deployment (perform (.transition fileId status updates)) :=
  Program.Uses.request other

/-- `_fail_manifest`. -/
theorem failManifest_aside (record : ManifestRecord) (kind : DuplicateKind) (fileName : PyStr)
    (now : Instant) (problem : PyError) :
    Aside deployment (failManifest record kind fileName now problem) :=
  Program.Uses.bind (transition_aside _ _ (by decide)) fun _ => trivial

/-- `_storage_metadata`. -/
theorem storageMetadata_aside (file : SourceFile) (partnerId checksum runId : PyStr)
    (validation : Option FileValidationResult) (now : Instant) :
    Aside deployment
      (storageMetadata deployment file partnerId checksum runId validation now) :=
  Program.Uses.bind (Program.Uses.request trivial) fun _ => trivial

/-- `_validate`. -/
theorem validate_aside (file : SourceFile) (filename : FilenameMetadata) (now : Instant)
    (runId : PyStr) : Aside deployment (validate deployment file filename now runId) := by
  refine Program.Uses.bind (Program.Uses.outcome (Program.Uses.request trivial)) fun ended => ?_
  cases ended with
  | ok data => exact Program.Uses.ofExcept _
  | error problem =>
    dsimp only
    split
    · trivial
    · trivial

/-- `_quarantine_invalid_file`. -/
theorem quarantineInvalidFile_aside (attempt : Attempt) (record : ManifestRecord)
    (validation : FileValidationResult) (metadata : Metadata) :
    Aside deployment
      (quarantineInvalidFile deployment attempt record validation metadata) :=
  Program.Uses.handle
    (Program.Uses.bind (quarantineFile_aside ..) fun _ =>
      Program.Uses.bind (transition_aside _ _ (by decide)) fun _ => trivial)
    fun _ => failManifest_aside ..

/-- `_quarantine_strict_file`. -/
theorem quarantineStrictFile_aside (attempt : Attempt) (record : ManifestRecord)
    (validation : FileValidationResult) (metadata : Metadata) :
    Aside deployment
      (quarantineStrictFile deployment attempt record validation metadata) :=
  Program.Uses.handle
    (Program.Uses.bind (quarantineFile_aside ..) fun _ =>
      Program.Uses.bind (writeRejectedRecords_aside ..) fun _ =>
        Program.Uses.bind (transition_aside _ _ (by decide)) fun _ => trivial)
    fun _ => failManifest_aside ..

/-- The listing of rejected rows. -/
theorem listRejected_aside (attempt : Attempt) (validation : FileValidationResult)
    (metadata : Metadata) :
    Aside deployment (listRejected deployment attempt validation metadata) := by
  unfold listRejected
  split
  · trivial
  · exact Program.Uses.bind (writeRejectedRecords_aside ..) fun _ => trivial

/-- `_handle_filename_rejection`. -/
theorem handleFilenameRejection_aside (request : IngestRequest) (problem : DiscoveryError)
    (now : Instant) (runId : PyStr) :
    Aside deployment (handleFilenameRejection deployment request problem now runId) := by
  refine Program.Uses.bind (Program.Uses.outcome (Program.Uses.request trivial)) fun ended => ?_
  cases ended with
  | error failure =>
    dsimp only
    split
    · trivial
    · trivial
  | ok checksum =>
    dsimp only
    split
    · trivial
    refine Program.Uses.bind (Program.Uses.request trivial) fun size => ?_
    refine Program.Uses.bind (Program.Uses.request trivial) ?_
    rintro ⟨record, kind⟩
    dsimp only
    split
    · trivial
    refine Program.Uses.bind (transition_aside _ _ (by decide)) fun record => ?_
    refine Program.Uses.handle ?_ fun _ => failManifest_aside ..
    refine Program.Uses.bind (storageMetadata_aside ..) fun metadata => ?_
    refine Program.Uses.bind (quarantineFile_aside ..) fun path => ?_
    exact Program.Uses.bind (transition_aside _ _ (by decide)) fun _ => trivial

end

end Settlement
