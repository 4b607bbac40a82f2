import PaymentsPlatform.Settlement.Outcomes

/-!
# Bronze and quarantine

The content of a quarantined row is not in Bronze, under a condition on the attempts. Within one
attempt the branches exclude each other; a failed attempt leaves its object behind, and the next one
may decide otherwise.
-/

namespace Settlement

open Python Effects
open Cdc (Location StoredFile)

variable {deployment : Deployment} {policy : Policy deployment}

/-- Bronze holds no object with this content in the directory of the partner. -/
def Absent (deployment : Deployment) (world : World) (partnerId checksum : PyStr) : Prop :=
  ∀ location, ¬ InBronze deployment world partnerId checksum location

/-- An attempt that is to quarantine its file starts while the content is not in Bronze, unless the
content is settled. -/
def QuarantineStarts (deployment : Deployment) (request : IngestRequest) (world : World) : Prop :=
  ∀ partnerId, request.quarantinedFor deployment.contract = some partnerId →
    ¬ Settled world partnerId (deployment.sha.hexdigest request.file.data) →
    Absent deployment world partnerId (deployment.sha.hexdigest request.file.data)

/-- A file that cannot be opened for its validation is not in Bronze. -/
def QuarantineOpens (deployment : Deployment) : Op → Choice → World → Prop
  | .openSource file filename, choice, world =>
    ∀ fault, choice.fault = some fault → fault.error.kind.isOSError = true →
      Absent deployment world filename.partnerId (deployment.sha.hexdigest file.data)
  | _, _, _ => True

/-- The policy that quarantines only what is not in Bronze. -/
def Policy.excluding (deployment : Deployment) : Policy deployment where
  delivered := fun _ => True
  same := fun _ _ => True
  same_refl := fun _ => trivial
  clear := Absent deployment
  permitted := fun _ _ _ => True
  clear_bronze := by
    intro before after partnerId checksum same absent location inside
    refine absent location (inside.congr ?_)
    obtain ⟨bucket, key⟩ := location
    obtain ⟨rfl, -⟩ := inside
    exact same key

/-- The content of every quarantined row is not in Bronze. -/
def Excluded (deployment : Deployment) (world : World) : Prop :=
  ∀ row, Current row world → row.status = .quarantined →
    Absent deployment world row.partnerId row.checksumSha256

/-- A step of the excluding policy keeps quarantine and Bronze apart. -/
theorem Policy.Step.excluded {before after : World}
    (step : (Policy.excluding deployment).Step before after)
    (excluded : Excluded deployment before) : Excluded deployment after := by
  intro row present settled
  cases step with
  | stay same =>
    subst same
    exact excluded row present settled
  | registered discovery owned absent same =>
    subst same
    obtain rfl | before := current_insert present
    · cases settled
    · exact excluded row before settled
  | moved current updated current' permitted file counts processed quarantined same =>
    subst same
    obtain rfl | ⟨before, -⟩ := current_put file present
    · rw [file.partnerId, file.checksumSha256]
      exact (quarantined settled).2
    · exact excluded row before settled
  | stored location file kept published filed same =>
    subst same
    intro other inside
    obtain before | ⟨rfl, free, bucket, directory, digest⟩ := inside.of_setObject kept
    · exact excluded row present settled other before
    · -- the object is new, so a row that is being processed stands for its content
      obtain ⟨⟨row', current, processing, directory', content⟩, -⟩ := published bucket free
      have partner : row'.partnerId = row.partnerId :=
        partnerSegments_inj (directory'.symm.trans directory)
      have here : Current row before := present
      have same := here.same_content current partner (content.symm.trans digest)
      rw [same, settled] at processing
      cases processing

/-- In every history in which a file is sent to quarantine only while its content is not in
Bronze, the content of a quarantined row is never in Bronze. -/
theorem quarantined_not_in_bronze (deployment : Deployment)
    (events : List (Event IngestRequest Choice))
    (meeting : (ingestor deployment).Admitted (QuarantineStarts deployment)
      (QuarantineOpens deployment) events (.done (), .empty)) :
    ∀ row ∈ ((ingestor deployment).moment events .empty).manifest.rows,
      row.status = .quarantined →
      Absent deployment ((ingestor deployment).moment events .empty) row.partnerId
        row.checksumSha256 := by
  have admitted : (ingestor deployment).Admitted (Policy.excluding deployment).starts
      (Policy.excluding deployment).admits events (.done (), .empty) := by
    refine (ingestor deployment).admitted_imp events _ ?_ ?_ meeting
    · intro request world _ allowed
      exact ⟨trivial, allowed, trivial, fun _ => trivial⟩
    · intro op choice world _ allowed
      cases op with
      | put place data sidecar => exact ⟨fun _ _ _ => trivial, fun _ => trivial⟩
      | openSource file filename => exact allowed
      | _ => trivial
  obtain ⟨excluded, -, -⟩ := history_keeps (fun _ _ step kept => step.excluded kept) events
    (.done (), .empty) admitted (fun _ current _ => by cases current) trivial
  intro row member settled
  exact excluded row (current_iff.mpr member) settled

/-- A lenient attempt on a file with a rejected row that fails after the upload to Bronze. -/
def failedAttempt : List (Event IngestRequest Choice) :=
  attemptOf ⟨sampleFile sampleName sampleRejectedRow, "VCB", false, false⟩
    (working 11 Instant.epoch "run-1" ++ [lostResponse] ++ working 1 Instant.epoch "run-1")

/-- A strict attempt on the same file. -/
def strictRetry : List (Event IngestRequest Choice) :=
  attemptOf ⟨sampleFile sampleName sampleRejectedRow, "VCB", false, true⟩
    (working 13 Instant.epoch "run-2")

/-- What the two attempts leave: the row and the object. -/
theorem strictRetry_leaves :
    (((ingestor localDeployment).moment (failedAttempt ++ strictRetry) .empty).manifest.rows.map
        fun row => (row.status, row.partnerId, row.checksumSha256),
      (((ingestor localDeployment).moment (failedAttempt ++ strictRetry) .empty).objects
        (samplePlace sampleRejectedRow "1970-01-01")).map (·.data)) =
    ([(.quarantined, py "VCB", sha256.hexdigest (sampleHeader ++ sampleRejectedRow))],
      some (sampleHeader ++ sampleRejectedRow)) := by
  decide +kernel

/-- The row is quarantined and its content is in Bronze. -/
theorem strict_retry_quarantines_published :
    ¬ ∀ events, ∀ row ∈ ((ingestor localDeployment).moment events .empty).manifest.rows,
      row.status = .quarantined → Absent localDeployment
        ((ingestor localDeployment).moment events .empty) row.partnerId row.checksumSha256 := by
  intro excluded
  obtain ⟨rows, object⟩ := Prod.mk.inj strictRetry_leaves
  obtain ⟨row, member, columns⟩ := List.mem_map.mp (rows ▸ List.mem_singleton_self _)
  obtain ⟨settled, partner, content⟩ := Prod.mk.inj columns |>.imp_right Prod.mk.inj
  obtain ⟨file, present, data⟩ := Option.map_eq_some_iff.mp object
  refine excluded _ row member settled _ ⟨rfl, ?_, file, present, ?_⟩
  · rw [partner]
    decide +kernel
  · rw [data, content]
    rfl

/-- A strict attempt on a file nobody has published quarantines it. -/
theorem strictAttempt_leaves :
    ((ingestor localDeployment).moment strictRetry .empty).manifest.rows.map (·.status) =
      [.quarantined] := by
  decide +kernel

/-- A strict attempt on a file nobody has published meets the condition: its row is quarantined
and the content is not in Bronze. -/
theorem strict_attempt_keeps_apart :
    ∃ row ∈ ((ingestor localDeployment).moment strictRetry .empty).manifest.rows,
      row.status = .quarantined ∧ Absent localDeployment
        ((ingestor localDeployment).moment strictRetry .empty) row.partnerId
        row.checksumSha256 := by
  have meeting : (ingestor localDeployment).Admitted (QuarantineStarts localDeployment)
      (QuarantineOpens localDeployment) strictRetry (.done (), .empty) := by
    refine ⟨?_, ?_⟩
    · rintro partnerId - - location ⟨-, -, file, present, -⟩
      cases present
    · refine (ingestor localDeployment).admitted_of_forall _ _ ?_
      intro event member state
      obtain ⟨choice, chosen, rfl⟩ := List.mem_map.mp member
      obtain ⟨-, rfl⟩ := List.mem_replicate.mp chosen
      obtain ⟨program, world⟩ := state
      cases program with
      | done value => trivial
      | raised problem => trivial
      | perform op next =>
        cases op with
        | openSource file filename => exact fun fault no => by cases no
        | _ => trivial
  obtain ⟨row, member, settled⟩ :=
    List.mem_map.mp (strictAttempt_leaves ▸ List.mem_singleton_self ManifestStatus.quarantined)
  exact ⟨row, member, settled,
    quarantined_not_in_bronze localDeployment strictRetry meeting row member settled⟩

end Settlement
