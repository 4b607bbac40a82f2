import PaymentsPlatform.Cdc.Keys
import PaymentsPlatform.Silver.Processor

/-!
# The object layout of Silver

The keys as segments. Every key ends with the run and a file name, and starts with the kind of
output, so the address of an object determines the run that wrote it and the kind of output.
-/

namespace Silver

open Python
open Cdc (IsSegment)

/-- The directory of an output. -/
def directorySegments (outputType : OutputType) (entityName : PyStr)
    (processingDate : Date) (placement : Placement) : List PyStr :=
  let entity := py "entity=" ++ entityName
  let processed := py "processing_date=" ++ processingDate.isoformat
  let eventDate := placement.eventDate.getD processingDate
  match outputType with
  | .history => [py "silver", py "cdc", py "history", entity,
      py "event_date=" ++ eventDate.isoformat, processed]
  | .latestAll | .current => [py "silver", py "cdc", outputType.value, entity,
      py "snapshot_date=" ++ processingDate.isoformat]
  | .events => [py "silver", py "cdc", py "events", entity,
      py "event_date=" ++ eventDate.isoformat, processed]
  | .settlements => [py "silver", py "settlements", py "partner_id=" ++ placement.partner,
      py "settlement_date=" ++ (placement.settlementDate.getD processingDate).isoformat]
  | .rejections => [py "silver", py "rejections", py "source=bronze", entity, processed]
  | .unresolvedReferences => [py "silver", py "unresolved_references", entity, processed]

/-- The name of the file of an output. -/
def fileName (sha : Sha256) (outputType : OutputType) (entityName runId : PyStr) : PyStr :=
  match outputType with
  | .rejections => py "rejections.parquet"
  | _ => py "part-" ++ deterministicPartId sha runId outputType entityName ++ py ".parquet"

/-- The segments of a key. -/
def silverSegments (sha : Sha256) (outputType : OutputType) (entityName runId : PyStr)
    (processingDate : Date) (placement : Placement) : List PyStr :=
  directorySegments outputType entityName processingDate placement ++
    [py "run_id=" ++ runId, fileName sha outputType entityName runId]

/-- A key, segment by segment. -/
theorem silverKey_segments (sha : Sha256) (outputType : OutputType) (entityName runId : PyStr)
    (processingDate : Date) (placement : Placement) :
    buildSilverObjectKey sha outputType entityName runId processingDate placement =
      List.intercalate [47]
        (silverSegments sha outputType entityName runId processingDate placement) := by
  cases outputType <;>
    simp [buildSilverObjectKey, silverSegments, directorySegments, fileName, List.intercalate,
      List.intersperse, py, OutputType.value, List.append_assoc]

/-- The labels of the layout. -/
def labels : List PyStr := ["silver", "cdc", "history", "latest_all", "current", "events",
  "settlements", "rejections", "unresolved_references", "entity=", "event_date=",
  "processing_date=", "snapshot_date=", "partner_id=", "settlement_date=", "source=bronze",
  "run_id=", "part-", "rejections.parquet"]

/-- A labelled text is a segment. -/
theorem labelled_segment {label value : PyStr} (member : label ∈ labels) (plain : 47 ∉ value) :
    IsSegment (label ++ value) := by
  have facts : ∀ label ∈ labels, label ≠ [] ∧ label ≠ py "." ∧ 47 ∉ label ∧
      label.head? ≠ some 46 := by decide
  obtain ⟨filled, named, single, marked⟩ := facts label member
  exact IsSegment.labelled ⟨filled, named, single⟩ marked plain

/-- A label alone is a segment. -/
theorem label_segment {label : PyStr} (member : label ∈ labels) : IsSegment label := by
  have segment : IsSegment (label ++ []) := labelled_segment member (by simp)
  rwa [List.append_nil] at segment

/-- A file name has no separator. -/
theorem fileName_segment (deployment : Deployment) (outputType : OutputType)
    (entityName runId : PyStr) :
    IsSegment (fileName deployment.sha outputType entityName runId) := by
  have digits : 47 ∉ deterministicPartId deployment.sha runId outputType entityName := by
    intro member
    have := deployment.sha_hexadecimal _ _ (List.mem_of_mem_take member)
    omega
  have part : IsSegment (py "part-" ++
      (deterministicPartId deployment.sha runId outputType entityName ++ py ".parquet")) := by
    refine labelled_segment (by simp [labels]) ?_
    rw [List.mem_append, not_or]
    exact ⟨digits, by decide⟩
  rw [← List.append_assoc] at part
  unfold fileName
  cases outputType with
  | rejections => exact label_segment (by simp [labels])
  | history | latestAll | current | events | settlements | unresolvedReferences => exact part

/-- The segments of a key are segments. -/
theorem silverSegments_valid (deployment : Deployment) (outputType : OutputType)
    {entityName runId : PyStr} (processingDate : Date) {placement : Placement}
    (entity : 47 ∉ entityName) (partner : 47 ∉ placement.partner) (run : 47 ∉ runId) :
    ∀ part ∈ silverSegments deployment.sha outputType entityName runId processingDate placement,
      IsSegment part := by
  intro part member
  unfold silverSegments at member
  rw [List.mem_append] at member
  rcases member with directory | last
  · have dated := fun date : Date => (isoformat_plain date).1
    cases outputType <;>
      simp only [directorySegments, List.mem_cons, List.not_mem_nil, or_false] at directory <;>
      rcases directory with rfl | rfl | rfl | rfl | rfl | rfl <;>
      first
        | exact labelled_segment (by simp [labels]) entity
        | exact labelled_segment (by simp [labels]) partner
        | exact labelled_segment (by simp [labels]) (dated _)
        | exact label_segment (by simp [labels, OutputType.value])
  · simp only [List.mem_cons, List.not_mem_nil, or_false] at last
    rcases last with rfl | rfl
    · exact labelled_segment (by simp [labels]) run
    · exact fileName_segment deployment outputType entityName runId

/-- The partner of a key that has none. -/
theorem partner_plain {placement : Placement} (absent : placement.partnerId = none) :
    47 ∉ placement.partner := by
  unfold Placement.partner
  rw [absent]
  decide

/-- The entity of a key is part of a segment. -/
theorem entityFromKey_plain (objectKey : PyStr) : 47 ∉ entityFromKey objectKey := by
  unfold entityFromKey
  split
  · rename_i part found
    intro member
    exact splitChar_parts (List.mem_of_find?_eq_some found) (List.mem_of_mem_drop member)
  · decide

/-- An address at which a run writes an output of a kind. -/
def IsAddress (deployment : Deployment) (runId : PyStr) (outputType : OutputType)
    (uri : PyStr) : Prop :=
  ∃ entityName processingDate placement place, 47 ∉ entityName ∧ 47 ∉ placement.partner ∧
    deployment.backend.locate deployment.settings.silverBucket
      (buildSilverObjectKey deployment.sha outputType entityName runId processingDate
        placement) = .ok place ∧ place.2 = uri

/-- The segments of a key determine the run. -/
theorem silverSegments_run (sha : Sha256) (outputType : OutputType) (entityName runId : PyStr)
    (processingDate : Date) (placement : Placement) :
    (silverSegments sha outputType entityName runId processingDate placement).reverse[1]? =
      some (py "run_id=" ++ runId) := by
  unfold silverSegments
  rw [List.reverse_append]
  rfl

/-- The kind of output a key starts with. -/
def kindSegments (outputType : OutputType) : List PyStr :=
  match outputType with
  | .history => [py "silver", py "cdc", py "history"]
  | .latestAll => [py "silver", py "cdc", py "latest_all"]
  | .current => [py "silver", py "cdc", py "current"]
  | .events => [py "silver", py "cdc", py "events"]
  | .settlements => [py "silver", py "settlements"]
  | .rejections => [py "silver", py "rejections", py "source=bronze"]
  | .unresolvedReferences => [py "silver", py "unresolved_references"]

/-- The segments of a key start with the kind of output. -/
theorem silverSegments_kind (sha : Sha256) (outputType : OutputType) (entityName runId : PyStr)
    (processingDate : Date) (placement : Placement) :
    kindSegments outputType <+:
      silverSegments sha outputType entityName runId processingDate placement := by
  unfold silverSegments
  refine List.IsPrefix.trans ?_ (List.prefix_append _ _)
  cases outputType with
  | history => exact List.prefix_append _ _
  | latestAll => exact List.prefix_append _ _
  | current => exact List.prefix_append _ _
  | events => exact List.prefix_append _ _
  | settlements => exact List.prefix_append _ _
  | rejections => exact List.prefix_append _ _
  | unresolvedReferences => exact List.prefix_append _ _

/-- The start of a key determines the kind of output. -/
theorem kind_unique {left right : OutputType} {parts : List PyStr}
    (one : kindSegments left <+: parts) (two : kindSegments right <+: parts) : left = right := by
  have comparable := List.prefix_or_prefix_of_prefix one two
  revert comparable
  cases left <;> cases right <;> decide

/-- The text behind the bucket determines the address, and the other way round. -/
theorem locate_key {deployment : Deployment} {key : PyStr} {place : Cdc.Location × PyStr}
    (located : deployment.backend.locate deployment.settings.silverBucket key = .ok place) :
    ∃ valid root, Cdc.validateObjectKey key = .ok valid ∧ place.2 = root ++ valid ∧
      ∀ other place', deployment.backend.locate deployment.settings.silverBucket other =
        .ok place' → ∃ valid', Cdc.validateObjectKey other = .ok valid' ∧
          place'.2 = root ++ valid' := by
  have shape : ∃ root, ∀ other place', deployment.backend.locate
      deployment.settings.silverBucket other = .ok place' →
        ∃ valid', Cdc.validateObjectKey other = .ok valid' ∧ place'.2 = root ++ valid' := by
    unfold Cdc.Backend.locate at located ⊢
    cases kind : deployment.backend with
    | filesystem roots =>
      cases found : roots deployment.settings.silverBucket with
      | none =>
        rw [kind] at located
        simp only [found] at located
        cases located
      | some root =>
        refine ⟨root ++ py "/", fun other place' here => ?_⟩
        dsimp only at here
        cases valid : Cdc.validateObjectKey other with
        | error problem => rw [found, valid] at here; cases here
        | ok text => rw [found, valid] at here; cases here; exact ⟨text, rfl, rfl⟩
    | minio attempts =>
      refine ⟨py "s3://" ++ deployment.settings.silverBucket ++ py "/", fun other place' here => ?_⟩
      dsimp only at here
      cases valid : Cdc.validateObjectKey other with
      | error problem => rw [valid] at here; cases here
      | ok text => rw [valid] at here; cases here; exact ⟨text, rfl, rfl⟩
  obtain ⟨root, all⟩ := shape
  obtain ⟨valid, accepted, address⟩ := all key place located
  exact ⟨valid, root, accepted, address, all⟩

/-- The address of an object determines the run and the kind of output. -/
theorem address_unique {deployment : Deployment} {left right : PyStr}
    {leftType rightType : OutputType} {uri : PyStr}
    (one : IsAddress deployment left leftType uri) (two : IsAddress deployment right rightType uri)
    (leftPlain : 47 ∉ left) (rightPlain : 47 ∉ right) : left = right ∧ leftType = rightType := by
  obtain ⟨entity, date, placement, place, plain, partner, located, rfl⟩ := one
  obtain ⟨entity', date', placement', place', plain', partner', located', same⟩ := two
  obtain ⟨valid, root, accepted, address, all⟩ := locate_key located
  obtain ⟨valid', accepted', address'⟩ := all _ _ located'
  rw [address, address'] at same
  have keys : valid' = valid := List.append_cancel_left same
  rw [silverKey_segments] at accepted accepted'
  have some_part : ∀ {outputType entityName runId processingDate placement}, silverSegments
      deployment.sha outputType entityName runId processingDate placement ≠ [] := by
    intro outputType entityName runId processingDate placement
    unfold silverSegments
    simp
  have segments := silverSegments_valid deployment leftType date plain partner leftPlain
  have segments' := silverSegments_valid deployment rightType date' plain' partner' rightPlain
  have text := Cdc.validateObjectKey_segments some_part segments accepted
  have text' := Cdc.validateObjectKey_segments some_part segments' accepted'
  have parts := congrArg (splitChar 47) (text'.symm.trans (keys.trans text))
  rw [splitChar_intercalate some_part fun part member => (segments' part member).single,
    splitChar_intercalate some_part fun part member => (segments part member).single] at parts
  constructor
  · have run := silverSegments_run deployment.sha leftType entity left date placement
    rw [← parts, silverSegments_run] at run
    exact (List.append_cancel_left (Option.some.inj run)).symm
  · have kind := silverSegments_kind deployment.sha leftType entity left date placement
    rw [← parts] at kind
    exact kind_unique kind (silverSegments_kind ..)

end Silver
