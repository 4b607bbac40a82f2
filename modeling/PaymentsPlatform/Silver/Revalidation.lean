import PaymentsPlatform.Settlement.Catalogue
import PaymentsPlatform.Silver.Settlements

/-!
# Silver judges settlements as the ingestion did

The normalizer finds the name and the partner of a processed file in the metadata of its Bronze
object, or in its key when there are no metadata, and validates the same bytes under the same name.
So it returns the records that the ingestion accepted, and one rejection for each row it rejected.
-/

namespace Silver

open Python Effects
open Cdc (Location StoredFile)
open Settlement (SettlementContract SettlementRecord FileValidationResult Accepted PublishedAs
  FilenameMetadata RejectionContext bronzeSegments parseSettlementFilename validateSettlementFile
  settlementV1 parsed_segments)

/-- The row holds the values of the record. -/
structure SettlementRow.Holds (row : SettlementRow) (record : SettlementRecord) : Prop where
  /-- The partner. -/
  partnerId : row.partnerId = record.partnerId
  /-- The settlement date. -/
  settlementDate : row.settlementDate = record.settlementDate
  /-- The reference. -/
  settlementReference : row.settlementReference = record.settlementReference
  /-- The reference of the partner. -/
  partnerTransactionReference :
    row.partnerTransactionReference = record.partnerTransactionReference
  /-- The transaction of the platform, as text. -/
  internalTransactionId : row.internalTransactionId = record.internalTransactionId.map uuidText
  /-- When the transaction took place. -/
  transactionTimestamp : row.transactionTimestamp = record.transactionTimestamp
  /-- The amount. -/
  amount : row.amount = record.amount
  /-- The currency. -/
  currency : row.currency = record.currency
  /-- The status. -/
  settlementStatus : row.settlementStatus = record.settlementStatus
  /-- The fee. -/
  feeAmount : row.feeAmount = record.feeAmount
  /-- The amount less the fee. -/
  netAmount : row.netAmount = record.netAmount
  /-- The row in the file. -/
  sourceRowNumber : row.sourceRowNumber = record.sourceRowNumber

/-- The normalization of an object agrees with a validation: no rejection is about the file as a
whole, the rows hold the accepted records, and every rejected row is rejected. -/
structure Agrees (contract : SettlementContract) (payload : Bytes) (object : SettlementObject)
    (validation : FileValidationResult) (runId : PyStr) (processedAt : Instant)
    (normalized : NormalizedSettlement) : Prop where
  /-- This is what is returned. -/
  returned : normalizeSettlementBytes contract payload object runId processedAt = .ok normalized
  /-- Every rejection is about a row. -/
  rows_only : ∀ rejection ∈ normalized.2.1, ∃ rejected ∈ validation.rejectedRecords,
    rejection.rawReference = (py "row:" ++ natText rejected.sourceRowNumber).take 512
  /-- The rows hold the accepted records. -/
  accepted : List.Forall₂ SettlementRow.Holds normalized.1 validation.acceptedRecords
  /-- There is one rejection for each rejected row. -/
  rejected : normalized.2.1.length = validation.rejectedRecords.length
  /-- The rows of the file are counted. -/
  counted : normalized.2.2.1 = validation.recordCount

section

variable {contract : SettlementContract} {payload : Bytes} {object : SettlementObject}
  {filename : FilenameMetadata} {context : RejectionContext} {validation : FileValidationResult}
  {expected name partnerId checksum : PyStr} {settlementDate ingestionDate : Date}

/-! ## Name and partner -/

/-- The name of a path that is one segment. -/
theorem pathName_segment (segment : Cdc.IsSegment name) : pathName name = name := by
  unfold pathName
  rw [splitChar_plain segment.single,
    List.filter_cons_of_pos (by simpa using ⟨segment.filled, segment.named⟩)]
  rfl

/-- The name of a path that ends in a segment. -/
theorem pathName_last {key : PyStr} (segment : Cdc.IsSegment name)
    (last : (splitChar 47 key).getLast? = some name) : pathName key = name := by
  obtain ⟨parts, split⟩ := List.getLast?_eq_some_iff.mp last
  unfold pathName
  rw [split, List.filter_append,
    List.filter_cons_of_pos (by simpa using ⟨segment.filled, segment.named⟩), List.filter_nil,
    List.getLast?_append]
  rfl

/-- The partner of a Bronze key. -/
theorem pathPartition_bronze {key : PyStr} (split : splitChar 47 key =
      bronzeSegments partnerId settlementDate ingestionDate checksum name) :
    pathPartition key "partner_id" = partnerId := by
  have other : dropStart (py "partner_id" ++ py "=") (py "settlements") = none := by decide
  have here : dropStart (py "partner_id" ++ py "=") (py "partner_id=" ++ partnerId) =
      some partnerId := dropStart_eq_some.mpr rfl
  unfold pathPartition
  rw [split]
  unfold bronzeSegments Settlement.partnerSegments
  rw [List.cons_append, List.findSome?_cons, other]
  dsimp only
  rw [List.cons_append, List.findSome?_cons, here]
  rfl

/-- Metadata that are not empty are used. -/
theorem metadataOr_some {metadata : Cdc.Metadata} {field value : PyStr} (default : PyStr)
    (found : metadata.get? field = some value) (filled : value ≠ []) :
    metadataOr metadata field default = value := by
  unfold metadataOr
  rw [found]
  dsimp only
  rw [if_neg filled]

/-! ## The validation is the same -/

/-- Under the same name and partner the normalization agrees with the validation. -/
theorem normalize_agrees
    (parsed : parseSettlementFilename contract expected name = .ok filename)
    (judged : validateSettlementFile contract filename context payload = .ok validation)
    (valid : validation.fileIsValid = true) (segment : Cdc.IsSegment name) (inside : name ≠ py "..")
    (named : metadataOr object.metadata "source_file_name" (pathName object.objectKey) = name)
    (owned : metadataOr object.metadata "partner_id"
      (pathPartition object.objectKey "partner_id") = filename.partnerId)
    (runId : PyStr) (processedAt : Instant) :
    ∃ normalized, Agrees contract payload object validation runId processedAt normalized := by
  have none : validation.fileIssues = [] := List.isEmpty_iff.mp valid
  have again := Settlement.validateSettlementFile_context contract filename context
    ⟨name, processedAt, (object.metadata.get? "ingestion_run_id").getD "unknown"⟩ payload
  rw [judged] at again
  have returned : normalizeSettlementBytes contract payload object runId processedAt =
      .ok (validation.acceptedRecords.map (settlementRow object name runId processedAt),
        validation.rejectedRecords.map (rowRejection object runId processedAt),
        validation.recordCount, filename.partnerId) := by
    unfold normalizeSettlementBytes
    rw [named, owned]
    dsimp only
    rw [pathName_segment segment, if_neg (not_or.mpr ⟨segment.filled, inside⟩),
      Settlement.parseSettlementFilename_own parsed]
    dsimp only
    rw [again]
    simp only [Except.map, bind, Except.bind, FileValidationResult.relabel, none, List.map_nil,
      List.nil_append, List.map_map]
    rfl
  refine ⟨_, returned, ?_, ?_, ?_, rfl⟩
  · intro rejection member
    obtain ⟨rejected, among, rfl⟩ := List.mem_map.mp member
    exact ⟨rejected, among, rfl⟩
  · rw [List.forall₂_map_left_iff, List.forall₂_same]
    intro record _
    exact ⟨rfl, rfl, rfl, rfl, rfl, rfl, rfl, rfl, rfl, rfl, rfl, rfl⟩
  · exact List.length_map ..

end

/-! ## The main result -/

/-- The object is the one at a place, with its stored metadata or without metadata. -/
structure ReadFrom (place : Location) (file : StoredFile) (object : SettlementObject) : Prop where
  /-- The key is that of the place. -/
  key : object.objectKey = place.key
  /-- The metadata are those that were stored, or there are none. -/
  metadata : object.metadata = readMetadata file ∨ object.metadata = []

/-- The Bronze object of an accepted file is normalized as the ingestion judged it. -/
theorem published_agrees {deployment : Settlement.Deployment} {world : Settlement.World}
    {known : Settlement.IngestRequest → Prop} {row : Settlement.ManifestRecord}
    {accepted : Accepted deployment} {place : Location × PyStr} {file : StoredFile}
    (v1 : deployment.contract = settlementV1)
    (catalogued : Settlement.Catalogued deployment known world)
    (published : PublishedAs world row accepted place)
    (present : world.objects place.1 = some file) {object : SettlementObject}
    (read : ReadFrom place.1 file object) (runId : PyStr) (processedAt : Instant) :
    ∃ normalized, Agrees deployment.contract file.data object accepted.validation runId
      processedAt normalized := by
  obtain ⟨ingestionDate, checksum, segments⟩ := published.segments
  obtain ⟨stored, held, content⟩ := published.present
  rw [present] at held
  obtain rfl := Option.some.inj held
  obtain ⟨key, located⟩ := published.located
  have bucket : place.1.bucket = deployment.bronzeBucket := by
    obtain ⟨valid, -, where'⟩ := Cdc.Backend.locate_spec located
    rw [where']
  obtain ⟨-, plain⟩ := parsed_segments v1 accepted.parsed
  have segment := plain [] (by simp) (by simp)
  rw [List.append_nil] at segment
  obtain ⟨⟨filled, -⟩, owned, -⟩ := Settlement.parsed_kept v1 accepted.parsed
  have byKey : pathName object.objectKey = accepted.request.file.name := by
    rw [read.key]
    refine pathName_last segment.toIsSegment ?_
    rw [segments]
    rfl
  have byPartition : pathPartition object.objectKey "partner_id" =
      accepted.filename.partnerId := by
    rw [read.key]
    exact pathPartition_bronze segments
  have found : metadataOr object.metadata "source_file_name" (pathName object.objectKey) =
      accepted.request.file.name ∧ metadataOr object.metadata "partner_id"
        (pathPartition object.objectKey "partner_id") = accepted.filename.partnerId := by
    rw [byKey, byPartition]
    rcases read.metadata with stored | none
    · unfold readMetadata at stored
      cases attached : file.sidecar with
      | none =>
        rw [attached] at stored
        rw [stored]
        exact ⟨rfl, rfl⟩
      | some sidecar =>
        rw [attached] at stored
        obtain ⟨partnerId, settlementDate, date, digest, fileName, split, name, partner⟩ :=
          catalogued.labels place.1 file sidecar bucket present attached
        rw [segments] at split
        obtain ⟨samePartner, sameName⟩ := Settlement.bronzeSegments_inj split
        rw [← sameName] at name
        rw [← samePartner] at partner
        rw [stored]
        exact ⟨metadataOr_some _ name filled, metadataOr_some _ partner owned⟩
    · rw [none]
      exact ⟨rfl, rfl⟩
  have judged := accepted.judged
  rw [← content] at judged
  exact normalize_agrees accepted.parsed judged accepted.valid segment.toIsSegment segment.inside
    found.1 found.2 runId processedAt

/-- Silver judges every processed file as the ingestion did: at every moment of every history
without collisions, the Bronze object of a processed row holds the delivered bytes with the digest
of the row and is normalized to the records that its attempt accepted, with the counts of the
row. -/
theorem revalidation_agrees (deployment : Settlement.Deployment)
    (v1 : deployment.contract = settlementV1)
    (events : List (Event Settlement.IngestRequest Settlement.Choice))
    (free : Settlement.CollisionFree deployment events) (row : Settlement.ManifestRecord)
    (member : row ∈ ((Settlement.ingestor deployment).moment events .empty).manifest.rows)
    (processed : row.status = .processed) :
    ∃ (accepted : Accepted deployment) (place : Location × PyStr) (file : StoredFile),
      .start accepted.request ∈ events ∧ row.bronzePath = some place.2 ∧
      (∃ key, deployment.backend.locate deployment.bronzeBucket key = .ok place) ∧
      ((Settlement.ingestor deployment).moment events .empty).objects place.1 = some file ∧
      file.data = accepted.request.file.data ∧
      deployment.sha.hexdigest file.data = row.checksumSha256 ∧
      ∀ object, ReadFrom place.1 file object → ∀ runId processedAt, ∃ normalized,
        Agrees deployment.contract file.data object accepted.validation runId processedAt
          normalized ∧
        normalized.2.1.length = row.rejectedCount ∧ normalized.2.2.1 = row.recordCount := by
  have catalogued := Settlement.history_catalogued v1 events free
  obtain ⟨accepted, place, given, published⟩ :=
    catalogued.rows row (Settlement.current_iff.mpr member) processed
  obtain ⟨file, present, content⟩ := published.present
  have digest : deployment.sha.hexdigest file.data = row.checksumSha256 := by
    rw [content]
    exact published.digest
  refine ⟨accepted, place, file, given, published.path, published.located, present, content,
    digest, ?_⟩
  intro object read runId processedAt
  obtain ⟨normalized, agrees⟩ :=
    published_agrees v1 catalogued published present read runId processedAt
  exact ⟨normalized, agrees, agrees.rejected.trans published.rejects.symm,
    agrees.counted.trans published.records.symm⟩

/-- The file of the lenient attempt, in which one row was rejected. -/
theorem lenient_attempt_revalidated : ∃ row : Settlement.ManifestRecord, row.status = .processed ∧
    ∃ (accepted : Accepted Settlement.localDeployment) (place : Location × PyStr)
      (file : StoredFile), .start accepted.request ∈ Settlement.lenientAttempt ∧
      row.bronzePath = some place.2 ∧
      (∃ key, Settlement.localDeployment.backend.locate Settlement.localDeployment.bronzeBucket
        key = .ok place) ∧
      ((Settlement.ingestor Settlement.localDeployment).moment Settlement.lenientAttempt
        .empty).objects place.1 = some file ∧
      file.data = accepted.request.file.data ∧
      sha256.hexdigest file.data = row.checksumSha256 ∧
      ∀ object, ReadFrom place.1 file object → ∀ runId processedAt, ∃ normalized,
        Agrees settlementV1 file.data object accepted.validation runId processedAt normalized ∧
        normalized.2.1.length = row.rejectedCount ∧ normalized.2.2.1 = row.recordCount := by
  have left := Settlement.lenientAttempt_row
  rw [Option.map_eq_some_iff] at left
  obtain ⟨row, found, facts⟩ := left
  have current := (Settlement.ManifestTable.lookup_eq_some.mp found).1
  have free : Settlement.CollisionFree Settlement.localDeployment Settlement.lenientAttempt :=
    Settlement.collisionFree_of_fresh (by decide +kernel)
  have processed : row.status = .processed := (Prod.mk.inj facts).1
  exact ⟨row, processed, revalidation_agrees Settlement.localDeployment rfl
    Settlement.lenientAttempt free row (Settlement.current_iff.mp current) processed⟩

end Silver
