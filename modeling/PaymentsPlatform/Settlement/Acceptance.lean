import PaymentsPlatform.Python.Quantize
import PaymentsPlatform.Settlement.Layout
import PaymentsPlatform.Settlement.Verdicts

/-!
# What `settlement-v1` accepts

The verdict on a row of a `settlement-v1` file against an independent description of acceptable
rows, with amounts as rational numbers. An accepted amount has at most eighteen digits as it was
written; written without two decimal places it may not fit a column of sixteen digits before the
point, which is what Silver stores.
-/

namespace Settlement

open Python

/-! ## Amounts -/

/-- A decimal literal of scale at most two and precision at most eighteen. -/
structure AmountLiteral (text : PyStr) (literal : Decimal) : Prop where
  /-- The text is the literal, and the literal is finite. -/
  parsed : parseDecimal text = some (.finite literal)
  /-- It has at most two decimal places. -/
  scale : (-literal.exponent).toNat ≤ 2
  /-- It has at most eighteen digits. -/
  precision : literal.digitCount + literal.exponent.toNat ≤ 18

/-- A literal is not blank. -/
theorem AmountLiteral.filled {text : PyStr} {literal : Decimal}
    (amount : AmountLiteral text literal) : text ≠ [] := by
  rintro rfl
  have parsed := amount.parsed
  cases parsed

/-- A literal is a whole number of cents, of at most twenty digits. -/
theorem AmountLiteral.cents {text : PyStr} {literal : Decimal}
    (amount : AmountLiteral text literal) :
    ∃ cents : Nat, literal.magnitude 2 = cents ∧ cents < 10 ^ 20 := by
  have scale := amount.scale
  have precision := amount.precision
  obtain ⟨shift, shifted⟩ : ∃ shift : Nat, literal.exponent + (2 : Nat) = shift :=
    ⟨(literal.exponent + 2).toNat, by omega⟩
  have digits := literal.coefficient_lt
  refine ⟨literal.coefficient * 10 ^ shift, ?_, ?_⟩
  · unfold Decimal.magnitude
    rw [shifted, zpow_natCast]
    push_cast
    rfl
  · calc literal.coefficient * 10 ^ shift < 10 ^ literal.digitCount * 10 ^ shift :=
        Nat.mul_lt_mul_of_pos_right digits (Nat.pow_pos (by decide))
      _ = 10 ^ (literal.digitCount + shift) := (Nat.pow_add ..).symm
      _ ≤ 10 ^ 20 := Nat.pow_le_pow_right (by decide) (by omega)

/-- The amount of a cell is the number of its literal, in cents. -/
theorem AmountLiteral.amountOf {text : PyStr} {literal : Decimal} (field : FieldContract)
    (precision : field.precision = some 18) (scale : field.scale = some 2)
    (amount : AmountLiteral text literal) :
    ∃ value, AmountOf field text value ∧ value.toRat = literal.toRat ∧ value.exponent = -2 := by
  obtain ⟨cents, whole, small⟩ := amount.cents
  refine ⟨⟨literal.negative, cents, -(2 : Nat)⟩, ⟨amount.filled, literal, ⟨amount.parsed, ?_, ?_⟩,
    Decimal.quantize_exact whole (Nat.lt_trans small (by decide))⟩, ?_, rfl⟩
  · intro most own
    rw [scale] at own
    rw [← Option.some.inj own]
    exact amount.scale
  · intro most own
    rw [precision] at own
    rw [← Option.some.inj own]
    exact amount.precision
  · refine Decimal.toRat_eq_of_magnitude 2 rfl ?_
    rw [Decimal.magnitude_places, whole]

/-- The literal behind an amount. -/
theorem AmountOf.literal {text : PyStr} {value : Decimal} {field : FieldContract}
    (precision : field.precision = some 18) (scale : field.scale = some 2)
    (amount : AmountOf field text value) :
    ∃ literal, AmountLiteral text literal ∧ value.toRat = literal.toRat ∧ value.exponent = -2 := by
  obtain ⟨literal, admits, -⟩ := amount.2
  have own : AmountLiteral text literal :=
    ⟨admits.parsed, admits.scale 2 scale, admits.precision 18 precision⟩
  obtain ⟨same, amount', equal, places⟩ := own.amountOf field precision scale
  rw [amount.unique amount']
  exact ⟨literal, own, equal, places⟩

/-- A text is one literal. -/
theorem AmountLiteral.unique {text : PyStr} {left right : Decimal}
    (first : AmountLiteral text left) (second : AmountLiteral text right) : left = right :=
  DecimalValue.finite.inj (Option.some.inj (first.parsed.symm.trans second.parsed))

/-- An amount of cents as a rational number. -/
theorem toRat_cents {value : Decimal} (places : value.exponent = -2) :
    value.toRat = value.signed / 100 := by
  unfold Decimal.toRat
  rw [places]
  norm_num
  ring

/-! ## Acceptable rows -/

/-- What `settlement-v1` accepts: the eleven cells are there and, without the white space around
them, are what the file name, the forms and the arithmetic ask for, and no earlier row has the same
cells or the same reference. -/
structure Acceptable (filename : FilenameMetadata) (earlier : List RawRecord) (raw : RawRecord) :
    Prop where
  /-- The eleven cells are there. -/
  present : ∀ name ∈ settlementV1.fieldNames, (raw.get name).isSome
  /-- The partner is that of the file name. -/
  partner : textOf raw "partner_id" = filename.partnerId
  /-- The settlement date is that of the file name. -/
  date : dateFromIsoformat (textOf raw "settlement_date") = some filename.settlementDate
  /-- The reference is there and not too long. -/
  reference : textOf raw "settlement_reference" ≠ [] ∧
    (textOf raw "settlement_reference").length ≤ 128
  /-- The reference of the partner is there and not too long. -/
  partnerReference : textOf raw "partner_transaction_reference" ≠ [] ∧
    (textOf raw "partner_transaction_reference").length ≤ 128
  /-- The transaction of the platform is blank or a UUID. -/
  internal : textOf raw "internal_transaction_id" = [] ∨
    ∃ uuid, parseUuid (textOf raw "internal_transaction_id") = some uuid
  /-- The time is written in ISO form with an offset. -/
  time : ∃ micros offset, datetimeFromIsoformat
    (replaceChar 90 "+00:00" (textOf raw "transaction_timestamp")) = some ⟨micros, some offset⟩
  /-- The amounts are decimals, the amount is positive, the fee is not negative, and the net amount
  is their difference. -/
  amounts : ∃ amount fee net, AmountLiteral (textOf raw "amount") amount ∧
    AmountLiteral (textOf raw "fee_amount") fee ∧ AmountLiteral (textOf raw "net_amount") net ∧
    0 < amount.toRat ∧ 0 ≤ fee.toRat ∧ net.toRat = amount.toRat - fee.toRat
  /-- The currency is three capital letters. -/
  currency : isCurrency (textOf raw "currency") = true
  /-- The status is one of the three. -/
  status : textOf raw "settlement_status" ∈ [py "SETTLED", py "REVERSED", py "FAILED"]
  /-- No earlier row has the same cells. -/
  fresh : ¬ CellsSeen earlier raw
  /-- No earlier row has the same reference. -/
  unique : ¬ ReferenceSeen earlier raw

/-- The rule of a column that must be there. -/
theorem columnRule_iff {raw : RawRecord} {field : FieldContract}
    (required : field.required = true) :
    ColumnRule raw field ↔ (raw.get field.name).isSome ∧
      (textOf raw field.name = [] → field.nullable = true) ∧
      ∀ most, field.maxLength = some most → (textOf raw field.name).length ≤ most := by
  unfold ColumnRule textOf
  cases raw.get field.name with
  | none => simp [required]
  | some value => simp

/-- The rules of the columns of `settlement-v1`. -/
theorem columns_iff (raw : RawRecord) :
    (∀ field ∈ settlementV1.fields, ColumnRule raw field) ↔
      (∀ name ∈ settlementV1.fieldNames, (raw.get name).isSome) ∧ Filled raw ∧
        (textOf raw "settlement_reference").length ≤ 128 ∧
        (textOf raw "partner_transaction_reference").length ≤ 128 := by
  have required : ∀ field ∈ settlementV1.fields, field.required = true := by decide
  have rules : (∀ field ∈ settlementV1.fields, ColumnRule raw field) ↔
      ∀ field ∈ settlementV1.fields, (raw.get field.name).isSome ∧
        (textOf raw field.name = [] → field.nullable = true) ∧
        ∀ most, field.maxLength = some most → (textOf raw field.name).length ≤ most :=
    forall_congr' fun field => forall_congr' fun member => columnRule_iff (required field member)
  rw [rules]
  constructor
  · intro all
    have present : ∀ name ∈ settlementV1.fieldNames, (raw.get name).isSome := by
      intro name member
      obtain ⟨field, inside, rfl⟩ := List.mem_map.mp member
      exact (all field inside).1
    refine ⟨present, fun name member => ?_, ?_, ?_⟩
    · have column : ∀ name ∈ requiredValues, ∃ field ∈ settlementV1.fields,
          field.name = name ∧ field.nullable = false := by decide
      obtain ⟨field, inside, rfl, strict⟩ := column name member
      intro blank
      rw [(all field inside).2.1 blank] at strict
      cases strict
    · have column : ∃ field ∈ settlementV1.fields, field.name = py "settlement_reference" ∧
          field.maxLength = some 128 := by decide
      obtain ⟨field, inside, named, bound⟩ := column
      rw [← named]
      exact (all field inside).2.2 128 bound
    · have column : ∃ field ∈ settlementV1.fields,
          field.name = py "partner_transaction_reference" ∧ field.maxLength = some 128 := by decide
      obtain ⟨field, inside, named, bound⟩ := column
      rw [← named]
      exact (all field inside).2.2 128 bound
  · rintro ⟨present, filled, reference, partnerReference⟩ field member
    refine ⟨present field.name (List.mem_map_of_mem member), fun blank => ?_, fun most bound => ?_⟩
    · have column : ∀ field ∈ settlementV1.fields, field.name ∈ requiredValues ∨
          field.nullable = true := by decide
      exact (column field member).resolve_left fun required => filled _ required blank
    · have column : ∀ field ∈ settlementV1.fields, field.maxLength = none ∨
          (field.maxLength = some 128 ∧ (field.name = py "settlement_reference" ∨
            field.name = py "partner_transaction_reference")) := by decide
      rcases column field member with free | ⟨limit, named | named⟩
      · rw [free] at bound
        cases bound
      · rw [limit] at bound
        rw [← Option.some.inj bound, named]
        exact reference
      · rw [limit] at bound
        rw [← Option.some.inj bound, named]
        exact partnerReference

/-- The three amounts of a row in the terms of the rules and as numbers. -/
theorem amounts_iff (raw : RawRecord) :
    (∃ amount fee net,
      (AmountOf (settlementV1.field "amount") (textOf raw "amount") amount ∧ 0 < amount.signed) ∧
      (AmountOf (settlementV1.field "fee_amount") (textOf raw "fee_amount") fee ∧
        0 ≤ fee.signed) ∧
      AmountOf (settlementV1.field "net_amount") (textOf raw "net_amount") net ∧
      net.signed = amount.signed - fee.signed) ↔
    ∃ amount fee net, AmountLiteral (textOf raw "amount") amount ∧
      AmountLiteral (textOf raw "fee_amount") fee ∧ AmountLiteral (textOf raw "net_amount") net ∧
      0 < amount.toRat ∧ 0 ≤ fee.toRat ∧ net.toRat = amount.toRat - fee.toRat := by
  have numbers : ∀ amount fee net : Decimal, amount.exponent = -2 → fee.exponent = -2 →
      net.exponent = -2 →
      ((0 < amount.signed ∧ 0 ≤ fee.signed ∧ net.signed = amount.signed - fee.signed) ↔
        (0 < amount.toRat ∧ 0 ≤ fee.toRat ∧ net.toRat = amount.toRat - fee.toRat)) := by
    intro amount fee net amountPlaces feePlaces netPlaces
    rw [toRat_cents amountPlaces, toRat_cents feePlaces, toRat_cents netPlaces, ← sub_div,
      div_left_inj' (by norm_num : (100 : ℚ) ≠ 0), lt_div_iff₀ (by norm_num),
      le_div_iff₀ (by norm_num), zero_mul]
    norm_cast
  constructor
  · rintro ⟨amount, fee, net, ⟨paid, positive⟩, ⟨charged, nonnegative⟩, netted, difference⟩
    obtain ⟨amountLiteral, isAmount, amountSame, amountPlaces⟩ := paid.literal rfl rfl
    obtain ⟨feeLiteral, isFee, feeSame, feePlaces⟩ := charged.literal rfl rfl
    obtain ⟨netLiteral, isNet, netSame, netPlaces⟩ := netted.literal rfl rfl
    refine ⟨amountLiteral, feeLiteral, netLiteral, isAmount, isFee, isNet, ?_⟩
    rw [← amountSame, ← feeSame, ← netSame]
    exact (numbers _ _ _ amountPlaces feePlaces netPlaces).mp ⟨positive, nonnegative, difference⟩
  · rintro ⟨amountLiteral, feeLiteral, netLiteral, isAmount, isFee, isNet, meaning⟩
    obtain ⟨amount, paid, amountSame, amountPlaces⟩ :=
      isAmount.amountOf (settlementV1.field "amount") rfl rfl
    obtain ⟨fee, charged, feeSame, feePlaces⟩ :=
      isFee.amountOf (settlementV1.field "fee_amount") rfl rfl
    obtain ⟨net, netted, netSame, netPlaces⟩ :=
      isNet.amountOf (settlementV1.field "net_amount") rfl rfl
    rw [← amountSame, ← feeSame, ← netSame] at meaning
    obtain ⟨positive, nonnegative, difference⟩ :=
      (numbers _ _ _ amountPlaces feePlaces netPlaces).mpr meaning
    exact ⟨amount, fee, net, ⟨paid, positive⟩, ⟨charged, nonnegative⟩, netted, difference⟩

/-- The partner of an accepted file name has the form of a partner. -/
theorem filename_partner {expected name : PyStr} {filename : FilenameMetadata}
    (named : parseSettlementFilename settlementV1 expected name = .ok filename) :
    isPartnerId filename.partnerId = true := by
  obtain ⟨-, -, -, -, dateText, sequenceText, matched, -⟩ := parseSettlementFilename_ok_iff.mp named
  exact (settlementName_spec matched).1

/-- A row that can be read is acceptable exactly when it follows the rules, fills the columns and
is no duplicate. -/
theorem acceptable_iff {expected name : PyStr} {filename : FilenameMetadata}
    (named : parseSettlementFilename settlementV1 expected name = .ok filename)
    {raw : RawRecord} (readable : Readable settlementV1 raw) (earlier : List RawRecord) :
    Acceptable filename earlier raw ↔ (SeenRows.after {} earlier).issues raw = [] ∧
      Follows settlementV1 filename raw ∧ Filled raw := by
  have partnerForm := filename_partner named
  rw [after_issues_eq_nil]
  constructor
  · intro acceptable
    obtain ⟨amount, fee, net, ⟨paid, positive⟩, ⟨charged, nonnegative⟩, netted, difference⟩ :=
      (amounts_iff raw).mpr acceptable.amounts
    obtain ⟨micros, offset, scanned⟩ := acceptable.time
    have timeFilled : textOf raw "transaction_timestamp" ≠ [] := by
      intro blank
      rw [blank] at scanned
      cases scanned
    have dateFilled : textOf raw "settlement_date" ≠ [] := by
      intro blank
      have date := acceptable.date
      rw [blank] at date
      cases date
    have partnerFilled : textOf raw "partner_id" ≠ [] := by
      intro blank
      rw [← acceptable.partner, blank] at partnerForm
      cases partnerForm
    have currencyFilled : textOf raw "currency" ≠ [] := by
      intro blank
      have currency := acceptable.currency
      rw [blank] at currency
      cases currency
    have statusFilled : textOf raw "settlement_status" ≠ [] := by
      intro blank
      have status := acceptable.status
      rw [blank] at status
      revert status
      decide
    have filled : Filled raw := by
      intro name member
      simp only [requiredValues, List.mem_cons, List.not_mem_nil, or_false] at member
      rcases member with rfl | rfl | rfl | rfl | rfl | rfl | rfl | rfl | rfl | rfl
      · exact partnerFilled
      · exact dateFilled
      · exact acceptable.reference.1
      · exact acceptable.partnerReference.1
      · exact timeFilled
      · exact paid.1
      · exact currencyFilled
      · exact statusFilled
      · exact charged.1
      · exact netted.1
    refine ⟨⟨acceptable.fresh, fun _ => acceptable.unique⟩, ?_, filled⟩
    exact {
      columns := (columns_iff raw).mpr ⟨acceptable.present, filled, acceptable.reference.2,
        acceptable.partnerReference.2⟩
      partner := fun _ => ⟨by rw [acceptable.partner]; exact partnerForm, acceptable.partner⟩
      date := fun _ => acceptable.date
      internal := fun given => acceptable.internal.resolve_left given
      time := fun given => by
        have inside := readable.time
        cases converted : ScannedDateTime.toUtc micros offset with
        | ok instant => exact ⟨instant, given, micros, offset, scanned, converted⟩
        | error problem =>
          refine absurd ⟨given, micros, offset, scanned, ?_⟩ inside
          unfold ScannedDateTime.toUtc at converted
          dsimp only at converted
          split at converted
          · cases converted
          · rename_i outside
            omega
      amount := fun _ => ⟨amount, paid, positive⟩
      currency := fun _ => acceptable.currency
      status := fun _ => acceptable.status
      fee := fun _ => ⟨fee, charged, nonnegative⟩
      net := fun _ => ⟨net, netted⟩
      consistent := fun amount' fee' net' paid' charged' netted' => by
        rw [paid'.unique paid, charged'.unique charged, netted'.unique netted]
        exact difference }
  · rintro ⟨⟨fresh, unique⟩, follows, filled⟩
    obtain ⟨present, -, reference, partnerReference⟩ := (columns_iff raw).mp follows.columns
    obtain ⟨amount, paid, positive⟩ := follows.amount (filled _ (by decide))
    obtain ⟨fee, charged, nonnegative⟩ := follows.fee (filled _ (by decide))
    obtain ⟨net, netted⟩ := follows.net (filled _ (by decide))
    obtain ⟨instant, -, micros, offset, scanned, -⟩ := follows.time (filled _ (by decide))
    exact {
      present := present
      partner := (follows.partner (filled _ (by decide))).2
      date := follows.date (filled _ (by decide))
      reference := ⟨filled _ (by decide), reference⟩
      partnerReference := ⟨filled _ (by decide), partnerReference⟩
      internal := by
        by_cases blank : textOf raw "internal_transaction_id" = []
        · exact Or.inl blank
        · exact Or.inr (follows.internal blank)
      time := ⟨micros, offset, scanned⟩
      amounts := (amounts_iff raw).mp ⟨amount, fee, net, ⟨paid, positive⟩, ⟨charged, nonnegative⟩,
        netted, follows.consistent _ _ _ paid charged netted⟩
      currency := follows.currency (filled _ (by decide))
      status := follows.status (filled _ (by decide))
      fresh := fresh
      unique := unique (filled _ (by decide)) }

/-! ## Files -/

/-- Every data row of `settlement-v1` is accepted or rejected. -/
theorem not_dropped {filename : FilenameMetadata} {context : RejectionContext}
    {rows : List RawRecord} {list : List RowVerdict}
    (judged : verdicts settlementV1 filename context 2 {} rows = .ok list) :
    .dropped ∉ list := by
  intro member
  obtain ⟨index, found⟩ := List.mem_iff_getElem?.mp member
  obtain ⟨raw, -, -, follows, blank⟩ := verdict_at judged found
  exact blank ((columns_iff raw).mp follows.columns).2.1

/-- The counts of a validated file add up. -/
theorem validateSettlementFile_counts {filename : FilenameMetadata} {context : RejectionContext}
    {data : Bytes} {validation : FileValidationResult}
    (judged : validateSettlementFile settlementV1 filename context data = .ok validation) :
    validation.recordCount =
      validation.acceptedRecords.length + validation.rejectedRecords.length := by
  cases parsed : dataRows settlementV1 data with
  | none =>
    obtain ⟨issue, refused⟩ := @validateSettlementFile_refused _ filename context _ parsed
    obtain rfl := Except.ok.inj (refused.symm.trans judged)
    rfl
  | some rows =>
    rw [validateSettlementFile_rows parsed] at judged
    cases returned : verdicts settlementV1 filename context 2 {} rows with
    | error problem => rw [returned] at judged; cases judged
    | ok list =>
      rw [returned] at judged
      obtain rfl := Except.ok.inj judged
      have length := (verdicts_get settlementV1 filename context returned).1
      exact length.symm.trans ((verdicts_count list).mpr (not_dropped returned)).symm

/-- The references of the accepted rows are distinct. -/
theorem accepted_references_nodup {contract : SettlementContract} {filename : FilenameMetadata}
    {context : RejectionContext} {rows : List RawRecord} {list : List RowVerdict}
    (judged : verdicts contract filename context 2 {} rows = .ok list) :
    ((list.filterMap RowVerdict.record?).map (·.settlementReference)).Nodup := by
  rw [List.Nodup, List.pairwise_map, List.pairwise_filterMap, List.pairwise_iff_getElem]
  intro first second firstInside secondInside before record own record' own' same
  have found : list[first]? = some (.accepted record) := by
    rw [List.getElem?_eq_getElem firstInside]
    cases verdict : list[first] with
    | accepted other => rw [verdict] at own; rw [Option.some.inj own]
    | rejected other => rw [verdict] at own; cases own
    | dropped => rw [verdict] at own; cases own
  have found' : list[second]? = some (.accepted record') := by
    rw [List.getElem?_eq_getElem secondInside]
    cases verdict : list[second] with
    | accepted other => rw [verdict] at own'; rw [Option.some.inj own']
    | rejected other => rw [verdict] at own'; cases own'
    | dropped => rw [verdict] at own'; cases own'
  obtain ⟨raw, row, -, -, -, recordOf⟩ := verdict_at judged found
  obtain ⟨raw', row', fresh, -, filled, recordOf'⟩ := verdict_at judged found'
  refine ((after_issues_eq_nil _ _).mp fresh).2 (filled _ (by decide)) ⟨raw, ?_, ?_⟩
  · refine List.mem_of_getElem? (i := first) ?_
    rw [List.getElem?_take_of_lt before]
    exact row
  · rw [← recordOf.reference, ← recordOf'.reference]
    exact same

/-- The amounts of a record are the numbers of the literals of its row. -/
structure SameNumbers (raw : RawRecord) (record : SettlementRecord) : Prop where
  /-- The amount. -/
  amount : ∃ literal, AmountLiteral (textOf raw "amount") literal ∧
    record.amount.toRat = literal.toRat ∧ record.amount.exponent = -2
  /-- The fee. -/
  fee : ∃ literal, AmountLiteral (textOf raw "fee_amount") literal ∧
    record.feeAmount.toRat = literal.toRat ∧ record.feeAmount.exponent = -2
  /-- The net amount. -/
  net : ∃ literal, AmountLiteral (textOf raw "net_amount") literal ∧
    record.netAmount.toRat = literal.toRat ∧ record.netAmount.exponent = -2

/-- A record of `settlement-v1` has the numbers of its row. -/
theorem RecordOf.sameNumbers {raw : RawRecord} {rowNumber : Nat} {record : SettlementRecord}
    (recordOf : RecordOf settlementV1 raw rowNumber record) : SameNumbers raw record :=
  ⟨recordOf.amount.literal rfl rfl, recordOf.fee.literal rfl rfl, recordOf.net.literal rfl rfl⟩

/-- The row behind an accepted record. -/
theorem accepted_row {contract : SettlementContract} {filename : FilenameMetadata}
    {context : RejectionContext} {rows : List RawRecord} {list : List RowVerdict}
    (judged : verdicts contract filename context 2 {} rows = .ok list) {record : SettlementRecord}
    (member : record ∈ list.filterMap RowVerdict.record?) :
    ∃ index raw, rows[index]? = some raw ∧ Follows contract filename raw ∧ Filled raw ∧
      RecordOf contract raw (2 + index) record := by
  obtain ⟨verdict, inside, own⟩ := List.mem_filterMap.mp member
  obtain ⟨index, found⟩ := List.mem_iff_getElem?.mp inside
  cases verdict with
  | rejected other => cases own
  | dropped => cases own
  | accepted other =>
    obtain rfl := Option.some.inj own
    obtain ⟨raw, row, -, follows, filled, recordOf⟩ := verdict_at judged found
    exact ⟨index, raw, row, follows, filled, recordOf⟩

/-- In a file without a file issue a row is accepted exactly when it is acceptable; the accepted
records hold the values of their rows, and their references are distinct. -/
theorem settlement_acceptance {expected name : PyStr} {filename : FilenameMetadata}
    (named : parseSettlementFilename settlementV1 expected name = .ok filename)
    {context : RejectionContext} {data : Bytes} {result : FileValidationResult}
    (judged : validateSettlementFile settlementV1 filename context data = .ok result)
    (clean : result.fileIssues = []) :
    ∃ rows, dataRows settlementV1 data = some rows ∧
      (∀ index raw, rows[index]? = some raw →
        ((∃ record ∈ result.acceptedRecords, record.sourceRowNumber = 2 + index) ↔
          Acceptable filename (rows.take index) raw)) ∧
      (∀ record ∈ result.acceptedRecords, ∃ index raw, rows[index]? = some raw ∧
        RecordOf settlementV1 raw (2 + index) record ∧ SameNumbers raw record) ∧
      (result.acceptedRecords.map (·.settlementReference)).Nodup := by
  obtain ⟨rows, list, parsed, returned, rfl⟩ := result_verdicts judged clean
  have readable := (verdicts_ok_iff settlementV1 filename context 2 {} rows).mp ⟨list, returned⟩
  refine ⟨rows, parsed, fun index raw row => ?_, fun record member => ?_,
    accepted_references_nodup returned⟩
  · rw [acceptable_iff named (readable raw (List.mem_of_getElem? row))]
    obtain ⟨verdict, found, meaning⟩ :=
      (verdicts_get settlementV1 filename context returned).2 index raw row
    have meaning := judge_means meaning
    constructor
    · rintro ⟨record, member, number⟩
      have accepted := (accepted_iff_verdict returned record index).mp ⟨member, number⟩
      obtain rfl := Option.some.inj (found.symm.trans accepted)
      exact ⟨meaning.1, meaning.2.1, meaning.2.2.1⟩
    · rintro ⟨fresh, follows, filled⟩
      cases verdict with
      | accepted record =>
        obtain ⟨member, number⟩ := (accepted_iff_verdict returned record index).mpr found
        exact ⟨record, member, number⟩
      | rejected record => exact absurd ⟨fresh, follows⟩ meaning.1
      | dropped => exact absurd filled meaning.2.2
  · obtain ⟨index, raw, row, -, -, recordOf⟩ := accepted_row returned member
    exact ⟨index, raw, row, recordOf, recordOf.sameNumbers⟩

/-- A name that `settlement-v1` accepts. -/
def sampleName : PyStr := "settlement_VCB_2026-07-22_001.csv"

/-- The header of `settlement-v1`. -/
def sampleHeader : Bytes :=
  [112, 97, 114, 116, 110, 101, 114, 95, 105, 100, 44, 115, 101, 116, 116, 108, 101, 109, 101,
    110, 116, 95, 100, 97, 116, 101, 44, 115, 101, 116, 116, 108, 101, 109, 101, 110, 116, 95,
    114, 101, 102, 101, 114, 101, 110, 99, 101, 44, 112, 97, 114, 116, 110, 101, 114, 95, 116,
    114, 97, 110, 115, 97, 99, 116, 105, 111, 110, 95, 114, 101, 102, 101, 114, 101, 110, 99, 101,
    44, 105, 110, 116, 101, 114, 110, 97, 108, 95, 116, 114, 97, 110, 115, 97, 99, 116, 105, 111,
    110, 95, 105, 100, 44, 116, 114, 97, 110, 115, 97, 99, 116, 105, 111, 110, 95, 116, 105, 109,
    101, 115, 116, 97, 109, 112, 44, 97, 109, 111, 117, 110, 116, 44, 99, 117, 114, 114, 101, 110,
    99, 121, 44, 115, 101, 116, 116, 108, 101, 109, 101, 110, 116, 95, 115, 116, 97, 116, 117,
    115, 44, 102, 101, 101, 95, 97, 109, 111, 117, 110, 116, 44, 110, 101, 116, 95, 97, 109, 111,
    117, 110, 116, 10]

/-- A valid row, `VCB,2026-07-22,S1,P1,,2026-07-22T10:00:00Z,1.00,VND,SETTLED,0,1.00`. -/
def sampleRow : Bytes :=
  [86, 67, 66, 44, 50, 48, 50, 54, 45, 48, 55, 45, 50, 50, 44, 83, 49, 44, 80, 49, 44, 44, 50, 48,
    50, 54, 45, 48, 55, 45, 50, 50, 84, 49, 48, 58, 48, 48, 58, 48, 48, 90, 44, 49, 46, 48, 48,
    44, 86, 78, 68, 44, 83, 69, 84, 84, 76, 69, 68, 44, 48, 44, 49, 46, 48, 48, 10]

/-- A row with the reference `S2` and the currency `vnd`, which is rejected. -/
def sampleRejectedRow : Bytes :=
  [86, 67, 66, 44, 50, 48, 50, 54, 45, 48, 55, 45, 50, 50, 44, 83, 50, 44, 80, 49, 44, 44, 50, 48,
    50, 54, 45, 48, 55, 45, 50, 50, 84, 49, 48, 58, 48, 48, 58, 48, 48, 90, 44, 49, 46, 48, 48,
    44, 118, 110, 100, 44, 83, 69, 84, 84, 76, 69, 68, 44, 48, 44, 49, 46, 48, 48, 10]

/-- The valid row, the same row again, and the rejected one. -/
def sampleRows : Bytes := sampleRow ++ sampleRow ++ sampleRejectedRow

/-- A validation context. -/
def sampleContext : RejectionContext := ⟨sampleName, Instant.epoch, "run-1"⟩

/-- What a file name carries. -/
def sampleFilename : FilenameMetadata := ⟨"VCB", ⟨2026, 7, 22⟩, 1, sampleName⟩

/-- The sample name is accepted. -/
theorem sampleName_parsed :
    parseSettlementFilename settlementV1 "VCB" sampleName = .ok sampleFilename := by rfl

/-- The sample file is read, its first row is accepted, and the others are rejected. -/
theorem sample_validated : ∃ result,
    validateSettlementFile settlementV1 sampleFilename sampleContext (sampleHeader ++ sampleRows) =
      .ok result ∧ result.fileIssues = [] ∧ result.acceptedRecords.length = 1 ∧
        result.rejectedRecords.map (·.errorCode) = [py "DUPLICATE_ROW", py "INVALID_CURRENCY"] := by
  have counted : (match validateSettlementFile settlementV1 sampleFilename sampleContext
      (sampleHeader ++ sampleRows) with
    | .ok result => decide (result.fileIssues = [] ∧ result.acceptedRecords.length = 1 ∧
        result.rejectedRecords.map (·.errorCode) = [py "DUPLICATE_ROW", py "INVALID_CURRENCY"])
    | .error _ => false) = true := by decide +kernel
  cases judged : validateSettlementFile settlementV1 sampleFilename sampleContext
      (sampleHeader ++ sampleRows) with
  | error problem => rw [judged] at counted; cases counted
  | ok result =>
    rw [judged] at counted
    exact ⟨result, rfl, of_decide_eq_true counted⟩

/-- The first row of a sample file is accepted, and it is acceptable; the others are not. -/
theorem sample_row_accepted : ∃ result,
    validateSettlementFile settlementV1 sampleFilename sampleContext (sampleHeader ++ sampleRows) =
      .ok result ∧ result.acceptedRecords.length = 1 ∧ result.rejectedRecords.length = 2 ∧
    ∃ rows, dataRows settlementV1 (sampleHeader ++ sampleRows) = some rows ∧
      (∀ index raw, rows[index]? = some raw →
        ((∃ record ∈ result.acceptedRecords, record.sourceRowNumber = 2 + index) ↔
          Acceptable sampleFilename (rows.take index) raw)) ∧
      (∀ record ∈ result.acceptedRecords, ∃ index raw, rows[index]? = some raw ∧
        RecordOf settlementV1 raw (2 + index) record ∧ SameNumbers raw record) ∧
      (result.acceptedRecords.map (·.settlementReference)).Nodup := by
  obtain ⟨result, judged, clean, one, others⟩ := sample_validated
  have two := congrArg List.length others
  rw [List.length_map] at two
  exact ⟨result, judged, one, two, settlement_acceptance sampleName_parsed judged clean⟩

/-! ## Amounts that Silver can store -/

/-- `decimal128(18, 2)` can hold the amount. -/
def FitsColumn (value : Decimal) : Prop := value.exponent = -2 ∧ value.digitCount ≤ 18

/-- An amount of cents fits the column when it is below ten to the sixteenth. -/
theorem fitsColumn_iff {value : Decimal} (places : value.exponent = -2) :
    FitsColumn value ↔ |value.toRat| < 10 ^ 16 := by
  have digits : value.digitCount ≤ 18 ↔ value.coefficient < 10 ^ 18 :=
    natText_length_le (show 0 < 18 by decide)
  have magnitude : (value.coefficient : ℚ) = |value.toRat| * 10 ^ 2 := by
    rw [← value.magnitude_eq_abs, Decimal.magnitude, places]
    norm_num
  have cents : value.coefficient < 10 ^ 18 ↔ (value.coefficient : ℚ) < 10 ^ 18 := by
    exact_mod_cast Iff.rfl
  rw [FitsColumn, digits, cents, magnitude]
  constructor
  · rintro ⟨-, small⟩
    linarith
  · intro small
    exact ⟨places, by linarith⟩

/-- The amounts of a record are below ten to the sixteenth and fit their columns. -/
structure MoneyFits (record : SettlementRecord) : Prop where
  /-- The amount. -/
  amount : |record.amount.toRat| < 10 ^ 16 ∧ FitsColumn record.amount
  /-- The fee. -/
  fee : |record.feeAmount.toRat| < 10 ^ 16 ∧ FitsColumn record.feeAmount
  /-- The net amount. -/
  net : |record.netAmount.toRat| < 10 ^ 16 ∧ FitsColumn record.netAmount

/-- The literal is zero, or has at most sixteen digits before the point. -/
def ShortLiteral (literal : Decimal) : Prop :=
  literal.coefficient = 0 ∨ (literal.digitCount : Int) + literal.exponent ≤ 16

instance (literal : Decimal) : Decidable (ShortLiteral literal) :=
  inferInstanceAs (Decidable (_ ∨ _))

/-- The literals below ten to the sixteenth are the short ones. -/
theorem shortLiteral_iff (literal : Decimal) :
    |literal.toRat| < 10 ^ 16 ↔ ShortLiteral literal := by
  have size : |literal.toRat| = literal.coefficient * (10 : ℚ) ^ literal.exponent := by
    have magnitude := literal.magnitude_eq_abs 0
    rw [pow_zero, mul_one] at magnitude
    rw [← magnitude, Decimal.magnitude, Nat.cast_zero, add_zero]
  have unit : (0 : ℚ) < 10 ^ literal.exponent := by positivity
  have power : ∀ digits : Nat, ((10 ^ digits : Nat) : ℚ) * 10 ^ literal.exponent =
      10 ^ ((digits : Int) + literal.exponent) := by
    intro digits
    rw [zpow_add₀ (by norm_num), zpow_natCast]
    push_cast
    rfl
  have limit : (10 : ℚ) ^ 16 = 10 ^ (16 : Int) := by norm_num
  rw [size, limit]
  constructor
  · intro small
    by_contra long
    rw [ShortLiteral, not_or, not_le] at long
    obtain ⟨nonzero, digits⟩ := long
    -- the leading digit alone reaches the limit
    have leading : 10 ^ (literal.digitCount - 1) ≤ literal.coefficient := by
      by_cases single : literal.digitCount - 1 = 0
      · rw [single, pow_zero]
        exact Nat.pos_of_ne_zero nonzero
      · rw [← Nat.not_lt, ← natText_length_le (Nat.pos_of_ne_zero single)]
        unfold Decimal.digitCount at single ⊢
        omega
    have reached : (10 : ℚ) ^ (16 : Int) ≤ literal.coefficient * 10 ^ literal.exponent := by
      calc (10 : ℚ) ^ (16 : Int)
          ≤ 10 ^ (((literal.digitCount - 1 : Nat) : Int) + literal.exponent) :=
            zpow_le_zpow_right₀ (by norm_num) (by omega)
        _ = ((10 ^ (literal.digitCount - 1) : Nat) : ℚ) * 10 ^ literal.exponent := (power _).symm
        _ ≤ literal.coefficient * 10 ^ literal.exponent := by gcongr
    exact absurd small (not_lt.mpr reached)
  · rintro (zero | digits)
    · rw [zero]
      norm_num
    · calc (literal.coefficient : ℚ) * 10 ^ literal.exponent
          < ((10 ^ literal.digitCount : Nat) : ℚ) * 10 ^ literal.exponent := by
            gcongr
            exact literal.coefficient_lt
        _ = 10 ^ ((literal.digitCount : Int) + literal.exponent) := power _
        _ ≤ 10 ^ (16 : Int) := zpow_le_zpow_right₀ (by norm_num) digits

/-- The amounts of an accepted record fit the columns of Silver exactly when its amount and its fee
are written with at most sixteen digits before the point. -/
theorem accepted_money_fits_iff {filename : FilenameMetadata} {context : RejectionContext}
    {data : Bytes} {result : FileValidationResult}
    (judged : validateSettlementFile settlementV1 filename context data = .ok result)
    (clean : result.fileIssues = []) :
    ∃ rows, dataRows settlementV1 data = some rows ∧
      ∀ record ∈ result.acceptedRecords, ∃ index raw amount fee, rows[index]? = some raw ∧
        record.sourceRowNumber = 2 + index ∧
        parseDecimal (textOf raw "amount") = some (.finite amount) ∧
        parseDecimal (textOf raw "fee_amount") = some (.finite fee) ∧
        (MoneyFits record ↔ ShortLiteral amount ∧ ShortLiteral fee) := by
  obtain ⟨rows, list, parsed, returned, rfl⟩ := result_verdicts judged clean
  refine ⟨rows, parsed, fun record member => ?_⟩
  obtain ⟨index, raw, row, follows, filled, recordOf⟩ := accepted_row returned member
  obtain ⟨⟨amount, isAmount, amountSame, amountPlaces⟩, ⟨fee, isFee, feeSame, feePlaces⟩,
    ⟨net, -, -, netPlaces⟩⟩ := recordOf.sameNumbers
  refine ⟨index, raw, amount, fee, row, recordOf.row, isAmount.parsed, isFee.parsed, ?_⟩
  rw [← shortLiteral_iff, ← shortLiteral_iff, ← amountSame, ← feeSame]
  constructor
  · intro fits
    exact ⟨fits.amount.1, fits.fee.1⟩
  · rintro ⟨amountSmall, feeSmall⟩
    -- a positive amount less a fee that is not negative is no larger than the two
    have positive : 0 < record.amount.toRat := by
      obtain ⟨other, own, positive⟩ := follows.amount (filled _ (by decide))
      rw [own.unique recordOf.amount] at positive
      rw [toRat_cents amountPlaces]
      have positive' : (0 : ℚ) < record.amount.signed := by exact_mod_cast positive
      linarith
    have nonnegative : 0 ≤ record.feeAmount.toRat := by
      obtain ⟨other, own, nonnegative⟩ := follows.fee (filled _ (by decide))
      rw [own.unique recordOf.fee] at nonnegative
      rw [toRat_cents feePlaces]
      have nonnegative' : (0 : ℚ) ≤ record.feeAmount.signed := by exact_mod_cast nonnegative
      linarith
    have difference : record.netAmount.toRat = record.amount.toRat - record.feeAmount.toRat := by
      have equal := follows.consistent _ _ _ recordOf.amount recordOf.fee recordOf.net
      rw [toRat_cents amountPlaces, toRat_cents feePlaces, toRat_cents netPlaces, equal]
      push_cast
      ring
    have netSmall : |record.netAmount.toRat| < 10 ^ 16 := by
      rw [abs_of_pos positive] at amountSmall
      rw [abs_of_nonneg nonnegative] at feeSmall
      rw [difference, abs_lt]
      constructor <;> linarith
    exact ⟨⟨amountSmall, (fitsColumn_iff amountPlaces).mpr amountSmall⟩,
      ⟨feeSmall, (fitsColumn_iff feePlaces).mpr feeSmall⟩,
      ⟨netSmall, (fitsColumn_iff netPlaces).mpr netSmall⟩⟩

/-- The sample row is accepted, and its amounts fit because it is written with one digit before the
point. -/
theorem sample_money_fits : ∃ result,
    validateSettlementFile settlementV1 sampleFilename sampleContext (sampleHeader ++ sampleRows) =
      .ok result ∧ result.acceptedRecords.length = 1 ∧
    ∃ rows, dataRows settlementV1 (sampleHeader ++ sampleRows) = some rows ∧
      ∀ record ∈ result.acceptedRecords, ∃ index raw amount fee, rows[index]? = some raw ∧
        record.sourceRowNumber = 2 + index ∧
        parseDecimal (textOf raw "amount") = some (.finite amount) ∧
        parseDecimal (textOf raw "fee_amount") = some (.finite fee) ∧
        (MoneyFits record ↔ ShortLiteral amount ∧ ShortLiteral fee) := by
  obtain ⟨result, judged, clean, one, -⟩ := sample_validated
  exact ⟨result, judged, one, accepted_money_fits_iff judged clean⟩

/-- A row with an amount of eighteen digits and no decimal place,
`VCB,2026-07-22,S1,P1,,2026-07-22T10:00:00Z,999999999999999999,VND,SETTLED,0,999999999999999999`. -/
def largeRow : Bytes :=
  utf8 "VCB,2026-07-22,S1,P1,,2026-07-22T10:00:00Z,999999999999999999,VND,SETTLED,0," ++
    utf8 "999999999999999999\n"

/-- The row is accepted with an amount of twenty digits of cents. -/
theorem large_amount_accepted : ∃ result,
    validateSettlementFile settlementV1 sampleFilename sampleContext (sampleHeader ++ largeRow) =
      .ok result ∧ result.fileIssues = [] ∧
    ∃ record ∈ result.acceptedRecords, ¬ MoneyFits record := by
  have read : (match validateSettlementFile settlementV1 sampleFilename sampleContext
      (sampleHeader ++ largeRow) with
    | .ok result => decide (result.fileIssues = [] ∧
        result.acceptedRecords.map (·.amount) = [⟨false, 99999999999999999900, -2⟩])
    | .error _ => false) = true := by decide +kernel
  cases judged : validateSettlementFile settlementV1 sampleFilename sampleContext
      (sampleHeader ++ largeRow) with
  | error problem => rw [judged] at read; cases read
  | ok result =>
    rw [judged] at read
    obtain ⟨clean, amounts⟩ := of_decide_eq_true read
    obtain ⟨record, rest, accepted, amount, -⟩ := List.map_eq_cons_iff.mp amounts
    have listed : record ∈ result.acceptedRecords := by
      rw [accepted]
      exact List.mem_cons_self ..
    refine ⟨result, rfl, clean, record, listed, fun fits => ?_⟩
    have digits := fits.amount.2.2
    rw [amount] at digits
    revert digits
    decide +kernel

end Settlement
