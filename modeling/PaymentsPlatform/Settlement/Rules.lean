import PaymentsPlatform.Settlement.Validation

/-!
# The rules of a settlement row

`_validate_row` in two steps: the cells are read, which can raise, and the readings are judged. A
row is without an issue exactly when it follows the rules of its contract in the cells it fills,
and then it gives a record exactly when it fills the ten columns a record needs.
-/

namespace Settlement

open Python

/-- `required_values`: the columns a record needs. -/
def requiredValues : List PyStr :=
  ["partner_id", "settlement_date", "settlement_reference", "partner_transaction_reference",
    "transaction_timestamp", "amount", "currency", "settlement_status", "fee_amount", "net_amount"]

/-- The row fills the columns a record needs. -/
def Filled (raw : RawRecord) : Prop := ∀ name ∈ requiredValues, textOf raw name ≠ []

instance (raw : RawRecord) : Decidable (Filled raw) :=
  inferInstanceAs (Decidable (∀ name ∈ requiredValues, textOf raw name ≠ []))

/-! ## Reading the cells -/

/-- What the cells of a row are read as, with the issues of reading. -/
structure Readings where
  /-- The settlement date. -/
  date : Option Date × List ValidationIssue
  /-- The transaction of the platform. -/
  internal : Option Nat × List ValidationIssue
  /-- When the transaction took place. -/
  time : Option Instant × List ValidationIssue
  /-- The amount. -/
  amount : Option Decimal × List ValidationIssue
  /-- The fee. -/
  fee : Option Decimal × List ValidationIssue
  /-- The net amount. -/
  net : Option Decimal × List ValidationIssue
  /-- The comparison of the three amounts. -/
  consistency : List ValidationIssue

/-- Read the cells of a row. -/
def readRow (contract : SettlementContract) (raw : RawRecord) : Except PyError Readings := do
  let time ← parseTimestampText (textOf raw "transaction_timestamp")
  let amount ← parseAmount (textOf raw "amount") (contract.field "amount")
  let fee ← parseAmount (textOf raw "fee_amount") (contract.field "fee_amount")
  let net ← parseAmount (textOf raw "net_amount") (contract.field "net_amount")
  let consistency ← netIssues amount.1 fee.1 net.1
  return ⟨parseDate (textOf raw "settlement_date"),
    parseOptionalUuid (textOf raw "internal_transaction_id"), time, amount, fee, net, consistency⟩

/-- What the readings of a row are. -/
structure ReadingsOf (contract : SettlementContract) (raw : RawRecord) (readings : Readings) :
    Prop where
  /-- The settlement date. -/
  date : readings.date = parseDate (textOf raw "settlement_date")
  /-- The transaction of the platform. -/
  internal : readings.internal = parseOptionalUuid (textOf raw "internal_transaction_id")
  /-- When the transaction took place. -/
  time : parseTimestampText (textOf raw "transaction_timestamp") = .ok readings.time
  /-- The amount. -/
  amount : parseAmount (textOf raw "amount") (contract.field "amount") = .ok readings.amount
  /-- The fee. -/
  fee : parseAmount (textOf raw "fee_amount") (contract.field "fee_amount") = .ok readings.fee
  /-- The net amount. -/
  net : parseAmount (textOf raw "net_amount") (contract.field "net_amount") = .ok readings.net
  /-- The comparison. -/
  consistency : netIssues readings.amount.1 readings.fee.1 readings.net.1 =
    .ok readings.consistency

/-- The readings that `readRow` returns. -/
theorem readRow_readings {contract : SettlementContract} {raw : RawRecord} {readings : Readings}
    (read : readRow contract raw = .ok readings) : ReadingsOf contract raw readings := by
  unfold readRow at read
  cases timed : parseTimestampText (textOf raw "transaction_timestamp") with
  | error problem => rw [timed] at read; cases read
  | ok time =>
  cases paid : parseAmount (textOf raw "amount") (contract.field "amount") with
  | error problem => rw [timed, paid] at read; cases read
  | ok amount =>
  cases charged : parseAmount (textOf raw "fee_amount") (contract.field "fee_amount") with
  | error problem => rw [timed, paid, charged] at read; cases read
  | ok fee =>
  cases netted : parseAmount (textOf raw "net_amount") (contract.field "net_amount") with
  | error problem => rw [timed, paid, charged, netted] at read; cases read
  | ok net =>
  simp only [timed, paid, charged, netted, bind, Except.bind] at read
  cases compared : netIssues amount.1 fee.1 net.1 with
  | error problem => rw [compared] at read; cases read
  | ok consistency =>
  rw [compared] at read
  obtain rfl := Except.ok.inj read
  exact ⟨rfl, rfl, timed, paid, charged, netted, compared⟩

/-- The issues of a row, in the order of the source. -/
def rowIssues (contract : SettlementContract) (filename : FilenameMetadata) (raw : RawRecord)
    (readings : Readings) : List ValidationIssue :=
  let partnerId := textOf raw "partner_id"
  let currency := textOf raw "currency"
  let status := textOf raw "settlement_status"
  let allowed := (contract.field "settlement_status").allowedValues
  contract.fields.flatMap (fieldIssues raw) ++
  issueIf (partnerId ≠ [] ∧ ¬ matchesPattern (contract.field "partner_id") partnerId)
    "INVALID_PARTNER_ID" "partner_id format is invalid" ++
  issueIf (partnerId ≠ [] ∧ partnerId ≠ filename.partnerId)
    "PARTNER_MISMATCH" "partner_id does not match the file name" ++
  readings.date.2 ++
  issueIf (readings.date.1.any fun date => date ≠ filename.settlementDate)
    "SETTLEMENT_DATE_MISMATCH" "settlement_date does not match file name" ++
  readings.internal.2 ++ readings.time.2 ++ readings.amount.2 ++
  issueIf (readings.amount.1.any fun value => value.signed ≤ 0)
    "AMOUNT_NOT_POSITIVE" "amount must be greater than zero" ++
  issueIf (currency ≠ [] ∧ ¬ matchesPattern (contract.field "currency") currency)
    "INVALID_CURRENCY" "currency must be three uppercase letters" ++
  issueIf (status ≠ [] ∧ status ∉ allowed) "INVALID_SETTLEMENT_STATUS"
    (py "settlement_status must be one of " ++ List.intercalate ", " allowed) ++
  readings.fee.2 ++
  issueIf (readings.fee.1.any fun value => value.signed < 0)
    "NEGATIVE_FEE_AMOUNT" "fee_amount must be zero or greater" ++
  readings.net.2 ++ readings.consistency

/-- The record of a row, whatever its issues are. -/
def rowRecord (raw : RawRecord) (rowNumber : Nat) (readings : Readings) :
    Option SettlementRecord := do
  let date ← readings.date.1
  let instant ← readings.time.1
  let amount ← readings.amount.1
  let fee ← readings.fee.1
  let net ← readings.net.1
  return ⟨textOf raw "partner_id", date, textOf raw "settlement_reference",
    textOf raw "partner_transaction_reference", readings.internal.1, instant, amount,
    textOf raw "currency", textOf raw "settlement_status", fee, net, rowNumber⟩

/-- The texts a record copies are not blank. -/
def textsFilled (raw : RawRecord) : Prop :=
  textOf raw "partner_id" ≠ [] ∧ textOf raw "settlement_reference" ≠ [] ∧
    textOf raw "partner_transaction_reference" ≠ [] ∧ textOf raw "currency" ≠ [] ∧
    textOf raw "settlement_status" ≠ []

instance (raw : RawRecord) : Decidable (textsFilled raw) :=
  inferInstanceAs (Decidable (_ ∧ _))

/-- `_validate_row` reads the cells and judges the readings. -/
theorem validateRow_eq (contract : SettlementContract) (filename : FilenameMetadata)
    (raw : RawRecord) (rowNumber : Nat) :
    validateRow contract filename raw rowNumber = (readRow contract raw).map fun readings =>
      (if rowIssues contract filename raw readings = [] ∧ textsFilled raw then
        rowRecord raw rowNumber readings else none, rowIssues contract filename raw readings) := by
  unfold validateRow readRow
  dsimp only
  cases parseTimestampText (textOf raw "transaction_timestamp") with
  | error problem => rfl
  | ok time =>
  cases parseAmount (textOf raw "amount") (contract.field "amount") with
  | error problem => rfl
  | ok amount =>
  cases parseAmount (textOf raw "fee_amount") (contract.field "fee_amount") with
  | error problem => rfl
  | ok fee =>
  cases parseAmount (textOf raw "net_amount") (contract.field "net_amount") with
  | error problem => rfl
  | ok net =>
  simp only [bind, Except.bind]
  cases netIssues amount.1 fee.1 net.1 with
  | error problem => rfl
  | ok consistency =>
  obtain ⟨instant, timeIssues⟩ := time
  obtain ⟨amount, amountIssues⟩ := amount
  obtain ⟨fee, feeIssues⟩ := fee
  obtain ⟨net, netAmountIssues⟩ := net
  cases dated : parseDate (textOf raw "settlement_date") with
  | mk date dateIssues =>
  let readings : Readings := ⟨(date, dateIssues),
    parseOptionalUuid (textOf raw "internal_transaction_id"), (instant, timeIssues),
    (amount, amountIssues), (fee, feeIssues), (net, netAmountIssues), consistency⟩
  change _ = Except.ok (if rowIssues contract filename raw readings = [] ∧ textsFilled raw then
    rowRecord raw rowNumber readings else none, rowIssues contract filename raw readings)
  have absent : rowRecord raw rowNumber readings = none →
      (if rowIssues contract filename raw readings = [] ∧ textsFilled raw then
        rowRecord raw rowNumber readings else none) = none := fun no => by rw [no, ite_self]
  cases date with
  | none => rw [absent rfl]; rfl
  | some date =>
  cases instant with
  | none => rw [absent rfl]; rfl
  | some instant =>
  cases amount with
  | none => rw [absent rfl]; rfl
  | some amount =>
  cases fee with
  | none => rw [absent rfl]; rfl
  | some fee =>
  cases net with
  | none => rw [absent rfl]; rfl
  | some net =>
  by_cases good : rowIssues contract filename raw readings = [] ∧ textsFilled raw
  · rw [if_pos good]
    refine if_neg ?_
    rintro (issue | blank | blank | blank | blank | blank)
    · exact issue good.1
    · exact good.2.1 blank
    · exact good.2.2.1 blank
    · exact good.2.2.2.1 blank
    · exact good.2.2.2.2.1 blank
    · exact good.2.2.2.2.2 blank
  · rw [if_neg good]
    refine if_pos ?_
    by_contra fine
    simp only [not_or, not_not] at fine
    exact good fine

/-! ## When reading raises -/

/-- A decimal literal that a field admits. -/
structure Admits (field : FieldContract) (text : PyStr) (literal : Decimal) : Prop where
  /-- The text is the literal, and the literal is finite. -/
  parsed : parseDecimal text = some (.finite literal)
  /-- It has no more decimal places than the field. -/
  scale : ∀ most, field.scale = some most → (-literal.exponent).toNat ≤ most
  /-- It has no more digits than the field. -/
  precision : ∀ most, field.precision = some most →
    literal.digitCount + literal.exponent.toNat ≤ most

/-- The amount of a cell: its literal in cents. -/
def AmountOf (field : FieldContract) (text : PyStr) (amount : Decimal) : Prop :=
  text ≠ [] ∧ ∃ literal, Admits field text literal ∧ literal.quantize 2 = some amount

/-- A cell has one amount. -/
theorem AmountOf.unique {field : FieldContract} {text : PyStr} {amount other : Decimal}
    (left : AmountOf field text amount) (right : AmountOf field text other) : amount = other := by
  obtain ⟨-, literal, admits, cents⟩ := left
  obtain ⟨-, literal', admits', cents'⟩ := right
  obtain rfl := DecimalValue.finite.inj (Option.some.inj (admits.parsed.symm.trans admits'.parsed))
  exact Option.some.inj (cents.symm.trans cents')

/-- A size exceeds a bound that is given. -/
theorem exceeds_iff {bound : Option Nat} {size : Nat} :
    bound.any (fun most => decide (most < size)) = true ↔
      ¬ ∀ most, bound = some most → size ≤ most := by
  cases bound with
  | none => simp
  | some most => simp

/-- What `_parse_decimal` does with a text. -/
theorem parseAmount_cases (text : PyStr) (field : FieldContract) :
    (text = [] ∧ parseAmount text field = .ok (none, [])) ∨
    (∃ amount, AmountOf field text amount ∧ parseAmount text field = .ok (some amount, [])) ∨
    (∃ literal, text ≠ [] ∧ Admits field text literal ∧ literal.quantize 2 = none ∧
      parseAmount text field = .error invalidOperation) ∨
    (text ≠ [] ∧ (¬ ∃ literal, Admits field text literal) ∧
      ∃ issue, parseAmount text field = .ok (none, [issue])) := by
  unfold parseAmount
  by_cases blank : text = []
  · exact Or.inl ⟨blank, if_pos blank⟩
  rw [if_neg blank]
  cases parsed : parseDecimal text with
  | none =>
    refine Or.inr (Or.inr (Or.inr ⟨blank, ?_, _, rfl⟩))
    rintro ⟨literal, admits⟩
    rw [admits.parsed] at parsed
    cases parsed
  | some value =>
  cases value with
  | infinity negative =>
    refine Or.inr (Or.inr (Or.inr ⟨blank, ?_, _, rfl⟩))
    rintro ⟨literal, admits⟩
    rw [admits.parsed] at parsed
    cases parsed
  | nan =>
    refine Or.inr (Or.inr (Or.inr ⟨blank, ?_, _, rfl⟩))
    rintro ⟨literal, admits⟩
    rw [admits.parsed] at parsed
    cases parsed
  | finite literal =>
  dsimp only
  have own : ∀ other, Admits field text other → other = literal := by
    intro other admits
    rw [admits.parsed] at parsed
    exact DecimalValue.finite.inj (Option.some.inj parsed)
  by_cases deep : field.scale.any (fun most => decide (most < (-literal.exponent).toNat)) = true
  · refine Or.inr (Or.inr (Or.inr ⟨blank, ?_, _, if_pos deep⟩))
    rintro ⟨other, admits⟩
    obtain rfl := own other admits
    exact exceeds_iff.mp deep admits.scale
  rw [if_neg deep]
  by_cases long : field.precision.any
      (fun most => decide (most < literal.digitCount + literal.exponent.toNat)) = true
  · refine Or.inr (Or.inr (Or.inr ⟨blank, ?_, _, if_pos long⟩))
    rintro ⟨other, admits⟩
    obtain rfl := own other admits
    exact exceeds_iff.mp long admits.precision
  rw [if_neg long]
  have admits : Admits field text literal :=
    ⟨parsed, not_not.mp (mt exceeds_iff.mpr deep), not_not.mp (mt exceeds_iff.mpr long)⟩
  cases rounded : literal.quantize 2 with
  | none => exact Or.inr (Or.inr (Or.inl ⟨literal, blank, admits, rounded, rfl⟩))
  | some amount => exact Or.inr (Or.inl ⟨amount, ⟨blank, literal, admits, rounded⟩, rfl⟩)

/-- The instant of a timestamp cell with an offset. -/
def InstantOf (text : PyStr) (instant : Instant) : Prop :=
  text ≠ [] ∧ ∃ micros offset,
    datetimeFromIsoformat (replaceChar 90 "+00:00" text) = some ⟨micros, some offset⟩ ∧
      ScannedDateTime.toUtc micros offset = .ok instant

/-- The text is a timestamp with an offset whose UTC time the calendar does not have. -/
def OutOfCalendar (text : PyStr) : Prop :=
  text ≠ [] ∧ ∃ micros offset,
    datetimeFromIsoformat (replaceChar 90 "+00:00" text) = some ⟨micros, some offset⟩ ∧
      ¬ (0 ≤ (micros : Int) - offset ∧ (micros : Int) - offset < calendarDays * dayMicros)

/-- What `_parse_timestamp` does with a text. -/
theorem parseTimestampText_cases (text : PyStr) :
    (text = [] ∧ parseTimestampText text = .ok (none, [])) ∨
    (∃ instant, InstantOf text instant ∧ parseTimestampText text = .ok (some instant, [])) ∨
    (OutOfCalendar text ∧ ∃ problem, parseTimestampText text = .error problem) ∨
    (text ≠ [] ∧ (¬ ∃ micros offset, datetimeFromIsoformat (replaceChar 90 "+00:00" text) =
        some ⟨micros, some offset⟩) ∧
      ∃ issue, parseTimestampText text = .ok (none, [issue])) := by
  unfold parseTimestampText
  by_cases blank : text = []
  · exact Or.inl ⟨blank, if_pos blank⟩
  rw [if_neg blank]
  cases scanned : datetimeFromIsoformat (replaceChar 90 "+00:00" text) with
  | none =>
    refine Or.inr (Or.inr (Or.inr ⟨blank, ?_, _, rfl⟩))
    rintro ⟨micros, offset, found⟩
    cases found
  | some datetime =>
  obtain ⟨micros, _ | offset⟩ := datetime
  · refine Or.inr (Or.inr (Or.inr ⟨blank, ?_, _, rfl⟩))
    rintro ⟨micros, offset, found⟩
    cases found
  · cases converted : ScannedDateTime.toUtc micros offset with
    | ok instant =>
      refine Or.inr (Or.inl ⟨instant, ⟨blank, micros, offset, scanned, converted⟩, ?_⟩)
      dsimp only
      rw [converted]
      rfl
    | error problem =>
      refine Or.inr (Or.inr (Or.inl ⟨⟨blank, micros, offset, scanned, ?_⟩, problem, ?_⟩))
      · unfold ScannedDateTime.toUtc at converted
        dsimp only at converted
        split at converted
        · cases converted
        · rename_i outside
          omega
      · dsimp only
        rw [converted]
        rfl

/-- Every cell of the row can be read: its time lies in the calendar, and its amounts and their
difference have no more cents than the decimal context holds. -/
structure Readable (contract : SettlementContract) (raw : RawRecord) : Prop where
  /-- The time is in the calendar. -/
  time : ¬ OutOfCalendar (textOf raw "transaction_timestamp")
  /-- The amounts fit the context. -/
  amounts : ∀ name ∈ [py "amount", py "fee_amount", py "net_amount"], textOf raw name ≠ [] →
    ∀ literal, Admits (contract.field name) (textOf raw name) literal →
      literal.quantize 2 ≠ none
  /-- The difference fits the context. -/
  difference : ∀ amount fee net,
    AmountOf (contract.field "amount") (textOf raw "amount") amount →
    AmountOf (contract.field "fee_amount") (textOf raw "fee_amount") fee →
    AmountOf (contract.field "net_amount") (textOf raw "net_amount") net →
    amount.subtractCents fee ≠ none

/-- The reading of an amount: there is an issue when a filled cell has no amount. -/
theorem parseAmount_reading {text : PyStr} {field : FieldContract}
    {reading : Option Decimal × List ValidationIssue}
    (read : parseAmount text field = .ok reading) :
    (∀ amount, reading.1 = some amount ↔ AmountOf field text amount) ∧
      (reading.2 = [] ↔ (text ≠ [] → ∃ amount, AmountOf field text amount)) := by
  rcases parseAmount_cases text field with ⟨blank, returned⟩ | ⟨amount, found, returned⟩ |
    ⟨literal, -, -, -, raised⟩ | ⟨filled, refused, issue, returned⟩
  · obtain rfl := Except.ok.inj (returned.symm.trans read)
    exact ⟨fun amount => ⟨fun no => (by cases no), fun found => absurd blank found.1⟩,
      fun _ filled => absurd blank filled, fun _ => rfl⟩
  · obtain rfl := Except.ok.inj (returned.symm.trans read)
    refine ⟨fun other => ⟨fun same => ?_, fun own => ?_⟩, fun _ _ => ⟨amount, found⟩, fun _ => rfl⟩
    · obtain rfl := Option.some.inj same
      exact found
    · rw [found.unique own]
  · rw [raised] at read
    cases read
  · obtain rfl := Except.ok.inj (returned.symm.trans read)
    have none_of : ∀ amount, ¬ AmountOf field text amount := by
      rintro amount ⟨-, literal, admits, -⟩
      exact refused ⟨literal, admits⟩
    refine ⟨fun amount => ⟨fun no => (by cases no), fun found => absurd found (none_of amount)⟩,
      fun no => (by cases no), fun all => ?_⟩
    obtain ⟨amount, found⟩ := all filled
    exact absurd found (none_of amount)

/-- The reading of a time: there is an issue when a filled cell has no instant. -/
theorem parseTimestampText_reading {text : PyStr}
    {reading : Option Instant × List ValidationIssue}
    (read : parseTimestampText text = .ok reading) :
    (∀ instant, reading.1 = some instant ↔ InstantOf text instant) ∧
      (reading.2 = [] ↔ (text ≠ [] → ∃ instant, InstantOf text instant)) := by
  rcases parseTimestampText_cases text with ⟨blank, returned⟩ | ⟨instant, found, returned⟩ |
    ⟨-, problem, raised⟩ | ⟨filled, refused, issue, returned⟩
  · obtain rfl := Except.ok.inj (returned.symm.trans read)
    exact ⟨fun instant => ⟨fun no => (by cases no), fun found => absurd blank found.1⟩,
      fun _ filled => absurd blank filled, fun _ => rfl⟩
  · obtain rfl := Except.ok.inj (returned.symm.trans read)
    refine ⟨fun other => ⟨fun same => ?_, fun own => ?_⟩, fun _ _ => ⟨instant, found⟩,
      fun _ => rfl⟩
    · obtain rfl := Option.some.inj same
      exact found
    · obtain ⟨-, micros, offset, scanned, converted⟩ := found
      obtain ⟨-, micros', offset', scanned', converted'⟩ := own
      cases scanned.symm.trans scanned'
      exact congrArg some (Except.ok.inj (converted.symm.trans converted'))
  · rw [raised] at read
    cases read
  · obtain rfl := Except.ok.inj (returned.symm.trans read)
    have none_of : ∀ instant, ¬ InstantOf text instant := by
      rintro instant ⟨-, micros, offset, scanned, -⟩
      exact refused ⟨micros, offset, scanned⟩
    refine ⟨fun instant => ⟨fun no => (by cases no), fun found => absurd found (none_of instant)⟩,
      fun no => (by cases no), fun all => ?_⟩
    obtain ⟨instant, found⟩ := all filled
    exact absurd found (none_of instant)

/-- Reading a row succeeds exactly when every cell can be read. -/
theorem readRow_ok_iff (contract : SettlementContract) (raw : RawRecord) :
    (∃ readings, readRow contract raw = .ok readings) ↔ Readable contract raw := by
  constructor
  · rintro ⟨readings, returned⟩
    have read := readRow_readings returned
    have fits : ∀ name reading, parseAmount (textOf raw name) (contract.field name) = .ok reading →
        textOf raw name ≠ [] → ∀ literal, Admits (contract.field name) (textOf raw name) literal →
          literal.quantize 2 ≠ none := by
      intro name reading returned filled literal admits failed
      rcases parseAmount_cases (textOf raw name) (contract.field name) with ⟨blank, -⟩ |
        ⟨amount, ⟨-, other, admits', cents⟩, -⟩ | ⟨-, -, -, -, raised⟩ | ⟨-, refused, -⟩
      · exact filled blank
      · obtain rfl := DecimalValue.finite.inj
          (Option.some.inj (admits.parsed.symm.trans admits'.parsed))
        rw [failed] at cents
        cases cents
      · rw [returned] at raised
        cases raised
      · exact refused ⟨literal, admits⟩
    refine ⟨?_, ?_, ?_⟩
    · rintro ⟨filled, micros, offset, scanned, outside⟩
      rcases parseTimestampText_cases (textOf raw "transaction_timestamp") with ⟨blank, -⟩ |
        ⟨instant, ⟨-, micros', offset', scanned', converted⟩, -⟩ | ⟨-, problem, raised⟩ |
        ⟨-, refused, -⟩
      · exact filled blank
      · cases scanned.symm.trans scanned'
        unfold ScannedDateTime.toUtc at converted
        dsimp only at converted
        split at converted
        · rename_i inside
          omega
        · cases converted
      · rw [read.time] at raised
        cases raised
      · exact refused ⟨micros, offset, scanned⟩
    · intro name member
      simp only [List.mem_cons, List.not_mem_nil, or_false] at member
      rcases member with rfl | rfl | rfl
      · exact fits _ _ read.amount
      · exact fits _ _ read.fee
      · exact fits _ _ read.net
    · intro amount fee net isAmount isFee isNet failed
      have compared := read.consistency
      rw [((parseAmount_reading read.amount).1 _).mpr isAmount,
        ((parseAmount_reading read.fee).1 _).mpr isFee,
        ((parseAmount_reading read.net).1 _).mpr isNet] at compared
      simp only [netIssues, failed] at compared
      cases compared
  · intro readable
    have amounts : ∀ name ∈ [py "amount", py "fee_amount", py "net_amount"],
        ∃ reading, parseAmount (textOf raw name) (contract.field name) = .ok reading := by
      intro name member
      rcases parseAmount_cases (textOf raw name) (contract.field name) with ⟨-, returned⟩ |
        ⟨amount, -, returned⟩ | ⟨literal, filled, admits, failed, -⟩ | ⟨-, -, issue, returned⟩
      · exact ⟨_, returned⟩
      · exact ⟨_, returned⟩
      · exact absurd failed (readable.amounts name member filled literal admits)
      · exact ⟨_, returned⟩
    obtain ⟨time, timed⟩ : ∃ time,
        parseTimestampText (textOf raw "transaction_timestamp") = .ok time := by
      rcases parseTimestampText_cases (textOf raw "transaction_timestamp") with ⟨-, returned⟩ |
        ⟨instant, -, returned⟩ | ⟨outside, -⟩ | ⟨-, -, issue, returned⟩
      · exact ⟨_, returned⟩
      · exact ⟨_, returned⟩
      · exact absurd outside readable.time
      · exact ⟨_, returned⟩
    obtain ⟨amount, paid⟩ := amounts "amount" (by simp)
    obtain ⟨fee, charged⟩ := amounts "fee_amount" (by simp)
    obtain ⟨net, netted⟩ := amounts "net_amount" (by simp)
    obtain ⟨consistency, compared⟩ : ∃ consistency,
        netIssues amount.1 fee.1 net.1 = .ok consistency := by
      unfold netIssues
      split
      · rename_i isAmount isFee isNet
        rename_i paidAmount feeAmount netAmount
        have fits := readable.difference _ _ _ (((parseAmount_reading paid).1 _).mp isAmount)
          (((parseAmount_reading charged).1 _).mp isFee)
          (((parseAmount_reading netted).1 _).mp isNet)
        obtain ⟨expected, subtracted⟩ := Option.ne_none_iff_exists'.mp fits
        rw [subtracted]
        exact ⟨_, rfl⟩
      · exact ⟨_, rfl⟩
    unfold readRow
    simp only [timed, paid, charged, netted, bind, Except.bind, compared]
    exact ⟨_, rfl⟩

/-! ## Rows without an issue -/

/-- The rule of one column: a cell that must be there is there, a cell that must be filled is
filled, and none is longer than permitted. -/
def ColumnRule (raw : RawRecord) (field : FieldContract) : Prop :=
  match raw.get field.name with
  | none => field.required = false
  | some value => (strip isWhitespace value = [] → field.nullable = true) ∧
      ∀ most, field.maxLength = some most → (strip isWhitespace value).length ≤ most

/-- The row follows the rules of its contract in the cells it fills. -/
structure Follows (contract : SettlementContract) (filename : FilenameMetadata)
    (raw : RawRecord) : Prop where
  /-- Every column has its rule. -/
  columns : ∀ field ∈ contract.fields, ColumnRule raw field
  /-- The partner has the form of a partner and is that of the file name. -/
  partner : textOf raw "partner_id" ≠ [] →
    matchesPattern (contract.field "partner_id") (textOf raw "partner_id") = true ∧
      textOf raw "partner_id" = filename.partnerId
  /-- The settlement date is that of the file name. -/
  date : textOf raw "settlement_date" ≠ [] →
    dateFromIsoformat (textOf raw "settlement_date") = some filename.settlementDate
  /-- The transaction of the platform is a UUID. -/
  internal : textOf raw "internal_transaction_id" ≠ [] →
    ∃ uuid, parseUuid (textOf raw "internal_transaction_id") = some uuid
  /-- The time is a time with an offset. -/
  time : textOf raw "transaction_timestamp" ≠ [] →
    ∃ instant, InstantOf (textOf raw "transaction_timestamp") instant
  /-- The amount is positive. -/
  amount : textOf raw "amount" ≠ [] →
    ∃ amount, AmountOf (contract.field "amount") (textOf raw "amount") amount ∧ 0 < amount.signed
  /-- The currency has the form of a currency. -/
  currency : textOf raw "currency" ≠ [] →
    matchesPattern (contract.field "currency") (textOf raw "currency") = true
  /-- The status is permitted. -/
  status : textOf raw "settlement_status" ≠ [] →
    textOf raw "settlement_status" ∈ (contract.field "settlement_status").allowedValues
  /-- The fee is not negative. -/
  fee : textOf raw "fee_amount" ≠ [] →
    ∃ fee, AmountOf (contract.field "fee_amount") (textOf raw "fee_amount") fee ∧ 0 ≤ fee.signed
  /-- The net amount is an amount. -/
  net : textOf raw "net_amount" ≠ [] →
    ∃ net, AmountOf (contract.field "net_amount") (textOf raw "net_amount") net
  /-- The net amount is the amount less the fee. -/
  consistent : ∀ amount fee net,
    AmountOf (contract.field "amount") (textOf raw "amount") amount →
    AmountOf (contract.field "fee_amount") (textOf raw "fee_amount") fee →
    AmountOf (contract.field "net_amount") (textOf raw "net_amount") net →
    net.signed = amount.signed - fee.signed

@[simp] theorem issueIf_eq_nil {condition : Prop} [Decidable condition] {code message : PyStr} :
    issueIf condition code message = [] ↔ ¬ condition := by
  unfold issueIf
  split
  · simp_all
  · simp_all

/-- A column without an issue follows its rule. -/
theorem fieldIssues_eq_nil {raw : RawRecord} {field : FieldContract} :
    fieldIssues raw field = [] ↔ ColumnRule raw field := by
  unfold fieldIssues ColumnRule
  cases raw.get field.name with
  | none => simp
  | some value =>
    cases field.maxLength with
    | none => simp
    | some most =>
      by_cases blank : strip isWhitespace value = []
      · simp [blank]
      · simp [blank]

/-- The reading of a date: there is an issue when a filled cell has no date. -/
theorem parseDate_reading (text : PyStr) :
    (∀ date, (parseDate text).1 = some date ↔ text ≠ [] ∧ dateFromIsoformat text = some date) ∧
      ((parseDate text).2 = [] ↔ (text ≠ [] → ∃ date, dateFromIsoformat text = some date)) := by
  unfold parseDate
  by_cases blank : text = []
  · simp [blank]
  · rw [if_neg blank]
    cases dateFromIsoformat text with
    | none => simp [blank]
    | some date => simp [blank]

/-- The reading of a UUID: there is an issue when a filled cell has none. -/
theorem parseOptionalUuid_reading (text : PyStr) :
    (∀ uuid, (parseOptionalUuid text).1 = some uuid ↔ text ≠ [] ∧ parseUuid text = some uuid) ∧
      ((parseOptionalUuid text).2 = [] ↔ (text ≠ [] → ∃ uuid, parseUuid text = some uuid)) := by
  unfold parseOptionalUuid
  by_cases blank : text = []
  · simp [blank]
  · rw [if_neg blank]
    cases parseUuid text with
    | none => simp [blank]
    | some uuid => simp [blank]

/-- The difference of two amounts of cents, when it fits. -/
theorem subtractCents_signed {amount fee expected : Decimal}
    (subtracted : amount.subtractCents fee = some expected) :
    expected.signed = amount.signed - fee.signed := by
  unfold Decimal.subtractCents at subtracted
  dsimp only at subtracted
  split at subtracted
  · cases subtracted
  · rw [← Option.some.inj subtracted]
    unfold Decimal.signed
    simp only [decide_eq_true_eq]
    split
    · omega
    · omega

/-- The comparison of the amounts has no issue when the net amount is the difference. -/
theorem ReadingsOf.consistency_eq_nil {contract : SettlementContract} {raw : RawRecord}
    {readings : Readings} (read : ReadingsOf contract raw readings) :
    readings.consistency = [] ↔ ∀ amount fee net,
      AmountOf (contract.field "amount") (textOf raw "amount") amount →
      AmountOf (contract.field "fee_amount") (textOf raw "fee_amount") fee →
      AmountOf (contract.field "net_amount") (textOf raw "net_amount") net →
      net.signed = amount.signed - fee.signed := by
  have compared := read.consistency
  have isAmount := (parseAmount_reading read.amount).1
  have isFee := (parseAmount_reading read.fee).1
  have isNet := (parseAmount_reading read.net).1
  simp only [← isAmount, ← isFee, ← isNet]
  generalize readings.amount.1 = amount at compared ⊢
  generalize readings.fee.1 = fee at compared ⊢
  generalize readings.net.1 = net at compared ⊢
  unfold netIssues at compared
  split at compared
  · split at compared
    · cases compared
    · rename_i expected subtracted
      rw [← Except.ok.inj compared, issueIf_eq_nil, not_not, subtractCents_signed subtracted]
      constructor
      · intro same amount fee net paid charged netted
        rw [← Option.some.inj paid, ← Option.some.inj charged, ← Option.some.inj netted]
        exact same
      · intro all
        exact all _ _ _ rfl rfl rfl
  · rename_i missing
    rw [← Except.ok.inj compared]
    refine ⟨fun _ amount fee net paid charged netted => ?_, fun _ => rfl⟩
    exact (missing amount fee net paid charged netted).elim

/-- A row has no issue exactly when it follows the rules. -/
theorem rowIssues_eq_nil {contract : SettlementContract} {filename : FilenameMetadata}
    {raw : RawRecord} {readings : Readings} (read : ReadingsOf contract raw readings) :
    rowIssues contract filename raw readings = [] ↔ Follows contract filename raw := by
  obtain ⟨isDate, dateClean⟩ := parseDate_reading (textOf raw "settlement_date")
  obtain ⟨-, uuidClean⟩ := parseOptionalUuid_reading (textOf raw "internal_transaction_id")
  obtain ⟨-, timeClean⟩ := parseTimestampText_reading read.time
  obtain ⟨isAmount, amountClean⟩ := parseAmount_reading read.amount
  obtain ⟨isFee, feeClean⟩ := parseAmount_reading read.fee
  obtain ⟨-, netClean⟩ := parseAmount_reading read.net
  rw [← read.date] at isDate dateClean
  rw [← read.internal] at uuidClean
  have columnsClean : contract.fields.flatMap (fieldIssues raw) = [] ↔
      ∀ field ∈ contract.fields, ColumnRule raw field := by
    rw [List.flatMap_eq_nil_iff]
    exact forall_congr' fun field => imp_congr_right fun _ => fieldIssues_eq_nil
  unfold rowIssues
  dsimp only
  simp only [List.append_eq_nil_iff, issueIf_eq_nil, columnsClean, dateClean, uuidClean, timeClean,
    amountClean, feeClean, netClean, read.consistency_eq_nil, not_and, not_not]
  constructor
  · rintro ⟨⟨⟨⟨⟨⟨⟨⟨⟨⟨⟨⟨⟨⟨columns, pattern⟩, partner⟩, date⟩, sameDate⟩, internal⟩, time⟩, amount⟩,
      positive⟩, currency⟩, status⟩, fee⟩, nonnegative⟩, net⟩, consistent⟩
    refine ⟨columns, fun filled => ⟨pattern filled, partner filled⟩, fun filled => ?_, internal,
      time, fun filled => ?_, currency, status, fun filled => ?_, net, consistent⟩
    · obtain ⟨found, parsed⟩ := date filled
      rw [(isDate found).mpr ⟨filled, parsed⟩] at sameDate
      rw [parsed, show found = filename.settlementDate by simpa using sameDate]
    · obtain ⟨found, own⟩ := amount filled
      rw [(isAmount found).mpr own] at positive
      exact ⟨found, own, by simpa using positive⟩
    · obtain ⟨found, own⟩ := fee filled
      rw [(isFee found).mpr own] at nonnegative
      exact ⟨found, own, by simpa using nonnegative⟩
  · intro follows
    refine ⟨⟨⟨⟨⟨⟨⟨⟨⟨⟨⟨⟨⟨⟨follows.columns, fun filled => (follows.partner filled).1⟩,
      fun filled => (follows.partner filled).2⟩, fun filled => ⟨_, follows.date filled⟩⟩, ?_⟩,
      follows.internal⟩, follows.time⟩, fun filled => ?_⟩, ?_⟩, follows.currency⟩, follows.status⟩,
      fun filled => ?_⟩, ?_⟩, follows.net⟩, follows.consistent⟩
    · cases found : readings.date.1 with
      | none => simp
      | some date =>
        obtain ⟨filled, parsed⟩ := (isDate date).mp found
        rw [follows.date filled] at parsed
        simp [Option.some.inj parsed]
    · obtain ⟨amount, own, -⟩ := follows.amount filled
      exact ⟨amount, own⟩
    · cases found : readings.amount.1 with
      | none => simp
      | some amount =>
        have own := (isAmount amount).mp found
        obtain ⟨other, same, positive⟩ := follows.amount own.1
        rw [← own.unique same] at positive
        simpa using positive
    · obtain ⟨fee, own, -⟩ := follows.fee filled
      exact ⟨fee, own⟩
    · cases found : readings.fee.1 with
      | none => simp
      | some fee =>
        have own := (isFee fee).mp found
        obtain ⟨other, same, nonnegative⟩ := follows.fee own.1
        rw [← own.unique same] at nonnegative
        simpa using nonnegative

/-- The record holds what the cells of the row say. -/
structure RecordOf (contract : SettlementContract) (raw : RawRecord) (rowNumber : Nat)
    (record : SettlementRecord) : Prop where
  /-- The partner. -/
  partner : record.partnerId = textOf raw "partner_id"
  /-- The settlement date. -/
  date : dateFromIsoformat (textOf raw "settlement_date") = some record.settlementDate
  /-- The reference. -/
  reference : record.settlementReference = textOf raw "settlement_reference"
  /-- The reference of the partner. -/
  partnerReference :
    record.partnerTransactionReference = textOf raw "partner_transaction_reference"
  /-- The transaction of the platform, if the cell names one. -/
  internal : ∀ uuid, record.internalTransactionId = some uuid ↔
    textOf raw "internal_transaction_id" ≠ [] ∧
      parseUuid (textOf raw "internal_transaction_id") = some uuid
  /-- When the transaction took place. -/
  time : InstantOf (textOf raw "transaction_timestamp") record.transactionTimestamp
  /-- The amount. -/
  amount : AmountOf (contract.field "amount") (textOf raw "amount") record.amount
  /-- The currency. -/
  currency : record.currency = textOf raw "currency"
  /-- The status. -/
  status : record.settlementStatus = textOf raw "settlement_status"
  /-- The fee. -/
  fee : AmountOf (contract.field "fee_amount") (textOf raw "fee_amount") record.feeAmount
  /-- The net amount. -/
  net : AmountOf (contract.field "net_amount") (textOf raw "net_amount") record.netAmount
  /-- The row in the file. -/
  row : record.sourceRowNumber = rowNumber

/-- The record of the readings. -/
theorem rowRecord_recordOf {contract : SettlementContract} {raw : RawRecord} {rowNumber : Nat}
    {readings : Readings} {record : SettlementRecord} (read : ReadingsOf contract raw readings)
    (made : rowRecord raw rowNumber readings = some record) :
    RecordOf contract raw rowNumber record ∧ textOf raw "settlement_date" ≠ [] := by
  unfold rowRecord at made
  simp only [Option.bind_eq_bind, Option.bind_eq_some_iff, Option.pure_def,
    Option.some.injEq] at made
  obtain ⟨date, dated, instant, timed, amount, paid, fee, charged, net, netted, rfl⟩ := made
  obtain ⟨isDate, -⟩ := parseDate_reading (textOf raw "settlement_date")
  rw [← read.date] at isDate
  obtain ⟨isUuid, -⟩ := parseOptionalUuid_reading (textOf raw "internal_transaction_id")
  rw [← read.internal] at isUuid
  obtain ⟨filled, parsed⟩ := (isDate date).mp dated
  exact ⟨⟨rfl, parsed, rfl, rfl, isUuid, ((parseTimestampText_reading read.time).1 _).mp timed,
    ((parseAmount_reading read.amount).1 _).mp paid, rfl, rfl,
    ((parseAmount_reading read.fee).1 _).mp charged,
    ((parseAmount_reading read.net).1 _).mp netted, rfl⟩, filled⟩

/-- A row that follows the rules and fills the columns gives a record. -/
theorem rowRecord_of_filled {contract : SettlementContract} {filename : FilenameMetadata}
    {raw : RawRecord} {readings : Readings} (rowNumber : Nat)
    (read : ReadingsOf contract raw readings) (follows : Follows contract filename raw)
    (filled : Filled raw) : ∃ record, rowRecord raw rowNumber readings = some record := by
  obtain ⟨isDate, -⟩ := parseDate_reading (textOf raw "settlement_date")
  rw [← read.date] at isDate
  have dated := (isDate _).mpr ⟨filled _ (by decide), follows.date (filled _ (by decide))⟩
  obtain ⟨instant, own⟩ := follows.time (filled _ (by decide))
  have timed := ((parseTimestampText_reading read.time).1 _).mpr own
  obtain ⟨amount, own, -⟩ := follows.amount (filled _ (by decide))
  have paid := ((parseAmount_reading read.amount).1 _).mpr own
  obtain ⟨fee, own, -⟩ := follows.fee (filled _ (by decide))
  have charged := ((parseAmount_reading read.fee).1 _).mpr own
  obtain ⟨net, own⟩ := follows.net (filled _ (by decide))
  have netted := ((parseAmount_reading read.net).1 _).mpr own
  unfold rowRecord
  rw [dated, timed, paid, charged, netted]
  exact ⟨_, rfl⟩

/-- What `_validate_row` returns for a row: no issue when the row follows the rules, and then a
record when it fills the columns. -/
theorem validateRow_spec {contract : SettlementContract} {filename : FilenameMetadata}
    {raw : RawRecord} {rowNumber : Nat} {record : Option SettlementRecord}
    {issues : List ValidationIssue}
    (judged : validateRow contract filename raw rowNumber = .ok (record, issues)) :
    (issues = [] ↔ Follows contract filename raw) ∧
      (∀ own, record = some own → RecordOf contract raw rowNumber own) ∧
      (record ≠ none ↔ Follows contract filename raw ∧ Filled raw) := by
  rw [validateRow_eq] at judged
  cases read : readRow contract raw with
  | error problem => rw [read] at judged; cases judged
  | ok readings =>
  rw [read] at judged
  simp only [Except.map, Except.ok.injEq, Prod.mk.injEq] at judged
  obtain ⟨rfl, rfl⟩ := judged
  have readings := readRow_readings read
  have clean := @rowIssues_eq_nil _ filename _ _ readings
  refine ⟨clean, fun own made => ?_, fun made => ?_, fun ⟨follows, filled⟩ => ?_⟩
  · split at made
    · exact (rowRecord_recordOf readings made).1
    · cases made
  · split at made
    · rename_i good
      obtain ⟨own, made⟩ := Option.ne_none_iff_exists'.mp made
      obtain ⟨record, dated⟩ := rowRecord_recordOf readings made
      obtain ⟨partner, reference, partnerReference, currency, status⟩ := good.2
      refine ⟨clean.mp good.1, fun name member => ?_⟩
      simp only [requiredValues, List.mem_cons, List.not_mem_nil, or_false] at member
      rcases member with rfl | rfl | rfl | rfl | rfl | rfl | rfl | rfl | rfl | rfl
      · exact partner
      · exact dated
      · exact reference
      · exact partnerReference
      · exact record.time.1
      · exact record.amount.1
      · exact currency
      · exact status
      · exact record.fee.1
      · exact record.net.1
    · exact absurd rfl made
  · rw [if_pos]
    · obtain ⟨own, made⟩ := rowRecord_of_filled rowNumber readings follows filled
      rw [made]
      exact Option.some_ne_none own
    · exact ⟨clean.mpr follows, filled _ (by decide), filled _ (by decide), filled _ (by decide),
        filled _ (by decide), filled _ (by decide)⟩

/-- `_validate_row` returns for every row that can be read, and for no other. -/
theorem validateRow_returns_iff (contract : SettlementContract) (filename : FilenameMetadata)
    (raw : RawRecord) (rowNumber : Nat) :
    (∃ verdict, validateRow contract filename raw rowNumber = .ok verdict) ↔
      Readable contract raw := by
  rw [← readRow_ok_iff, validateRow_eq]
  cases readRow contract raw with
  | error problem => simp [Except.map]
  | ok readings => simp [Except.map]

end Settlement
