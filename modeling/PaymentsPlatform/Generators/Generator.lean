import PaymentsPlatform.Payments.Refunds
import PaymentsPlatform.Python.Uuid

/-!
# The payments generator

`generators.models` and `generators.payments_generator`. A time is the reading of a wall clock in
the zone of the base time, in microseconds since the first day of the calendar; adding a duration
moves the reading and keeps the zone, as `datetime` does. The random draws are parameters, each
inside the range it is drawn from.
-/

namespace Generators

open Python Payments

/-! ## Values -/

/-- `CustomerStatus`. -/
inductive CustomerStatus
  | pendingVerification
  | active
  | suspended
  | closed
deriving DecidableEq

/-- `AccountStatus`. -/
inductive AccountStatus
  | pending
  | active
  | frozen
  | closed
deriving DecidableEq

/-- `MerchantStatus`. -/
inductive MerchantStatus
  | active
  | suspended
  | inactive
  | closed
deriving DecidableEq

/-- `TransactionType`. -/
inductive TransactionType
  | merchantPayment
  | accountTransfer
deriving DecidableEq

/-- `EventType`. -/
inductive EventType
  | paymentRequested
  | paymentAuthorized
  | paymentCompleted
  | paymentFailed
deriving DecidableEq

/-- The text of a status. -/
def statusValue : TransactionStatus → PyStr
  | .pending => "PENDING"
  | .authorized => "AUTHORIZED"
  | .completed => "COMPLETED"
  | .failed => "FAILED"
  | .cancelled => "CANCELLED"

/-- What the generator raises. -/
inductive GeneratorError
  | valueError (message : PyStr)
  | overflowError
  | zeroDivisionError
  | invalidOperation
deriving DecidableEq

/-- A `float`: a number, or infinite or no number. -/
inductive Rate
  | finite (value : ℚ)
  | special
deriving DecidableEq

/-- `utcoffset` of a zone at a reading of its clock, in microseconds. -/
abbrev Zone := Nat → Int

/-- A `datetime`: the reading, and the zone of an aware one. -/
structure BaseTime where
  /-- Microseconds since the first day of the calendar. -/
  wall : Nat
  /-- The zone. -/
  zone : Option Zone

/-! ## Records -/

/-- `Customer`. -/
structure Customer where
  /-- Primary key. -/
  customerId : Nat
  /-- The reference of the customer. -/
  externalCustomerRef : PyStr
  /-- The name. -/
  fullName : PyStr
  /-- The address. -/
  email : Option PyStr
  /-- The country. -/
  countryCode : PyStr
  /-- The lifecycle. -/
  status : CustomerStatus
  /-- Audit. -/
  createdAt : Nat
  /-- Audit. -/
  updatedAt : Nat
deriving DecidableEq

/-- `Account`. -/
structure Account where
  /-- Primary key. -/
  accountId : Nat
  /-- The owner. -/
  customerId : Nat
  /-- The number. -/
  accountNumber : PyStr
  /-- The currency. -/
  currency : PyStr
  /-- The balance. -/
  balance : Decimal
  /-- The lifecycle. -/
  status : AccountStatus
  /-- Audit. -/
  createdAt : Nat
  /-- Audit. -/
  updatedAt : Nat
deriving DecidableEq

/-- `Merchant`. -/
structure Merchant where
  /-- Primary key. -/
  merchantId : Nat
  /-- The code. -/
  merchantCode : PyStr
  /-- The reference of the merchant. -/
  externalReference : PyStr
  /-- The name. -/
  merchantName : PyStr
  /-- The category. -/
  categoryCode : PyStr
  /-- The country. -/
  countryCode : PyStr
  /-- The currency of settlements. -/
  settlementCurrency : PyStr
  /-- The lifecycle. -/
  status : MerchantStatus
  /-- Audit. -/
  createdAt : Nat
  /-- Audit. -/
  updatedAt : Nat
deriving DecidableEq

/-- `PaymentTransaction`. -/
structure PaymentTransaction where
  /-- Primary key. -/
  transactionId : Nat
  /-- The payer. -/
  customerId : Nat
  /-- The account of the payer. -/
  accountId : Nat
  /-- The account of a transfer. -/
  destinationAccountId : Option Nat
  /-- The merchant of a payment. -/
  merchantId : Option Nat
  /-- The type. -/
  transactionType : TransactionType
  /-- The channel. -/
  paymentChannel : PyStr
  /-- The amount. -/
  amount : Decimal
  /-- The currency. -/
  currency : PyStr
  /-- The lifecycle. -/
  status : TransactionStatus
  /-- The reference of the partner. -/
  partnerReference : Option PyStr
  /-- The key of the request. -/
  idempotencyKey : PyStr
  /-- Why it failed. -/
  failureCode : Option PyStr
  /-- When it was requested. -/
  requestedAt : Nat
  /-- When it was completed. -/
  completedAt : Option Nat
  /-- When it failed. -/
  failedAt : Option Nat
  /-- Audit. -/
  createdAt : Nat
  /-- Audit. -/
  updatedAt : Nat
deriving DecidableEq

/-- `TransactionEvent`. -/
structure TransactionEvent where
  /-- Primary key. -/
  eventId : Nat
  /-- The transaction. -/
  transactionId : Nat
  /-- The type. -/
  eventType : EventType
  /-- The place among the events of the transaction. -/
  eventVersion : Nat
  /-- The status before. -/
  previousStatus : Option TransactionStatus
  /-- The status after. -/
  newStatus : TransactionStatus
  /-- When it happened. -/
  eventTime : Nat
  /-- When it was produced. -/
  producerTime : Nat
  /-- The trace. -/
  traceId : Nat
  /-- The producer. -/
  sourceSystem : PyStr
  /-- The members of the payload. -/
  eventPayload : List (PyStr × PyStr)
  /-- Audit. -/
  createdAt : Nat
deriving DecidableEq

/-- `Refund`. -/
structure Refund where
  /-- Primary key. -/
  refundId : Nat
  /-- The original transaction. -/
  transactionId : Nat
  /-- The amount. -/
  amount : Decimal
  /-- The currency. -/
  currency : PyStr
  /-- The lifecycle. -/
  status : RefundStatus
  /-- The reason. -/
  reasonCode : PyStr
  /-- The reference of the partner. -/
  partnerReference : Option PyStr
  /-- When it was requested. -/
  requestedAt : Nat
  /-- When it was completed. -/
  completedAt : Option Nat
  /-- Audit. -/
  createdAt : Nat
  /-- Audit. -/
  updatedAt : Nat
deriving DecidableEq

/-- `GeneratedDataset`. -/
structure GeneratedDataset where
  /-- The customers. -/
  customers : List Customer
  /-- Their accounts. -/
  accounts : List Account
  /-- The merchants. -/
  merchants : List Merchant
  /-- The transactions. -/
  transactions : List PaymentTransaction
  /-- Their events. -/
  events : List TransactionEvent
  /-- The refunds. -/
  refunds : List Refund
  /-- How many invalid records to try. -/
  invalidProbeCount : Int
  /-- How many duplicates to try. -/
  duplicateProbeCount : Int

/-! ## Configuration -/

/-- `GeneratorConfig`. -/
structure GeneratorConfig where
  /-- The seed. -/
  seed : Int
  /-- The number of customers. -/
  customers : Int
  /-- The number of merchants. -/
  merchants : Int
  /-- The number of transactions. -/
  transactions : Int
  /-- The share of invalid records to try. -/
  invalidRate : Rate
  /-- The share of duplicates to try. -/
  duplicateRate : Rate
  /-- The time of the first record. -/
  baseTime : BaseTime

/-- The check of a count. -/
def checkCount (name : PyStr) (value : Int) : Except GeneratorError Unit :=
  if value < 1 then .error (.valueError (name ++ py " must be at least 1")) else .ok ()

/-- The check of a rate. -/
def checkRate (name : PyStr) (rate : Rate) : Except GeneratorError Unit :=
  match rate with
  | .finite value =>
    if 0 ≤ value ∧ value ≤ 1 then .ok ()
    else .error (.valueError (name ++ py " must be between 0.0 and 1.0"))
  | .special => .error (.valueError (name ++ py " must be between 0.0 and 1.0"))

/-- `GeneratorConfig.__post_init__`. -/
def GeneratorConfig.postInit (config : GeneratorConfig) : Except GeneratorError Unit := do
  checkCount "customers" config.customers
  checkCount "merchants" config.merchants
  checkCount "transactions" config.transactions
  checkRate "invalid_rate" config.invalidRate
  checkRate "duplicate_rate" config.duplicateRate
  match config.baseTime.zone with
  | some _ => .ok ()
  | none => .error (.valueError "base_time must be timezone-aware")

/-- `probe_count`: the product is a float. -/
def GeneratorConfig.probeCount (config : GeneratorConfig) : Rate → Except GeneratorError Int
  | .finite value =>
    if value = 0 then .ok 0
    else
      let product := config.transactions * value
      let (top, bottom) := nearestDouble product.num.toNat product.den
      .ok (min config.transactions ⌈(top : ℚ) / bottom⌉)
  | .special => .error .overflowError

/-! ## Durations -/

/-- `timedelta(seconds=1)`. -/
def second : Nat := 1000000

/-- `timedelta(minutes=1)`. -/
def minute : Nat := 60 * second

/-- `timedelta(milliseconds=100)`. -/
def tenth : Nat := 100000

/-- The end of the calendar. -/
def calendarEnd : Nat := calendarDays * dayMicros

/-- `time + timedelta(…)`. -/
def plus (time duration : Nat) : Except GeneratorError Nat :=
  if time + duration < calendarEnd then .ok (time + duration) else .error .overflowError

/-! ## Generation -/

/-- `GENERATOR_NAMESPACE`. -/
def generatorNamespace : Nat := 0xf1d29c24b3bb4d3294e76cb6f882433a

/-- `SUPPORTED_CURRENCIES`. -/
def supportedCurrencies : List PyStr := ["USD", "EUR", "GBP", "SGD"]

/-- `COUNTRY_CODES`. -/
def countryCodes : List PyStr := ["US", "GB", "SG", "DE", "VN"]

/-- `MERCHANT_CATEGORIES`. -/
def merchantCategories : List PyStr := ["4814", "5411", "5732", "5812", "6012"]

/-- `PAYMENT_CHANNELS`. -/
def paymentChannels : List PyStr := ["CARD", "QR", "WALLET"]

/-- `FIRST_NAMES`. -/
def firstNames : List PyStr := ["Alex", "Casey", "Jordan", "Morgan", "Riley", "Taylor"]

/-- `LAST_NAMES`. -/
def lastNames : List PyStr := ["Chen", "Garcia", "Nguyen", "Patel", "Smith", "Williams"]

/-- `MERCHANT_WORDS`. -/
def merchantWords : List PyStr := ["Atlas", "Beacon", "Harbor", "Lotus", "Northstar", "Summit"]

/-- What the random number generator returns: for each record, what is drawn for it. -/
structure Draws where
  /-- `choice(FIRST_NAMES)`. -/
  firstName : Nat → {name : PyStr // name ∈ firstNames}
  /-- `choice(LAST_NAMES)`. -/
  lastName : Nat → {name : PyStr // name ∈ lastNames}
  /-- `randint(0, 900_000)`. -/
  balance : Nat → {cents : Nat // cents ≤ 900000}
  /-- `choice(MERCHANT_WORDS)`. -/
  merchantWord : Nat → {word : PyStr // word ∈ merchantWords}
  /-- `randint(100, 500_000)`. -/
  amount : Nat → {cents : Nat // 100 ≤ cents ∧ cents ≤ 500000}

/-- The name `_stable_uuid` hashes. -/
def stableName (seed : Int) (entity : PyStr) (index : Nat) : PyStr :=
  intText seed ++ py ":" ++ entity ++ py ":" ++ natText index

/-- `_stable_uuid`. -/
def stableUuid (seed : Int) (entity : PyStr) (index : Nat) : Nat :=
  uuid5 generatorNamespace (stableName seed entity index)

/-- `_money_from_cents`: a quotient by a hundred, then two places. -/
def moneyFromCents (cents : Nat) : Except GeneratorError Decimal :=
  match (Decimal.scaled cents 2).quantize 2 with
  | some money => .ok money
  | none => .error .invalidOperation

/-- `f"{value:0{width}d}"`. -/
def paddedInt (width : Nat) : Int → PyStr
  | .ofNat number => padded width number
  | .negSucc number => py "-" ++ padded (width - 1) (number + 1)

/-- `items[index % len(items)]`. -/
def cyclic {α : Type} (items : List α) (index : Nat) : Except GeneratorError α :=
  match items[index % items.length]? with
  | some item => .ok item
  | none => .error .zeroDivisionError

section

variable (config : GeneratorConfig) (draws : Draws)

/-- One customer. -/
def customerAt (index : Nat) : Except GeneratorError Customer := do
  let timestamp ← plus config.baseTime.wall (index * minute)
  let countryCode ← cyclic countryCodes index
  return {
    customerId := stableUuid config.seed "customer" index
    externalCustomerRef := py "CUS-" ++ intText config.seed ++ py "-" ++ padded 6 index
    fullName := (draws.firstName index).1 ++ py " " ++ (draws.lastName index).1
    email := some (py "customer." ++ intText config.seed ++ py "." ++ natText index ++
      py "@example.test")
    countryCode := countryCode
    status := .active
    createdAt := timestamp
    updatedAt := timestamp }

/-- `_generate_customers`. -/
def generateCustomers : Except GeneratorError (List Customer) :=
  (List.range config.customers.toNat).mapM (customerAt config draws)

/-- One account. -/
def accountAt (customer : Customer) (index : Nat) : Except GeneratorError Account := do
  let timestamp ← plus customer.createdAt (10 * second)
  let currency ← cyclic supportedCurrencies (index / 2)
  let balance ← moneyFromCents (100000 + (draws.balance index).1)
  if balance.signed < 0 then .error (.valueError "account balance must not be negative")
  else return {
    accountId := stableUuid config.seed "account" index
    customerId := customer.customerId
    accountNumber := py "FP" ++ paddedInt 6 config.seed ++ padded 10 index
    currency := currency
    balance := balance
    status := .active
    createdAt := timestamp
    updatedAt := timestamp }

/-- `_generate_accounts`. -/
def generateAccounts (customers : List Customer) : Except GeneratorError (List Account) :=
  customers.zipIdx.mapM fun (customer, index) => accountAt config draws customer index

/-- One merchant. -/
def merchantAt (index : Nat) : Except GeneratorError Merchant := do
  let timestamp ← plus config.baseTime.wall (index * minute + 20 * second)
  let categoryCode ← cyclic merchantCategories index
  let countryCode ← cyclic countryCodes (index + 1)
  let settlementCurrency ← cyclic supportedCurrencies index
  return {
    merchantId := stableUuid config.seed "merchant" index
    merchantCode := py "MER-" ++ intText config.seed ++ py "-" ++ padded 6 index
    externalReference := py "MRC-" ++ intText config.seed ++ py "-" ++ padded 6 index
    merchantName := (draws.merchantWord index).1 ++ py " Merchant " ++ natText (index + 1)
    categoryCode := categoryCode
    countryCode := countryCode
    settlementCurrency := settlementCurrency
    status := .active
    createdAt := timestamp
    updatedAt := timestamp }

/-- `_generate_merchants`. -/
def generateMerchants : Except GeneratorError (List Merchant) :=
  (List.range config.merchants.toNat).mapM (merchantAt config draws)

/-- `_transaction_status`. -/
def transactionStatus (index : Nat) : TransactionStatus :=
  let outcome := index % 5
  if outcome = 0 then .pending
  else if outcome = 1 then .failed
  else .completed

/-- Where the money of a transaction goes. -/
structure Target where
  /-- The account of a transfer. -/
  destination : Option Account
  /-- The merchant of a payment. -/
  merchant : Option Merchant

/-- `destinations`: the other accounts of the currency, in order. -/
def destinationsOf (accounts : List Account) (source : Account) : List Account :=
  (accounts.filter fun account => account.currency = source.currency).filter (· ≠ source)

/-- The target of a transaction: every fourth one goes to another account of the currency if there
is one. -/
def targetAt (accounts : List Account) (merchants : List Merchant) (source : Account)
    (index : Nat) : Except GeneratorError Target :=
  let destinations := destinationsOf accounts source
  if index % 4 = 0 ∧ destinations ≠ [] then do
    let destination ← cyclic destinations index
    return ⟨some destination, none⟩
  else do
    let merchant ← cyclic merchants index
    return ⟨none, some merchant⟩

/-- The record of a transaction. -/
def transactionRow (index : Nat) (source : Account) (target : Target) (paymentChannel : PyStr)
    (amount : Decimal) (requestedAt terminalAt : Nat) : PaymentTransaction :=
  let status := transactionStatus index
  { transactionId := stableUuid config.seed "transaction" index
    customerId := source.customerId
    accountId := source.accountId
    destinationAccountId := target.destination.map (·.accountId)
    merchantId := target.merchant.map (·.merchantId)
    transactionType := if target.destination.isSome then .accountTransfer else .merchantPayment
    paymentChannel := paymentChannel
    amount := amount
    currency := source.currency
    status := status
    partnerReference := if status = .pending then none
      else some (py "PTR-" ++ intText config.seed ++ py "-" ++ padded 8 index)
    idempotencyKey := py "IDEM-" ++ intText config.seed ++ py "-" ++ padded 8 index
    failureCode := if status = .failed then some "PROCESSOR_DECLINED" else none
    requestedAt := requestedAt
    completedAt := if status = .completed then some terminalAt else none
    failedAt := if status = .failed then some terminalAt else none
    createdAt := requestedAt
    updatedAt := if status = .pending then requestedAt else terminalAt }

/-- The channel of a transaction. -/
def channelAt (target : Target) (index : Nat) : Except GeneratorError PyStr :=
  if target.destination.isSome then .ok "BANK_TRANSFER" else cyclic paymentChannels index

/-- One transaction. -/
def transactionAt (accounts : List Account) (merchants : List Merchant) (index : Nat) :
    Except GeneratorError PaymentTransaction := do
  let source ← cyclic accounts index
  let target ← targetAt accounts merchants source index
  let requestedAt ← plus config.baseTime.wall
    (index * 3 * minute + (config.seed % 60).toNat * second)
  let terminalAt ← plus requestedAt ((5 + index % 20) * second)
  let paymentChannel ← channelAt target index
  let amount ← moneyFromCents (draws.amount index).1
  if amount.signed ≤ 0 then .error (.valueError "transaction amount must be positive")
  else return transactionRow config index source target paymentChannel amount requestedAt terminalAt

/-- The record of an event. -/
def eventRow (transaction : PaymentTransaction) (transactionIndex eventSequence : Nat)
    (eventType : EventType) (previousStatus : Option TransactionStatus)
    (newStatus : TransactionStatus) (eventTime producerTime : Nat) : TransactionEvent where
  eventId := stableUuid config.seed (py "transaction-event-" ++ natText transactionIndex)
    eventSequence
  transactionId := transaction.transactionId
  eventType := eventType
  eventVersion := eventSequence + 1
  previousStatus := previousStatus
  newStatus := newStatus
  eventTime := eventTime
  producerTime := producerTime
  traceId := stableUuid config.seed "trace" transactionIndex
  sourceSystem := "payments-generator"
  eventPayload := [("amount", transaction.amount.text), ("currency", transaction.currency),
    ("payment_channel", transaction.paymentChannel), ("status", statusValue newStatus)]
  createdAt := producerTime

/-- `_event`. -/
def event (transaction : PaymentTransaction) (transactionIndex eventSequence : Nat)
    (eventType : EventType) (previousStatus : Option TransactionStatus)
    (newStatus : TransactionStatus) (eventTime : Nat) : Except GeneratorError TransactionEvent := do
  let producerTime ← plus eventTime tenth
  return eventRow config transaction transactionIndex eventSequence eventType previousStatus
    newStatus eventTime producerTime

/-- `_events_for_transaction`. -/
def eventsForTransaction (transaction : PaymentTransaction) (transactionIndex : Nat) :
    Except GeneratorError (List TransactionEvent) := do
  let requested ← event config transaction transactionIndex 0 .paymentRequested none .pending
    transaction.requestedAt
  if transaction.status = .pending then return [requested]
  let some terminalTime := transaction.completedAt.or transaction.failedAt
    | .error (.valueError "terminal transaction is missing its terminal timestamp")
  let terminalEventType :=
    if transaction.status = .completed then EventType.paymentCompleted else .paymentFailed
  if transaction.status = .completed ∧ transactionIndex % 2 = 0 then
    let authorizedTime ← plus transaction.requestedAt (2 * second)
    let authorized ← event config transaction transactionIndex 1 .paymentAuthorized (some .pending)
      .authorized authorizedTime
    let terminal ← event config transaction transactionIndex 2 terminalEventType (some .authorized)
      transaction.status terminalTime
    return [requested, authorized, terminal]
  let terminal ← event config transaction transactionIndex 1 terminalEventType (some .pending)
    transaction.status terminalTime
  return [requested, terminal]

/-- `_generate_transactions`. -/
def generateTransactions (accounts : List Account) (merchants : List Merchant) :
    Except GeneratorError (List PaymentTransaction × List TransactionEvent) := do
  let generated ← (List.range config.transactions.toNat).mapM fun index => do
    let transaction ← transactionAt config draws accounts merchants index
    let events ← eventsForTransaction config transaction index
    return (transaction, events)
  return (generated.map Prod.fst, generated.flatMap Prod.snd)

/-- `amount * Decimal("0.25")`, two places, at least a cent. -/
def refundAmount (amount : Decimal) : Except GeneratorError Decimal :=
  let product := Decimal.contextRound amount.negative (amount.coefficient * 25)
    (amount.exponent - 2)
  match product.quantize 2 with
  | some quarter => .ok (if (Decimal.ofCents 1).less quarter then quarter else Decimal.ofCents 1)
  | none => .error .invalidOperation

/-- The status of a refund. -/
def refundStatus (refundIndex : Nat) : RefundStatus :=
  if refundIndex % 2 = 0 then .completed else .pending

/-- When a refund is completed. -/
def completionAt (status : RefundStatus) (requestedAt : Nat) :
    Except GeneratorError (Option Nat) :=
  if status = .completed then (plus requestedAt (10 * second)).map some else .ok none

/-- One refund. -/
def refundAt (transaction : PaymentTransaction) (refundIndex : Nat) :
    Except GeneratorError Refund := do
  let requestedAt ← plus (transaction.completedAt.getD transaction.requestedAt) (5 * minute)
  let status := refundStatus refundIndex
  let completedAt ← completionAt status requestedAt
  let amount ← refundAmount transaction.amount
  if amount.signed ≤ 0 then .error (.valueError "refund amount must be positive")
  else return {
    refundId := stableUuid config.seed "refund" refundIndex
    transactionId := transaction.transactionId
    amount := amount
    currency := transaction.currency
    status := status
    reasonCode := "CUSTOMER_REQUEST"
    partnerReference := if status = .completed then
        some (py "RPR-" ++ intText config.seed ++ py "-" ++ padded 8 refundIndex)
      else none
    requestedAt := requestedAt
    completedAt := completedAt
    createdAt := requestedAt
    updatedAt := completedAt.getD requestedAt }

/-- `_generate_refunds`: every third completed transaction. -/
def generateRefunds (transactions : List PaymentTransaction) :
    Except GeneratorError (List Refund) :=
  let completed := transactions.filter fun transaction => transaction.status = .completed
  (completed.zipIdx.filter fun (_, refundIndex) => refundIndex % 3 = 0).mapM
    fun (transaction, refundIndex) => refundAt config transaction refundIndex

/-- `PaymentsGenerator.generate`. -/
def generate : Except GeneratorError GeneratedDataset := do
  let customers ← generateCustomers config draws
  let accounts ← generateAccounts config draws customers
  let merchants ← generateMerchants config draws
  let (transactions, events) ← generateTransactions config draws accounts merchants
  let refunds ← generateRefunds config transactions
  let invalidProbeCount ← config.probeCount config.invalidRate
  let duplicateProbeCount ← config.probeCount config.duplicateRate
  return ⟨customers, accounts, merchants, transactions, events, refunds, invalidProbeCount,
    duplicateProbeCount⟩

end

end Generators
