import PaymentsPlatform.Generators.Values

/-!
# Generated records

Each record of the generator exists when its times are inside the calendar, and its columns meet the
checks of its table. The checks of times hold where the clock of the zone is not set forward between
two readings that are compared.
-/

namespace Generators

open Python Payments

/-! ## Times -/

/-- When a transaction is requested. -/
def startTime (config : GeneratorConfig) (index : Nat) : Nat :=
  config.baseTime.wall + (index * 3 * minute + (config.seed % 60).toNat * second)

/-- When a transaction ends. -/
def endTime (config : GeneratorConfig) (index : Nat) : Nat :=
  startTime config index + (5 + index % 20) * second

/-- No time the generator computes is behind the end of the calendar. -/
structure InCalendar (config : GeneratorConfig) : Prop where
  /-- The times of customers and their accounts. -/
  customers : ∀ index < config.customers.toNat,
    config.baseTime.wall + index * minute + 10 * second < calendarEnd
  /-- The times of merchants. -/
  merchants : ∀ index < config.merchants.toNat,
    config.baseTime.wall + (index * minute + 20 * second) < calendarEnd
  /-- The times of transactions. -/
  transactions : ∀ index < config.transactions.toNat, endTime config index < calendarEnd
  /-- The times of the last events. -/
  events : ∀ index < config.transactions.toNat, index % 5 ≠ 0 →
    endTime config index + tenth < calendarEnd
  /-- The times of refunds. -/
  refunds : ∀ index < config.transactions.toNat, index % 5 = 2 →
    endTime config index + 5 * minute < calendarEnd
  /-- The times of completed refunds. -/
  completions : ∀ index < config.transactions.toNat, index % 10 = 2 →
    endTime config index + 5 * minute + 10 * second < calendarEnd

/-- A time inside the calendar. -/
theorem plus_ok {time duration : Nat} (inside : time + duration < calendarEnd) :
    plus time duration = .ok (time + duration) := if_pos inside

/-- A step that succeeds, and what follows it. -/
theorem bind_ok {ε α β : Type} {first : Except ε α} {value : α} (done : first = .ok value)
    (next : α → Except ε β) : (first >>= next) = next value := by
  rw [done]
  rfl

/-- A list that is not empty is read in a cycle. -/
theorem cyclic_ok {α : Type} {items : List α} (nonempty : items ≠ []) (index : Nat) :
    ∃ item ∈ items, cyclic items index = .ok item := by
  have inside : index % items.length < items.length :=
    Nat.mod_lt _ (List.length_pos_of_ne_nil nonempty)
  refine ⟨items[index % items.length], List.getElem_mem _, ?_⟩
  rw [cyclic, List.getElem?_eq_getElem inside]

/-- A moment is not before itself. -/
theorem ordered_refl (zone : Zone) (time : Nat) : Ordered zone time time := le_refl _

/-- Indexes of records inside the calendar have at most ten digits. -/
theorem index_small {index rest : Nat} (inside : index * minute + rest < calendarEnd) :
    index < 10 ^ 10 := by
  have last : calendarEnd = 315537897600000000 := rfl
  have minutes : minute = 60000000 := rfl
  rw [last, minutes] at inside
  omega

section

variable {config : GeneratorConfig} (draws : Draws) {zone : Zone}

/-! ## Customers, accounts and merchants -/

/-- What is known of a customer. -/
structure CustomerFacts (config : GeneratorConfig) (zone : Zone) (index : Nat) (row : Customer) :
    Prop where
  /-- Its key. -/
  id : row.customerId = stableUuid config.seed "customer" index
  /-- Its reference. -/
  reference : row.externalCustomerRef =
    py "CUS-" ++ intText config.seed ++ py "-" ++ padded 6 index
  /-- Its time. -/
  created : row.createdAt = config.baseTime.wall + index * minute
  /-- Its checks. -/
  valid : CustomerValid zone row

/-- There are countries. -/
theorem countryCodes_ne_nil : countryCodes ≠ [] := by decide

/-- The countries are written as the columns want them. -/
theorem countryCodes_valid : ∀ code ∈ countryCodes, isCountryCode code = true := by decide

/-- The names of the lists are short. -/
theorem fullName_fits : ∀ first ∈ firstNames, ∀ last ∈ lastNames,
    isVarchar 200 (first ++ py " " ++ last) = true := by decide

/-- A customer. -/
theorem customerAt_ok (zone : Zone) (calendar : InCalendar config)
    (seed : (paddedInt 6 config.seed).length ≤ 22) {index : Nat}
    (inside : index < config.customers.toNat) :
    ∃ row, customerAt config draws index = .ok row ∧ CustomerFacts config zone index row := by
  have time := calendar.customers index inside
  have late : index * minute + (config.baseTime.wall + 10 * second) < calendarEnd := by omega
  have small := index_small late
  have short := Nat.le_trans (intText_length_le config.seed) seed
  obtain ⟨countryCode, member, country⟩ := cyclic_ok countryCodes_ne_nil index
  have created : config.baseTime.wall + index * minute < calendarEnd := by omega
  refine ⟨_, (bind_ok (plus_ok created) _).trans ((bind_ok country _).trans rfl), ?_⟩
  refine ⟨rfl, rfl, rfl, ⟨?_, ?_, ?_, ?_, ordered_refl _ _⟩⟩
  · refine isVarchar_of_plain (Plain.append (Plain.append (Plain.append (by decide)
      (plain_intText _)) (by decide)) (plain_padded _ _)) ?_
    have digits := padded_length 6 (by decide : 6 ≤ 10) (by decide) small
    simp only [List.length_append]
    have fixed : (py "CUS-").length = 4 ∧ (py "-").length = 1 := by decide
    omega
  · exact fullName_fits _ (draws.firstName index).2 _ (draws.lastName index).2
  · rintro email ⟨⟩
    refine ⟨isVarchar_of_plain (Plain.append (Plain.append (Plain.append (Plain.append (by decide)
      (plain_intText _)) (by decide)) (plain_natText _)) (by decide)) ?_, ?_⟩
    · have digits := natText_length (by decide) small
      simp only [List.length_append]
      have fixed : (py "customer.").length = 9 ∧ (py ".").length = 1 ∧
        (py "@example.test").length = 13 := by decide
      omega
    · simp [hasInnerAt, py]
  · exact countryCodes_valid _ member

/-- The balance of an account. -/
theorem isMoney_ofCents {cents : Nat} (small : cents < 10 ^ 18) :
    isMoney (Decimal.ofCents cents) = true := by
  have fits : cents < 1000000000000000000 := small
  simp [isMoney, Decimal.ofCents, fits]

/-- There are currencies. -/
theorem supportedCurrencies_ne_nil : supportedCurrencies ≠ [] := by decide

/-- The currencies are known. -/
theorem supportedCurrencies_known : ∀ code ∈ supportedCurrencies, code ∈ currencyCodes := by decide

/-- What is known of an account. -/
structure AccountFacts (config : GeneratorConfig) (zone : Zone) (index : Nat) (row : Account) :
    Prop where
  /-- Its key. -/
  id : row.accountId = stableUuid config.seed "account" index
  /-- Its owner. -/
  customer : row.customerId = stableUuid config.seed "customer" index
  /-- Its number. -/
  number : row.accountNumber = py "FP" ++ paddedInt 6 config.seed ++ padded 10 index
  /-- Its checks. -/
  valid : AccountValid zone row

/-- An account. -/
theorem accountAt_ok (calendar : InCalendar config)
    (seed : (paddedInt 6 config.seed).length ≤ 22) {index : Nat}
    (inside : index < config.customers.toNat) {customer : Customer}
    (facts : CustomerFacts config zone index customer) :
    ∃ row, accountAt config draws customer index = .ok row ∧
      AccountFacts config zone index row := by
  have time := calendar.customers index inside
  have late : index * minute + (config.baseTime.wall + 10 * second) < calendarEnd := by omega
  have small := index_small late
  have created : customer.createdAt + 10 * second < calendarEnd := by
    rw [facts.created]
    exact time
  obtain ⟨currency, member, listed⟩ := cyclic_ok supportedCurrencies_ne_nil (index / 2)
  have most := (draws.balance index).2
  have cents : 100000 + (draws.balance index).1 < 10 ^ 18 := by omega
  have positive : ¬ (Decimal.ofCents (100000 + (draws.balance index).1)).signed < 0 := by
    simp only [Decimal.signed, Decimal.ofCents]
    exact not_lt.mpr (Int.natCast_nonneg _)
  refine ⟨_, (bind_ok (plus_ok created) _).trans ((bind_ok listed _).trans
    ((bind_ok (moneyFromCents_ok cents) _).trans ((if_neg positive).trans rfl))), ?_⟩
  refine ⟨rfl, facts.id, rfl, ⟨?_, supportedCurrencies_known _ member, isMoney_ofCents cents,
    not_lt.mp positive, ordered_refl _ _⟩⟩
  refine isVarchar_of_plain (Plain.append (Plain.append (by decide) (plain_paddedInt _ _))
    (plain_padded _ _)) ?_
  rw [List.length_append, List.length_append, padded_length_eq small]
  have fixed : (py "FP").length = 2 := rfl
  omega

/-- There are categories. -/
theorem merchantCategories_ne_nil : merchantCategories ≠ [] := by decide

/-- The categories are known. -/
theorem merchantCategories_known :
    ∀ code ∈ merchantCategories, code ∈ merchantCategoryCodes := by decide

/-- A seed is written as a merchant code allows it. -/
theorem isMerchantCode_text (seed : Int) (index : Nat) :
    isMerchantCode (py "MER-" ++ intText seed ++ py "-" ++ padded 6 index) = true := by
  have allowed : ∀ code ∈ py "ER-" ++ intText seed ++ py "-" ++ padded 6 index,
      (isCapital code || Json.isDigit code || decide (code = 95) || decide (code = 45)) = true := by
    have digit : ∀ code, 48 ≤ code → code ≤ 57 → Json.isDigit code = true := by
      intro code low high
      simp [Json.isDigit, low, high]
    intro code member
    simp only [List.mem_append] at member
    rcases member with ((word | number) | dash) | padding
    · revert code
      decide
    · cases seed with
      | ofNat number' =>
        obtain ⟨low, high⟩ := natText_digits number
        rw [digit code low high, Bool.or_true]
        rfl
      | negSucc number' =>
        rcases List.mem_append.mp number with sign | digits
        · rw [List.mem_singleton.mp sign]
          decide
        · obtain ⟨low, high⟩ := natText_digits digits
          rw [digit code low high, Bool.or_true]
          rfl
    · revert code
      decide
    · obtain ⟨low, high⟩ := padded_digits padding
      rw [digit code low high, Bool.or_true]
      rfl
  exact Bool.and_eq_true_iff.mpr ⟨rfl, List.all_eq_true.mpr allowed⟩

/-- What is known of a merchant. -/
structure MerchantFacts (config : GeneratorConfig) (zone : Zone) (index : Nat) (row : Merchant) :
    Prop where
  /-- Its key. -/
  id : row.merchantId = stableUuid config.seed "merchant" index
  /-- Its code. -/
  code : row.merchantCode = py "MER-" ++ intText config.seed ++ py "-" ++ padded 6 index
  /-- Its reference. -/
  reference : row.externalReference = py "MRC-" ++ intText config.seed ++ py "-" ++ padded 6 index
  /-- Its checks. -/
  valid : MerchantValid zone row

/-- The words of the list are short. -/
theorem merchantWords_short : ∀ word ∈ merchantWords, Plain word ∧ word.length ≤ 9 := by decide

/-- A merchant. -/
theorem merchantAt_ok (zone : Zone) (calendar : InCalendar config)
    (seed : (paddedInt 6 config.seed).length ≤ 22) {index : Nat}
    (inside : index < config.merchants.toNat) :
    ∃ row, merchantAt config draws index = .ok row ∧ MerchantFacts config zone index row := by
  have time := calendar.merchants index inside
  have late : index * minute + (config.baseTime.wall + 20 * second) < calendarEnd := by omega
  have small := index_small late
  have short := Nat.le_trans (intText_length_le config.seed) seed
  obtain ⟨category, categoryListed, found⟩ := cyclic_ok merchantCategories_ne_nil index
  obtain ⟨country, countryListed, found'⟩ := cyclic_ok countryCodes_ne_nil (index + 1)
  obtain ⟨currency, currencyListed, found''⟩ := cyclic_ok supportedCurrencies_ne_nil index
  refine ⟨_, (bind_ok (plus_ok time) _).trans ((bind_ok found _).trans ((bind_ok found' _).trans
    ((bind_ok found'' _).trans rfl))), ?_⟩
  have digits := padded_length 6 (by decide : 6 ≤ 10) (by decide) small
  have fixed : (py "MER-").length = 4 ∧ (py "MRC-").length = 4 ∧ (py "-").length = 1 ∧
    (py " Merchant ").length = 10 := by decide
  obtain ⟨plain, word⟩ := merchantWords_short _ (draws.merchantWord index).2
  refine ⟨rfl, rfl, rfl, ⟨⟨?_, isMerchantCode_text _ _⟩, ?_, ?_,
    merchantCategories_known _ categoryListed, countryCodes_valid _ countryListed,
    supportedCurrencies_known _ currencyListed, ordered_refl _ _⟩⟩
  · refine isVarchar_of_plain (Plain.append (Plain.append (Plain.append (by decide)
      (plain_intText _)) (by decide)) (plain_padded _ _)) ?_
    simp only [List.length_append]
    omega
  · refine isVarchar_of_plain (Plain.append (Plain.append (Plain.append (by decide)
      (plain_intText _)) (by decide)) (plain_padded _ _)) ?_
    simp only [List.length_append]
    omega
  · refine isVarchar_of_plain (Plain.append (Plain.append plain (by decide)) (plain_natText _)) ?_
    have size : index + 1 < 10 ^ 11 := by omega
    have length := natText_length (by decide) size
    simp only [List.length_append]
    omega

/-! ## Transactions -/

/-- What is known of the target of a transaction. -/
structure TargetFacts (accounts : List Account) (merchants : List Merchant) (source : Account)
    (target : Target) : Prop where
  /-- A transfer goes to another account of the currency, and has no merchant. -/
  transfer : ∀ destination ∈ target.destination, target.merchant = none ∧
    destination ∈ accounts ∧ destination.currency = source.currency ∧ destination ≠ source
  /-- A payment goes to a merchant. -/
  payment : target.destination = none → ∃ merchant ∈ merchants, target.merchant = some merchant

/-- A target. -/
theorem targetAt_ok {accounts : List Account} {merchants : List Merchant} (source : Account)
    (some' : merchants ≠ []) (index : Nat) :
    ∃ target, targetAt accounts merchants source index = .ok target ∧
      TargetFacts accounts merchants source target := by
  by_cases transfers : index % 4 = 0 ∧ destinationsOf accounts source ≠ []
  · obtain ⟨destination, member, found⟩ := cyclic_ok transfers.2 index
    refine ⟨⟨some destination, none⟩, (if_pos transfers).trans ((bind_ok found _).trans rfl), ?_⟩
    refine ⟨?_, fun none => by cases none⟩
    rintro _ ⟨⟩
    obtain ⟨listed, different⟩ := List.mem_filter.mp member
    obtain ⟨known, currency⟩ := List.mem_filter.mp listed
    exact ⟨rfl, known, by simpa using currency, by simpa using different⟩
  · obtain ⟨merchant, member, found⟩ := cyclic_ok some' index
    refine ⟨⟨none, some merchant⟩, (if_neg transfers).trans ((bind_ok found _).trans rfl), ?_⟩
    exact ⟨fun _ none => (by cases none), fun _ => ⟨merchant, member, rfl⟩⟩

/-- The status follows the index. -/
theorem transactionStatus_pending {index : Nat} :
    transactionStatus index = .pending ↔ index % 5 = 0 := by
  unfold transactionStatus
  dsimp only
  split
  · simp [*]
  · split <;> simp [*]

/-- The status follows the index. -/
theorem transactionStatus_failed {index : Nat} :
    transactionStatus index = .failed ↔ index % 5 = 1 := by
  unfold transactionStatus
  dsimp only
  split
  · simp [*]
  · split <;> simp [*]

/-- The status follows the index. -/
theorem transactionStatus_completed {index : Nat} :
    transactionStatus index = .completed ↔ 2 ≤ index % 5 := by
  unfold transactionStatus
  dsimp only
  split
  · simp [*]
  · split
    · simp [*]
    · simp only [true_iff]
      omega

/-- What is known of a transaction. -/
structure TransactionFacts (config : GeneratorConfig) (zone : Zone) (accounts : List Account)
    (merchants : List Merchant) (index : Nat) (row : PaymentTransaction) : Prop where
  /-- Its key. -/
  id : row.transactionId = stableUuid config.seed "transaction" index
  /-- Its reference. -/
  reference : row.partnerReference = if index % 5 = 0 then none
    else some (py "PTR-" ++ intText config.seed ++ py "-" ++ padded 8 index)
  /-- The key of its request. -/
  key : row.idempotencyKey = py "IDEM-" ++ intText config.seed ++ py "-" ++ padded 8 index
  /-- Its account. -/
  source : ∃ source ∈ accounts, source.accountId = row.accountId ∧
    source.customerId = row.customerId ∧ source.currency = row.currency
  /-- Its destination. -/
  destination : ∀ destinationId ∈ row.destinationAccountId, ∃ destination ∈ accounts,
    destination.accountId = destinationId ∧ destination.currency = row.currency
  /-- Its merchant. -/
  merchant : ∀ merchantId ∈ row.merchantId, merchantId ∈ merchants.map (·.merchantId)
  /-- Its amount. -/
  amount : ∃ cents, row.amount = Decimal.ofCents cents ∧ 100 ≤ cents ∧ cents ≤ 500000
  /-- Its status. -/
  status : row.status = transactionStatus index
  /-- When it was requested. -/
  requested : row.requestedAt = startTime config index
  /-- When it was completed. -/
  completed : row.completedAt = if 2 ≤ index % 5 then some (endTime config index) else none
  /-- When it failed. -/
  failed : row.failedAt = if index % 5 = 1 then some (endTime config index) else none
  /-- Its checks. -/
  valid : TransactionValid zone row ↔
    (index % 5 ≠ 0 → Ordered zone (startTime config index) (endTime config index))

/-- The channels are known. -/
theorem paymentChannels_known : ∀ code ∈ paymentChannels, code ∈ paymentChannelCodes := by decide

/-- There are channels. -/
theorem paymentChannels_ne_nil : paymentChannels ≠ [] := by decide

/-- A reference of a few letters, the seed and an index. -/
theorem isVarchar_reference {prefixText : PyStr} (plain : Plain prefixText)
    (fits : prefixText.length ≤ 5) {seed : Int} (short : (intText seed).length ≤ 22) {index : Nat}
    (small : index < 10 ^ 10) :
    isVarchar 128 (prefixText ++ intText seed ++ py "-" ++ padded 8 index) = true := by
  refine isVarchar_of_plain (Plain.append (Plain.append (Plain.append plain (plain_intText _))
    (by decide)) (plain_padded _ _)) ?_
  have digits := padded_length 8 (by decide : 8 ≤ 10) (by decide) small
  have fixed : (py "-").length = 1 := rfl
  simp only [List.length_append]
  omega

/-- The times of a transaction row. -/
theorem transactionRow_times (index : Nat) (source : Account) (target : Target)
    (paymentChannel : PyStr) (amount : Decimal) (requestedAt terminalAt : Nat) :
    let row :=
      transactionRow config index source target paymentChannel amount requestedAt terminalAt
    row.partnerReference = (if index % 5 = 0 then none
        else some (py "PTR-" ++ intText config.seed ++ py "-" ++ padded 8 index)) ∧
      row.completedAt = (if 2 ≤ index % 5 then some terminalAt else none) ∧
      row.failedAt = (if index % 5 = 1 then some terminalAt else none) ∧
      row.updatedAt = (if index % 5 = 0 then requestedAt else terminalAt) := by
  intro row
  refine ⟨?_, ?_, ?_, ?_⟩
  all_goals simp only [row, transactionRow, transactionStatus_pending, transactionStatus_failed,
    transactionStatus_completed]

/-- The checks of times of a transaction row compare its request with its end. -/
theorem transactionRow_ordered (index : Nat) (source : Account) (target : Target)
    (paymentChannel : PyStr) (amount : Decimal) (requestedAt terminalAt : Nat) :
    let row :=
      transactionRow config index source target paymentChannel amount requestedAt terminalAt
    ((∀ completed ∈ row.completedAt, Ordered zone row.requestedAt completed) ∧
      (∀ failed ∈ row.failedAt, Ordered zone row.requestedAt failed) ∧
      Ordered zone row.createdAt row.updatedAt) ↔
        (index % 5 ≠ 0 → Ordered zone requestedAt terminalAt) := by
  intro row
  obtain ⟨-, completed, failed, updated⟩ := @transactionRow_times config index source
    target paymentChannel amount requestedAt terminalAt
  have requested : row.requestedAt = requestedAt := rfl
  have created : row.createdAt = requestedAt := rfl
  rw [requested, created]
  change (∀ other ∈ row.completedAt, _) ∧ (∀ other ∈ row.failedAt, _) ∧ _ ↔ _
  rw [completed, failed, updated]
  constructor
  · rintro ⟨-, -, last⟩ past
    rwa [if_neg past] at last
  · intro ordered
    refine ⟨?_, ?_, ?_⟩
    · intro other member
      split at member
      · rename_i high
        cases member
        exact ordered (by omega)
      · cases member
    · intro other member
      split at member
      · rename_i one
        cases member
        exact ordered (by omega)
      · cases member
    · split
      · exact ordered_refl _ _
      · rename_i past
        exact ordered past

/-- The status of a transaction row goes with its times. -/
theorem transactionRow_status (index : Nat) (source : Account) (target : Target)
    (paymentChannel : PyStr) (amount : Decimal) (requestedAt terminalAt : Nat) :
    StatusTimestampsValid
      (transactionRow config index source target paymentChannel amount requestedAt terminalAt) := by
  unfold StatusTimestampsValid transactionRow
  cases status : transactionStatus index <;> simp

/-- The target of a transaction row goes with its type. -/
theorem transactionRow_target {accounts : List Account} {merchants : List Merchant}
    {source : Account} {target : Target} (targets : TargetFacts accounts merchants source target)
    (sourceListed : source ∈ accounts) (distinct : (accounts.map (·.accountId)).Nodup)
    (index : Nat) (paymentChannel : PyStr) (amount : Decimal) (requestedAt terminalAt : Nat) :
    TargetValid
      (transactionRow config index source target paymentChannel amount requestedAt terminalAt) := by
  cases other : target.destination with
  | some destination =>
    obtain ⟨none, listed, -, different⟩ := targets.transfer destination other
    refine Or.inr ⟨?_, ?_, destination.accountId, ?_, ?_⟩
    · simp [transactionRow, other]
    · simp [transactionRow, none]
    · simp [transactionRow, other]
    · intro same
      exact different (List.inj_on_of_nodup_map distinct listed sourceListed same)
  | none =>
    obtain ⟨merchant, -, goes⟩ := targets.payment other
    refine Or.inl ⟨?_, ?_, ?_⟩
    · simp [transactionRow, other]
    · simp [transactionRow, goes]
    · simp [transactionRow, other]

/-- A transaction. -/
theorem transactionAt_ok (calendar : InCalendar config)
    (seed : (paddedInt 6 config.seed).length ≤ 22) {accounts : List Account}
    {merchants : List Merchant} (payer : accounts ≠ [])
    (currencies : ∀ account ∈ accounts, account.currency ∈ currencyCodes)
    (distinct : (accounts.map (·.accountId)).Nodup) (payee : merchants ≠ []) {index : Nat}
    (inside : index < config.transactions.toNat) :
    ∃ row, transactionAt config draws accounts merchants index = .ok row ∧
      TransactionFacts config zone accounts merchants index row := by
  have last := calendar.transactions index inside
  have late : index * minute + (config.baseTime.wall + index * 2 * minute +
      (config.seed % 60).toNat * second + (5 + index % 20) * second) < calendarEnd := by
    have time : endTime config index = config.baseTime.wall + (index * 3 * minute +
      (config.seed % 60).toNat * second) + (5 + index % 20) * second := rfl
    rw [time] at last
    have parts : index * 3 * minute = index * minute + index * 2 * minute := by ring
    omega
  have small := index_small late
  have short := Nat.le_trans (intText_length_le config.seed) seed
  obtain ⟨source, sourceListed, sourceFound⟩ := cyclic_ok payer index
  obtain ⟨target, targetFound, targets⟩ := @targetAt_ok accounts merchants source payee index
  have start : config.baseTime.wall + (index * 3 * minute + (config.seed % 60).toNat * second) <
      calendarEnd := Nat.lt_of_le_of_lt (Nat.le_add_right _ _) last
  obtain ⟨channel, known, channelFound⟩ : ∃ channel ∈ paymentChannelCodes,
      channelAt target index = .ok channel := by
    unfold channelAt
    split
    · exact ⟨"BANK_TRANSFER", by decide, rfl⟩
    · obtain ⟨channel, member, found⟩ := cyclic_ok paymentChannels_ne_nil index
      exact ⟨channel, paymentChannels_known _ member, found⟩
  obtain ⟨low, high⟩ := (draws.amount index).2
  have cents : (draws.amount index).1 < 10 ^ 18 := by omega
  have positive : ¬ (Decimal.ofCents (draws.amount index).1).signed ≤ 0 := by
    simp only [Decimal.signed, Decimal.ofCents]
    exact not_le.mpr (Int.natCast_pos.mpr (by omega))
  refine ⟨_, (bind_ok sourceFound _).trans ((bind_ok targetFound _).trans
    ((bind_ok (plus_ok start) _).trans ((bind_ok (plus_ok last) _).trans
    ((bind_ok channelFound _).trans ((bind_ok (moneyFromCents_ok cents) _).trans
    ((if_neg positive).trans rfl)))))), ?_⟩
  obtain ⟨reference, completed, failed, -⟩ := @transactionRow_times config index source target
    channel (Decimal.ofCents (draws.amount index).1) (startTime config index)
    (endTime config index)
  refine ⟨rfl, reference, rfl, ⟨source, sourceListed, rfl, rfl, rfl⟩, ?_, ?_,
    ⟨(draws.amount index).1, rfl, low, high⟩, rfl, rfl, completed, failed, ?_⟩
  · intro destinationId member
    obtain ⟨destination, goes, rfl⟩ := Option.map_eq_some_iff.mp member
    obtain ⟨-, listed, currency, -⟩ := targets.transfer destination goes
    exact ⟨destination, listed, rfl, currency⟩
  · intro merchantId member
    obtain ⟨merchant, goes, rfl⟩ := Option.map_eq_some_iff.mp member
    cases other : target.destination with
    | some destination =>
      rw [(targets.transfer destination other).1] at goes
      cases goes
    | none =>
      obtain ⟨listed, member, same⟩ := targets.payment other
      rw [goes, Option.some.injEq] at same
      rw [same]
      exact List.mem_map_of_mem member
  · have times := @transactionRow_ordered config zone index source target channel
      (Decimal.ofCents (draws.amount index).1) (startTime config index) (endTime config index)
    constructor
    · intro valid
      exact times.mp ⟨valid.completed, valid.failed, valid.timestamps⟩
    · intro ordered
      obtain ⟨whenCompleted, whenFailed, whenUpdated⟩ := times.mpr ordered
      refine ⟨known, isMoney_ofCents cents, not_le.mp positive, currencies source sourceListed, ?_,
        isVarchar_reference (by decide) (by decide) short small, ?_,
        transactionRow_target targets sourceListed distinct index channel _ _ _,
        transactionRow_status index source target channel _ _ _, whenCompleted, whenFailed,
        whenUpdated⟩
      · intro text member
        change text ∈ (transactionRow config index source target channel
          (Decimal.ofCents (draws.amount index).1) (startTime config index)
          (endTime config index)).partnerReference at member
        rw [reference] at member
        split at member
        · cases member
        · cases member
          exact isVarchar_reference (by decide) (by decide) short small
      · intro code member
        simp only [transactionRow] at member
        split at member
        · cases member
          decide
        · cases member

end

end Generators
