import PaymentsPlatform.Generators.Lifecycles

/-!
# Generated data loads

A dataset of an accepted configuration satisfies every constraint of the tables, whatever is drawn,
for all numbers of records, exactly when the clock of the zone of the base time is not set forward
between two readings that a check compares: `generated_loads_iff`.
-/

namespace Generators

open Python Payments Collections

/-! ## Completed transactions -/

/-- How many transactions before an index are completed. -/
def completedBefore (index : Nat) : Nat := 3 * (index / 5) + (index % 5 - 2)

/-- The indexes of completed transactions. -/
def completedIndexes (count : Nat) : List Nat :=
  (List.range count).filter fun index => 2 ≤ index % 5

/-- There are as many as were counted. -/
theorem completedIndexes_length (count : Nat) :
    (completedIndexes count).length = completedBefore count := by
  induction count with
  | zero => rfl
  | succ count ih =>
    unfold completedIndexes completedBefore at *
    rw [List.range_succ, List.filter_append, List.length_append, ih]
    by_cases completed : 2 ≤ count % 5
    · rw [List.filter_cons_of_pos (by simpa using completed)]
      simp only [List.filter_nil, List.length_singleton]
      omega
    · rw [List.filter_cons_of_neg (by simpa using completed)]
      simp only [List.filter_nil, List.length_nil]
      omega

/-- The place of a completed transaction is the number of those before it. -/
theorem completedIndexes_zipIdx (count : Nat) :
    (completedIndexes count).zipIdx =
      (completedIndexes count).map fun index => (index, completedBefore index) := by
  induction count with
  | zero => rfl
  | succ count ih =>
    have step : completedIndexes (count + 1) =
        completedIndexes count ++ [count].filter fun index => 2 ≤ index % 5 := by
      unfold completedIndexes
      rw [List.range_succ, List.filter_append]
    rw [step, List.zipIdx_append, ih, List.map_append, completedIndexes_length, Nat.zero_add]
    by_cases completed : 2 ≤ count % 5
    · rw [List.filter_cons_of_pos (by simpa using completed)]
      rfl
    · rw [List.filter_cons_of_neg (by simpa using completed)]
      rfl

/-! ## Names -/

/-- The names of the keys of a dataset. -/
def generatedNames (config : GeneratorConfig) : List PyStr :=
  let customers := List.range config.customers.toNat
  let merchants := List.range config.merchants.toNat
  let transactions := List.range config.transactions.toNat
  customers.map (stableName config.seed "customer") ++
    customers.map (stableName config.seed "account") ++
    merchants.map (stableName config.seed "merchant") ++
    transactions.map (stableName config.seed "transaction") ++
    (transactions.flatMap fun index => (List.range 3).map
      (stableName config.seed (py "transaction-event-" ++ natText index))) ++
    transactions.map (stableName config.seed "refund")

/-- `uuid5` tells the names of the keys apart. -/
def DistinctNames (config : GeneratorConfig) : Prop :=
  ∀ one ∈ generatedNames config, ∀ two ∈ generatedNames config,
    uuid5 generatorNamespace one = uuid5 generatorNamespace two → one = two

/-- What is assumed of a configuration: it is accepted, its zone and its seed are the given ones,
no time is behind the calendar, and `uuid5` tells its names apart. -/
structure Usable (config : GeneratorConfig) (zone : Zone) : Prop where
  /-- `__post_init__` accepts it. -/
  accepted : config.postInit = .ok ()
  /-- The zone of the base time. -/
  zone : config.baseTime.zone = some zone
  /-- The seed has few digits. -/
  seed : (paddedInt 6 config.seed).length ≤ 22
  /-- The times are inside the calendar. -/
  calendar : InCalendar config
  /-- The keys are told apart. -/
  distinct : DistinctNames config

/-- The clock is not set forward between two readings that a check compares. -/
structure ClockOrdered (config : GeneratorConfig) (zone : Zone) : Prop where
  /-- The readings of transactions and their events. -/
  events : ∀ index < config.transactions.toNat, EventsOrdered config zone index
  /-- The readings of completed refunds. -/
  refunds : ∀ index < config.transactions.toNat, index % 10 = 2 →
    Ordered zone (refundTime config index) (refundTime config index + 10 * second)

section

variable {config : GeneratorConfig} {zone : Zone}

/-- The counts of an accepted configuration. -/
theorem counts_of_accepted (accepted : config.postInit = .ok ()) :
    1 ≤ config.customers ∧ 1 ≤ config.merchants ∧ 1 ≤ config.transactions ∧
      (∃ value, config.invalidRate = .finite value) ∧
      ∃ value, config.duplicateRate = .finite value := by
  have count : ∀ name value, checkCount name value = .ok () → 1 ≤ value := by
    intro name value checked
    unfold checkCount at checked
    split at checked
    · cases checked
    · omega
  have rate : ∀ name rate, checkRate name rate = .ok () → ∃ value, rate = .finite value := by
    intro name rate checked
    cases rate with
    | finite value => exact ⟨value, rfl⟩
    | special => cases checked
  unfold GeneratorConfig.postInit at accepted
  obtain ⟨_, customers, accepted⟩ := bind_eq_ok.mp accepted
  obtain ⟨_, merchants, accepted⟩ := bind_eq_ok.mp accepted
  obtain ⟨_, transactions, accepted⟩ := bind_eq_ok.mp accepted
  obtain ⟨_, invalid, accepted⟩ := bind_eq_ok.mp accepted
  obtain ⟨_, duplicate, accepted⟩ := bind_eq_ok.mp accepted
  exact ⟨count _ _ customers, count _ _ merchants, count _ _ transactions, rate _ _ invalid,
    rate _ _ duplicate⟩

/-- Keys of one kind are told apart. -/
theorem stableUuid_injective (distinct : DistinctNames config) {entity : PyStr} {count : Nat}
    (named : ∀ index < count, stableName config.seed entity index ∈ generatedNames config) :
    ∀ one ∈ List.range count, ∀ two ∈ List.range count,
      stableUuid config.seed entity one = stableUuid config.seed entity two → one = two := by
  intro one first two second same
  exact stableName_injective (distinct _ (named one (List.mem_range.mp first)) _
    (named two (List.mem_range.mp second)) same)

/-- The names of one kind are names of the dataset. -/
theorem named (config : GeneratorConfig) :
    (∀ index < config.customers.toNat,
      stableName config.seed "customer" index ∈ generatedNames config) ∧
    (∀ index < config.customers.toNat,
      stableName config.seed "account" index ∈ generatedNames config) ∧
    (∀ index < config.merchants.toNat,
      stableName config.seed "merchant" index ∈ generatedNames config) ∧
    (∀ index < config.transactions.toNat,
      stableName config.seed "transaction" index ∈ generatedNames config) ∧
    (∀ index < config.transactions.toNat, ∀ sequence < 3,
      stableName config.seed (py "transaction-event-" ++ natText index) sequence ∈
        generatedNames config) ∧
    ∀ index < config.transactions.toNat,
      stableName config.seed "refund" index ∈ generatedNames config := by
  have listed : ∀ {count index : Nat} (entity : PyStr), index < count →
      stableName config.seed entity index ∈
        (List.range count).map (stableName config.seed entity) :=
    fun _ inside => List.mem_map_of_mem (List.mem_range.mpr inside)
  simp only [generatedNames, List.mem_append]
  refine ⟨?_, ?_, ?_, ?_, ?_, ?_⟩
  · intro index inside
    simp only [listed _ inside, true_or]
  · intro index inside
    simp only [listed _ inside, true_or, or_true]
  · intro index inside
    simp only [listed _ inside, true_or, or_true]
  · intro index inside
    simp only [listed _ inside, true_or, or_true]
  · intro index inside sequence few
    refine Or.inl (Or.inr (List.mem_flatMap.mpr ⟨index, List.mem_range.mpr inside, ?_⟩))
    exact listed _ few
  · intro index inside
    simp only [listed _ inside, or_true]

/-! ## Parts of the dataset -/

/-- The generated customers. -/
theorem generateCustomers_ok (draws : Draws) (usable : Usable config zone) :
    ∃ customers, generateCustomers config draws = .ok customers ∧
      List.Forall₂ (CustomerFacts config zone) (List.range config.customers.toNat) customers :=
  mapM_related fun _ member =>
    customerAt_ok draws zone usable.calendar usable.seed (List.mem_range.mp member)

/-- The generated accounts. -/
theorem generateAccounts_ok (draws : Draws) (usable : Usable config zone)
    {customers : List Customer}
    (each : List.Forall₂ (CustomerFacts config zone) (List.range config.customers.toNat)
      customers) :
    ∃ accounts, generateAccounts config draws customers = .ok accounts ∧
      List.Forall₂ (AccountFacts config zone) (List.range config.customers.toNat) accounts := by
  obtain ⟨accounts, generated, related⟩ : ∃ accounts,
      generateAccounts config draws customers = .ok accounts ∧
        List.Forall₂ (fun item row => AccountFacts config zone item.2 row) customers.zipIdx
          accounts := by
    refine mapM_related fun item member => ?_
    obtain ⟨inside, facts⟩ := related_of_mem_zipIdx each member
    exact accountAt_ok draws usable.calendar usable.seed inside facts
  refine ⟨accounts, generated, ?_⟩
  have indexes : customers.zipIdx.map Prod.snd = List.range config.customers.toNat := by
    rw [List.zipIdx_map_snd, ← each.length_eq, List.length_range, List.range_eq_range']
  rw [← indexes]
  exact List.forall₂_map_left_iff.mpr related

/-- The generated merchants. -/
theorem generateMerchants_ok (draws : Draws) (usable : Usable config zone) :
    ∃ merchants, generateMerchants config draws = .ok merchants ∧
      List.Forall₂ (MerchantFacts config zone) (List.range config.merchants.toNat) merchants :=
  mapM_related fun _ member =>
    merchantAt_ok draws zone usable.calendar usable.seed (List.mem_range.mp member)

/-- A transaction of an index, with its events. -/
structure PairFacts (config : GeneratorConfig) (zone : Zone) (accounts : List Account)
    (merchants : List Merchant) (index : Nat)
    (pair : PaymentTransaction × List TransactionEvent) : Prop where
  /-- The index is one of the dataset. -/
  inside : index < config.transactions.toNat
  /-- The transaction. -/
  transaction : TransactionFacts config zone accounts merchants index pair.1
  /-- The events. -/
  events : EventsFacts config zone index pair.2

/-- The generated transactions, with their events. -/
theorem generateTransactions_ok (draws : Draws) (usable : Usable config zone)
    {accounts : List Account} {merchants : List Merchant} (payer : accounts ≠ [])
    (currencies : ∀ account ∈ accounts, account.currency ∈ currencyCodes)
    (distinct : (accounts.map (·.accountId)).Nodup) (payee : merchants ≠ []) :
    ∃ pairs, generateTransactions config draws accounts merchants =
        .ok (pairs.map Prod.fst, pairs.flatMap Prod.snd) ∧
      List.Forall₂ (PairFacts config zone accounts merchants)
        (List.range config.transactions.toNat) pairs := by
  obtain ⟨pairs, generated, related⟩ : ∃ pairs,
      ((List.range config.transactions.toNat).mapM fun index => do
        let transaction ← transactionAt config draws accounts merchants index
        let events ← eventsForTransaction config transaction index
        return (transaction, events) : Except GeneratorError _) = .ok pairs ∧
      List.Forall₂ (PairFacts config zone accounts merchants)
        (List.range config.transactions.toNat) pairs := by
    refine mapM_related fun index member => ?_
    have inside := List.mem_range.mp member
    obtain ⟨transaction, made, facts⟩ := @transactionAt_ok config draws zone usable.calendar
      usable.seed accounts merchants payer currencies distinct payee index inside
    obtain ⟨events, produced, lifecycle⟩ := eventsForTransaction_ok facts usable.calendar inside
    exact ⟨(transaction, events), (bind_ok made _).trans ((bind_ok produced _).trans rfl), inside,
      facts, lifecycle⟩
  exact ⟨pairs, (bind_ok generated _).trans rfl, related⟩

/-- The completed transactions that are refunded, each with the index of its refund. -/
def refunded (transactions : List PaymentTransaction) : List (PaymentTransaction × Nat) :=
  (transactions.filter fun transaction => transaction.status = .completed).zipIdx.filter
    fun item => item.2 % 3 = 0

/-- What is known of a transaction that is refunded, by its index and the index of its refund. -/
structure RefundedFacts (config : GeneratorConfig) (zone : Zone) (accounts : List Account)
    (merchants : List Merchant) (index refundIndex : Nat) (transaction : PaymentTransaction) :
    Prop where
  /-- The index is one of the dataset. -/
  inside : index < config.transactions.toNat
  /-- It is the first completed one of five transactions. -/
  third : index % 5 = 2
  /-- The index of the refund counts the completed transactions before. -/
  count : refundIndex = completedBefore index
  /-- The transaction. -/
  facts : TransactionFacts config zone accounts merchants index transaction

variable {accounts : List Account} {merchants : List Merchant}
  {transactions : List PaymentTransaction}

/-- The completed transactions and their indexes. -/
theorem completed_related
    (each : List.Forall₂ (TransactionFacts config zone accounts merchants)
      (List.range config.transactions.toNat) transactions) :
    List.Forall₂ (fun item result =>
        TransactionFacts config zone accounts merchants item.1 result.1 ∧ item.2 = result.2)
      ((completedIndexes config.transactions.toNat).map fun index =>
        (index, completedBefore index))
      (transactions.filter fun transaction => transaction.status = .completed).zipIdx := by
  have filtered : List.Forall₂ (TransactionFacts config zone accounts merchants)
      (completedIndexes config.transactions.toNat)
      (transactions.filter fun transaction => transaction.status = .completed) := by
    refine List.rel_filter ?_ each
    intro index transaction facts
    simp only [decide_eq_true_eq]
    rw [facts.status, transactionStatus_completed]
  rw [← completedIndexes_zipIdx]
  exact related_zipIdx filtered 0

/-- A transaction that is refunded. -/
theorem refunded_facts
    (each : List.Forall₂ (TransactionFacts config zone accounts merchants)
      (List.range config.transactions.toNat) transactions)
    {item : PaymentTransaction × Nat} (member : item ∈ refunded transactions) :
    item.1 ∈ transactions ∧
      ∃ index, RefundedFacts config zone accounts merchants index item.2 item.1 := by
  obtain ⟨listed, third⟩ := List.mem_filter.mp member
  rw [decide_eq_true_eq] at third
  obtain ⟨indexed, inside, facts, place⟩ := related_source (completed_related each) listed
  obtain ⟨index, completed, rfl⟩ := List.mem_map.mp inside
  obtain ⟨ranged, high⟩ := List.mem_filter.mp completed
  rw [decide_eq_true_eq] at high
  refine ⟨(List.mem_filter.mp (List.fst_mem_of_mem_zipIdx listed)).1, index,
    List.mem_range.mp ranged, ?_, place.symm, facts⟩
  simp only [completedBefore] at place
  omega

/-- The refund of a transaction is completed when the index of the transaction ends in two. -/
theorem RefundedFacts.parity {index refundIndex : Nat} {transaction : PaymentTransaction}
    (facts : RefundedFacts config zone accounts merchants index refundIndex transaction) :
    refundIndex % 2 = 0 ↔ index % 10 = 2 := by
  have third := facts.third
  rw [facts.count, completedBefore]
  omega

/-- Every tenth transaction from the third one has a completed refund. -/
theorem refunded_of_index
    (each : List.Forall₂ (TransactionFacts config zone accounts merchants)
      (List.range config.transactions.toNat) transactions) {index : Nat}
    (inside : index < config.transactions.toNat) (third : index % 10 = 2) :
    ∃ item ∈ refunded transactions, TransactionFacts config zone accounts merchants index item.1 ∧
      item.2 = completedBefore index := by
  have listed : (index, completedBefore index) ∈
      (completedIndexes config.transactions.toNat).map fun index =>
        (index, completedBefore index) := by
    refine List.mem_map_of_mem (List.mem_filter.mpr ⟨List.mem_range.mpr inside, ?_⟩)
    rw [decide_eq_true_eq]
    omega
  obtain ⟨item, member, facts, place⟩ := related_image (completed_related each) listed
  refine ⟨item, List.mem_filter.mpr ⟨member, ?_⟩, facts, place.symm⟩
  rw [decide_eq_true_eq, ← place]
  simp only [completedBefore]
  omega

/-- The generated refunds. -/
theorem generateRefunds_ok (usable : Usable config zone)
    (currencies : ∀ account ∈ accounts, account.currency ∈ currencyCodes)
    (each : List.Forall₂ (TransactionFacts config zone accounts merchants)
      (List.range config.transactions.toNat) transactions) :
    ∃ refunds, generateRefunds config transactions = .ok refunds ∧
      List.Forall₂ (fun item row => ∃ index,
          RefundedFacts config zone accounts merchants index item.2 item.1 ∧
            RefundFacts config zone item.1 index item.2 row) (refunded transactions) refunds := by
  refine mapM_related fun item member => ?_
  obtain ⟨-, index, facts⟩ := refunded_facts each member
  have late : index * minute + (startTime config index - index * minute + 5 * second) <
      calendarEnd := by
    have last := usable.calendar.transactions index facts.inside
    have gap := startTime_add_le config index (Nat.le_refl (5 * second))
    have parts : startTime config index = config.baseTime.wall +
        (index * 3 * minute + (config.seed % 60).toNat * second) := rfl
    have third : index * 3 * minute = index * minute + index * 2 * minute := by ring
    omega
  have small := index_small late
  have fewer : item.2 < 10 ^ 10 := by
    rw [facts.count, completedBefore]
    omega
  obtain ⟨row, made, known⟩ := refundAt_ok facts.facts currencies usable.calendar usable.seed
    facts.inside facts.third fewer facts.parity.mp
  exact ⟨row, made, index, facts, known⟩

/-! ## Keys -/

/-- The keys of customers. -/
theorem customerKeys_nodup (usable : Usable config zone) {customers : List Customer}
    (each : List.Forall₂ (CustomerFacts config zone) (List.range config.customers.toNat)
      customers) :
    (customers.map (·.customerId)).Nodup ∧ (customers.map (·.externalCustomerRef)).Nodup :=
  ⟨related_nodup each List.nodup_range (fun _ _ facts => facts.id)
      (stableUuid_injective usable.distinct (named config).1),
    related_nodup each List.nodup_range (fun _ _ facts => facts.reference)
      fun _ _ _ _ same => padded_injective (by decide) (List.append_cancel_left same)⟩

/-- The keys of accounts. -/
theorem accountKeys_nodup (usable : Usable config zone)
    (each : List.Forall₂ (AccountFacts config zone) (List.range config.customers.toNat) accounts) :
    (accounts.map (·.accountId)).Nodup ∧ (accounts.map (·.accountNumber)).Nodup :=
  ⟨related_nodup each List.nodup_range (fun _ _ facts => facts.id)
      (stableUuid_injective usable.distinct (named config).2.1),
    related_nodup each List.nodup_range (fun _ _ facts => facts.number)
      fun _ _ _ _ same => padded_injective (by decide) (List.append_cancel_left same)⟩

/-- The keys of merchants. -/
theorem merchantKeys_nodup (usable : Usable config zone)
    (each : List.Forall₂ (MerchantFacts config zone) (List.range config.merchants.toNat)
      merchants) :
    (merchants.map (·.merchantId)).Nodup ∧ (merchants.map (·.merchantCode)).Nodup ∧
      (merchants.map (·.externalReference)).Nodup :=
  ⟨related_nodup each List.nodup_range (fun _ _ facts => facts.id)
      (stableUuid_injective usable.distinct (named config).2.2.1),
    related_nodup each List.nodup_range (fun _ _ facts => facts.code)
      fun _ _ _ _ same => padded_injective (by decide) (List.append_cancel_left same),
    related_nodup each List.nodup_range (fun _ _ facts => facts.reference)
      fun _ _ _ _ same => padded_injective (by decide) (List.append_cancel_left same)⟩

/-- References that some indexes have. -/
theorem nodup_references {indexes : List Nat} (distinct : indexes.Nodup) {start : PyStr}
    {width : Nat} (positive : 0 < width) (has : Nat → Bool) :
    (indexes.filterMap fun index =>
      if has index then some (start ++ padded width index) else none).Nodup := by
  refine List.Nodup.filterMap ?_ distinct
  intro one two text first second
  by_cases left : has one
  · by_cases right : has two
    · rw [if_pos left, Option.mem_some_iff] at first
      rw [if_pos right, Option.mem_some_iff] at second
      exact padded_injective positive (List.append_cancel_left (first.trans second.symm))
    · rw [if_neg right] at second
      cases second
  · rw [if_neg left] at first
    cases first

/-- The keys of transactions. -/
theorem transactionKeys_nodup (usable : Usable config zone)
    (each : List.Forall₂ (TransactionFacts config zone accounts merchants)
      (List.range config.transactions.toNat) transactions) :
    (transactions.map (·.transactionId)).Nodup ∧
      (transactions.filterMap (·.partnerReference)).Nodup ∧
      (transactions.map (·.idempotencyKey)).Nodup := by
  refine ⟨related_nodup each List.nodup_range (fun _ _ facts => facts.id)
      (stableUuid_injective usable.distinct (named config).2.2.2.1), ?_,
    related_nodup each List.nodup_range (fun _ _ facts => facts.key)
      fun _ _ _ _ same => padded_injective (by decide) (List.append_cancel_left same)⟩
  rw [related_filterMap each fun _ _ facts => facts.reference]
  have references := @nodup_references _ (List.nodup_range (n := config.transactions.toNat))
    (py "PTR-" ++ intText config.seed ++ py "-") 8 (by decide) fun index => index % 5 ≠ 0
  refine (congrArg List.Nodup (List.filterMap_congr fun index _ => ?_)).mp references
  by_cases pending : index % 5 = 0
  · simp [pending]
  · simp [pending]

/-- The keys of refunds, and one refund for a transaction at most. -/
theorem refundKeys_nodup (usable : Usable config zone)
    (each : List.Forall₂ (TransactionFacts config zone accounts merchants)
      (List.range config.transactions.toNat) transactions) {refunds : List Refund}
    (related : List.Forall₂ (fun item row => ∃ index,
        RefundedFacts config zone accounts merchants index item.2 item.1 ∧
          RefundFacts config zone item.1 index item.2 row) (refunded transactions) refunds) :
    (refunds.map (·.refundId)).Nodup ∧ (refunds.filterMap (·.partnerReference)).Nodup ∧
      (refunds.map (·.transactionId)).Nodup := by
  have places : ((refunded transactions).map Prod.snd).Nodup := by
    refine List.Nodup.sublist (List.filter_sublist.map _) ?_
    rw [List.zipIdx_map_snd]
    exact List.nodup_range'
  have small : ∀ place ∈ (refunded transactions).map Prod.snd,
      place < config.transactions.toNat := by
    intro place member
    obtain ⟨item, inside, rfl⟩ := List.mem_map.mp member
    obtain ⟨-, index, facts⟩ := refunded_facts each inside
    have before := facts.inside
    rw [facts.count, completedBefore]
    omega
  refine ⟨?_, ?_, ?_⟩
  · rw [related_map related fun _ _ facts => facts.elim fun _ both => both.2.id]
    have keys := places.map_on (f := stableUuid config.seed "refund") (by
      intro one first two second same
      exact stableUuid_injective usable.distinct (named config).2.2.2.2.2 one
        (List.mem_range.mpr (small one first)) two (List.mem_range.mpr (small two second)) same)
    rwa [List.map_map] at keys
  · rw [related_filterMap related fun _ _ facts => facts.elim fun _ both => both.2.reference]
    have references := @nodup_references _ places (py "RPR-" ++ intText config.seed ++ py "-") 8
      (by decide) fun place => place % 2 = 0
    rw [List.filterMap_map] at references
    refine (congrArg List.Nodup (List.filterMap_congr fun item _ => ?_)).mp references
    simp
  · rw [related_map related fun _ _ facts => facts.elim fun _ both => both.2.belongs]
    have part : ((refunded transactions).map Prod.fst).Sublist transactions := by
      refine List.Sublist.trans (List.filter_sublist.map _) ?_
      rw [List.zipIdx_map_fst]
      exact List.filter_sublist
    have keys := (part.map (·.transactionId)).nodup (transactionKeys_nodup usable each).1
    rwa [List.map_map] at keys

variable {pairs : List (PaymentTransaction × List TransactionEvent)}

/-- The transactions of the pairs. -/
theorem transactions_related
    (each : List.Forall₂ (PairFacts config zone accounts merchants)
      (List.range config.transactions.toNat) pairs) :
    List.Forall₂ (TransactionFacts config zone accounts merchants)
      (List.range config.transactions.toNat) (pairs.map Prod.fst) :=
  List.forall₂_map_right_iff.mpr (each.imp fun _ _ facts => facts.transaction)

/-- What events are told apart by, when it tells those of one transaction apart and those of
different ones. -/
theorem nodup_events {γ : Type} {read : TransactionEvent → γ}
    (each : List.Forall₂ (PairFacts config zone accounts merchants)
      (List.range config.transactions.toNat) pairs)
    (own : ∀ index pair, PairFacts config zone accounts merchants index pair →
      (pair.2.map read).Nodup)
    (apart : ∀ one two left right, one ≠ two → PairFacts config zone accounts merchants one left →
      PairFacts config zone accounts merchants two right →
      ∀ first ∈ left.2, ∀ second ∈ right.2, read first ≠ read second) :
    ((pairs.flatMap Prod.snd).map read).Nodup := by
  rw [List.map_flatMap, List.nodup_flatMap]
  constructor
  · intro pair member
    obtain ⟨index, -, facts⟩ := related_source each member
    exact own index pair facts
  · refine (related_pairwise each List.nodup_range).imp ?_
    rintro left right ⟨one, -, two, -, different, first, second⟩
    intro value here there
    obtain ⟨event, inLeft, rfl⟩ := List.mem_map.mp here
    obtain ⟨other, inRight, same⟩ := List.mem_map.mp there
    exact apart one two left right different first second event inLeft other inRight same.symm

/-- The number of an event among those of its transaction. -/
theorem eventId_of_mem {index : Nat} {events : List TransactionEvent}
    (facts : EventsFacts config zone index events) {event : TransactionEvent}
    (member : event ∈ events) : ∃ sequence < 3, event.eventId =
      stableUuid config.seed (py "transaction-event-" ++ natText index) sequence := by
  have listed : event.eventId ∈ events.map (·.eventId) := List.mem_map_of_mem member
  rw [facts.ids] at listed
  obtain ⟨sequence, inside, same⟩ := List.mem_map.mp listed
  have few := facts.few
  have before := List.mem_range.mp inside
  exact ⟨sequence, by omega, same.symm⟩

/-- The keys of events. -/
theorem eventKeys_nodup (usable : Usable config zone)
    (each : List.Forall₂ (PairFacts config zone accounts merchants)
      (List.range config.transactions.toNat) pairs) :
    ((pairs.flatMap Prod.snd).map (·.eventId)).Nodup ∧
      ((pairs.flatMap Prod.snd).map fun row => (row.transactionId, row.eventVersion)).Nodup := by
  obtain ⟨-, -, -, transactionNames, eventNames, -⟩ := named config
  constructor
  · refine nodup_events each ?_ ?_
    · intro index pair facts
      rw [facts.events.ids]
      refine List.nodup_range.map_on ?_
      intro one first two second same
      have few := facts.events.few
      have low := List.mem_range.mp first
      have low' := List.mem_range.mp second
      exact (eventName_injective (usable.distinct _ (eventNames index facts.inside one (by omega)) _
        (eventNames index facts.inside two (by omega)) same)).2
    · intro one two left right different first second event inLeft other inRight same
      obtain ⟨sequence, few, id⟩ := eventId_of_mem first.events inLeft
      obtain ⟨sequence', few', id'⟩ := eventId_of_mem second.events inRight
      rw [id, id'] at same
      exact different (eventName_injective (usable.distinct _
        (eventNames one first.inside sequence few) _
        (eventNames two second.inside sequence' few') same)).1
  · refine nodup_events each ?_ ?_
    · intro index pair facts
      have versions : (pair.2.map (·.eventVersion)).Nodup := by
        rw [facts.events.versions]
        exact List.nodup_range.map fun one two same => Nat.succ.inj same
      refine List.Nodup.of_map Prod.snd ?_
      rw [List.map_map]
      exact versions
    · intro one two left right different first second event inLeft other inRight same
      have ids := congrArg Prod.fst same
      simp only at ids
      rw [first.events.transaction event inLeft, second.events.transaction other inRight] at ids
      exact different (stableUuid_injective usable.distinct transactionNames one
        (List.mem_range.mpr first.inside) two (List.mem_range.mpr second.inside) ids)

/-- The events of a transaction are those made for it. -/
theorem eventsOf_pair (usable : Usable config zone)
    (each : List.Forall₂ (PairFacts config zone accounts merchants)
      (List.range config.transactions.toNat) pairs)
    {pair : PaymentTransaction × List TransactionEvent} (member : pair ∈ pairs) :
    (pairs.flatMap Prod.snd).filter (fun event => event.transactionId = pair.1.transactionId) =
      pair.2 := by
  have keys := (transactionKeys_nodup usable (transactions_related each)).1
  rw [List.map_map] at keys
  refine @filter_flatMap_of_key _ _ _ _ pairs Prod.snd (fun pair => pair.1.transactionId)
    (·.transactionId) keys ?_ pair member
  intro other inside event listed
  obtain ⟨index, -, facts⟩ := related_source each inside
  rw [facts.events.transaction event listed, facts.transaction.id]

/-! ## The dataset -/

/-- The transactions and events of a dataset meet their checks exactly when the clock is not set
forward between the readings they compare. -/
theorem transactions_load_iff (usable : Usable config zone) {dataset : GeneratedDataset}
    (each : List.Forall₂ (PairFacts config zone accounts merchants)
      (List.range config.transactions.toNat) pairs)
    (transactionsAre : dataset.transactions = pairs.map Prod.fst)
    (eventsAre : dataset.events = pairs.flatMap Prod.snd) :
    ((∀ row ∈ dataset.transactions, TransactionValid zone row) ∧
      (∀ row ∈ dataset.events, EventValid zone row) ∧
      ∀ row ∈ dataset.transactions, Lifecycle zone row.status (dataset.eventsOf row)) ↔
      ∀ index < config.transactions.toNat, EventsOrdered config zone index := by
  have eventsOf : ∀ pair ∈ pairs, dataset.eventsOf pair.1 = pair.2 := by
    intro pair member
    rw [GeneratedDataset.eventsOf, eventsAre]
    exact eventsOf_pair usable each member
  rw [transactionsAre, eventsAre]
  constructor
  · rintro ⟨-, events, lifecycles⟩ index inside
    obtain ⟨pair, member, facts⟩ := related_image each (List.mem_range.mpr inside)
    refine facts.events.valid.mp ⟨fun event listed => ?_, ?_⟩
    · exact events event (List.mem_flatMap.mpr ⟨pair, member, listed⟩)
    · have cycle := lifecycles pair.1 (List.mem_map_of_mem member)
      rwa [eventsOf pair member, facts.transaction.status] at cycle
  · intro ordered
    refine ⟨?_, ?_, ?_⟩
    · intro row member
      obtain ⟨pair, listed, rfl⟩ := List.mem_map.mp member
      obtain ⟨index, -, facts⟩ := related_source each listed
      exact facts.transaction.valid.mpr fun past => ((ordered index facts.inside).ended past).1
    · intro event member
      obtain ⟨pair, listed, inside⟩ := List.mem_flatMap.mp member
      obtain ⟨index, -, facts⟩ := related_source each listed
      exact (facts.events.valid.mpr (ordered index facts.inside)).1 event inside
    · intro row member
      obtain ⟨pair, listed, rfl⟩ := List.mem_map.mp member
      obtain ⟨index, -, facts⟩ := related_source each listed
      rw [eventsOf pair listed, facts.transaction.status]
      exact (facts.events.valid.mpr (ordered index facts.inside)).2

/-- The refunds of a dataset meet their checks exactly when the clock is not set forward between
the readings they compare. -/
theorem refunds_load_iff
    (each : List.Forall₂ (TransactionFacts config zone accounts merchants)
      (List.range config.transactions.toNat) transactions) {refunds : List Refund}
    (related : List.Forall₂ (fun item row => ∃ index,
        RefundedFacts config zone accounts merchants index item.2 item.1 ∧
          RefundFacts config zone item.1 index item.2 row) (refunded transactions) refunds) :
    (∀ row ∈ refunds, RefundValid zone row) ↔
      ∀ index < config.transactions.toNat, index % 10 = 2 →
        Ordered zone (refundTime config index) (refundTime config index + 10 * second) := by
  constructor
  · intro valid index inside third
    obtain ⟨item, member, -, place⟩ := refunded_of_index each inside third
    obtain ⟨row, listed, index', facts, known⟩ := related_image related member
    have same : index' = index := by
      have count := facts.count
      have third' := facts.third
      rw [place] at count
      unfold completedBefore at count
      omega
    rw [← same]
    exact known.valid.mp (valid row listed) (facts.parity.mpr (by omega))
  · intro ordered row member
    obtain ⟨item, listed, index, facts, known⟩ := related_source related member
    exact known.valid.mpr fun even => ordered index facts.inside (facts.parity.mp even)

/-- A related list is as long as the items. -/
theorem ne_nil_of_related {β : Type} {related : Nat → β → Prop} {count : Int} {rows : List β}
    (each : List.Forall₂ related (List.range count.toNat) rows) (positive : 1 ≤ count) :
    rows ≠ [] := by
  rintro rfl
  have lengths := each.length_eq
  rw [List.length_range, List.length_nil] at lengths
  omega

/-- What transactions refer to. -/
theorem transactionReferences {customers : List Customer}
    (each : List.Forall₂ (TransactionFacts config zone accounts merchants)
      (List.range config.transactions.toNat) transactions)
    (known : ∀ row ∈ accounts, row.customerId ∈ customers.map (·.customerId)) :
    ∀ row ∈ transactions,
      (∃ source ∈ accounts, source.accountId = row.accountId ∧
        source.customerId = row.customerId ∧ source.currency = row.currency) ∧
      row.customerId ∈ customers.map (·.customerId) ∧
      (∀ destinationId ∈ row.destinationAccountId, ∃ destination ∈ accounts,
        destination.accountId = destinationId ∧ destination.currency = row.currency) ∧
      ∀ merchantId ∈ row.merchantId, merchantId ∈ merchants.map (·.merchantId) := by
  intro row member
  obtain ⟨index, -, facts⟩ := related_source each member
  obtain ⟨source, listed, account, customer, currency⟩ := facts.source
  refine ⟨⟨source, listed, account, customer, currency⟩, ?_, facts.destination, facts.merchant⟩
  rw [← customer]
  exact known source listed

/-- The generator returns a dataset, which loads exactly when the clock is not set forward between
the readings that checks compare. -/
theorem generate_ok (draws : Draws) (usable : Usable config zone) :
    ∃ dataset, generate config draws = .ok dataset ∧
      (Loads zone dataset ↔ ClockOrdered config zone) := by
  obtain ⟨customerCount, merchantCount, -, ⟨invalidRate, invalidIs⟩, duplicateRate, duplicateIs⟩ :=
    counts_of_accepted usable.accepted
  obtain ⟨customers, customersMade, customerFacts⟩ := generateCustomers_ok draws usable
  obtain ⟨accounts, accountsMade, accountFacts⟩ := generateAccounts_ok draws usable customerFacts
  obtain ⟨merchants, merchantsMade, merchantFacts⟩ := generateMerchants_ok draws usable
  have currencies : ∀ account ∈ accounts, account.currency ∈ currencyCodes := by
    intro account member
    obtain ⟨index, -, facts⟩ := related_source accountFacts member
    exact facts.valid.currency
  have accountKeys := accountKeys_nodup usable accountFacts
  obtain ⟨pairs, pairsMade, pairFacts⟩ := generateTransactions_ok draws usable
    (ne_nil_of_related accountFacts customerCount) currencies accountKeys.1
    (ne_nil_of_related merchantFacts merchantCount)
  have transactionFacts := transactions_related pairFacts
  obtain ⟨refunds, refundsMade, refundFacts⟩ :=
    generateRefunds_ok usable currencies transactionFacts
  obtain ⟨invalid, invalidMade⟩ : ∃ count, config.probeCount config.invalidRate = .ok count := by
    rw [invalidIs, GeneratorConfig.probeCount]
    split <;> exact ⟨_, rfl⟩
  obtain ⟨duplicate, duplicateMade⟩ :
      ∃ count, config.probeCount config.duplicateRate = .ok count := by
    rw [duplicateIs, GeneratorConfig.probeCount]
    split <;> exact ⟨_, rfl⟩
  refine ⟨⟨customers, accounts, merchants, pairs.map Prod.fst, pairs.flatMap Prod.snd, refunds,
    invalid, duplicate⟩, (bind_ok customersMade _).trans ((bind_ok accountsMade _).trans
    ((bind_ok merchantsMade _).trans ((bind_ok pairsMade _).trans ((bind_ok refundsMade _).trans
    ((bind_ok invalidMade _).trans ((bind_ok duplicateMade _).trans rfl)))))), ?_⟩
  have transactionsLoad := @transactions_load_iff config zone accounts merchants pairs usable
    ⟨customers, accounts, merchants, pairs.map Prod.fst, pairs.flatMap Prod.snd, refunds, invalid,
      duplicate⟩ pairFacts rfl rfl
  have refundsLoad := refunds_load_iff transactionFacts refundFacts
  constructor
  · intro loads
    exact ⟨transactionsLoad.mp ⟨loads.transactions, loads.events, loads.lifecycles⟩,
      refundsLoad.mp loads.refunds⟩
  · intro ordered
    obtain ⟨transactionsValid, eventsValid, lifecycles⟩ := transactionsLoad.mpr ordered.events
    have known : ∀ row ∈ accounts, row.customerId ∈ customers.map (·.customerId) := by
      intro row member
      obtain ⟨index, inside, facts⟩ := related_source accountFacts member
      obtain ⟨customer, listed, owner⟩ := related_image customerFacts inside
      rw [facts.customer, ← owner.id]
      exact List.mem_map_of_mem listed
    refine {
      customers := ?_
      customerKeys := customerKeys_nodup usable customerFacts
      accounts := ?_
      accountKeys := accountKeys
      accountCustomers := known
      merchants := ?_
      merchantKeys := merchantKeys_nodup usable merchantFacts
      transactions := transactionsValid
      transactionKeys := transactionKeys_nodup usable transactionFacts
      transactionReferences := transactionReferences transactionFacts known
      events := eventsValid
      eventKeys := eventKeys_nodup usable pairFacts
      eventTransactions := ?_
      lifecycles := lifecycles
      refunds := refundsLoad.mpr ordered.refunds
      refundKeys := refundKeys_nodup usable transactionFacts refundFacts
      refundTransactions := ?_ }
    · intro row member
      obtain ⟨index, -, facts⟩ := related_source customerFacts member
      exact facts.valid
    · intro row member
      obtain ⟨index, -, facts⟩ := related_source accountFacts member
      exact facts.valid
    · intro row member
      obtain ⟨index, -, facts⟩ := related_source merchantFacts member
      exact facts.valid
    · intro event member
      obtain ⟨pair, listed, inside⟩ := List.mem_flatMap.mp member
      obtain ⟨index, -, facts⟩ := related_source pairFacts listed
      rw [facts.events.transaction event inside, ← facts.transaction.id]
      exact List.mem_map_of_mem (List.mem_map_of_mem listed)
    · intro row member
      obtain ⟨item, listed, index, -, facts⟩ := related_source refundFacts member
      exact ⟨item.1, (refunded_facts transactionFacts listed).1, facts.belongs.symm, facts.refunds⟩

/-- A clock with a fixed offset is never set forward. -/
theorem clockOrdered_of_fixed (config : GeneratorConfig) (offset : Int) :
    ClockOrdered config fun _ => offset := by
  have ordered : ∀ {earlier later : Nat}, earlier ≤ later →
      Ordered (fun _ => offset) earlier later := by
    intro earlier later before
    simp only [Ordered, utc]
    omega
  have ends : ∀ index, startTime config index ≤ endTime config index :=
    fun _ => Nat.le_add_right _ _
  refine ⟨fun index _ => ⟨ordered (Nat.le_add_right _ _), fun _ => ⟨ordered (ends index),
    ordered (Nat.le_add_right _ _)⟩, fun _ _ => ⟨ordered (Nat.le_add_right _ _),
    ordered (Nat.le_add_right _ _), ordered (startTime_add_le config index (by decide))⟩⟩,
    fun _ _ _ => ordered (Nat.le_add_right _ _)⟩

end

/-- The least of every draw. -/
def leastDraws : Draws where
  firstName _ := ⟨"Alex", by decide⟩
  lastName _ := ⟨"Chen", by decide⟩
  balance _ := ⟨0, by decide⟩
  merchantWord _ := ⟨"Atlas", by decide⟩
  amount _ := ⟨100, by decide⟩

/-- One customer, one merchant and so many transactions from a reading of a clock on. -/
def smallConfig (transactions : Nat) (wall : Nat) (zone : Zone) : GeneratorConfig :=
  ⟨0, 1, 1, transactions, .finite 0, .finite 0, ⟨wall, some zone⟩⟩

/-- The first day of 2026 in UTC. -/
def newYear : GeneratorConfig := smallConfig 3 63902822400000000 fun _ => 0

/-- Small configurations are usable. -/
theorem smallConfig_usable {transactions wall : Nat} {zone : Zone} (positive : 1 ≤ transactions)
    (few : transactions ≤ 3) (early : wall ≤ 64000000000000000)
    (distinct : ((generatedNames (smallConfig transactions wall zone)).map
      (uuid5 generatorNamespace)).Nodup) :
    Usable (smallConfig transactions wall zone) zone := by
  have last : calendarEnd = 315537897600000000 := rfl
  have minutes : minute = 60000000 := rfl
  have seconds : second = 1000000 := rfl
  have tenths : tenth = 100000 := rfl
  have base : (smallConfig transactions wall zone).baseTime.wall = wall := rfl
  have ends : ∀ index < transactions,
      endTime (smallConfig transactions wall zone) index ≤ wall + 1000000000 := by
    intro index inside
    have seed : ((smallConfig transactions wall zone).seed % 60).toNat = 0 := rfl
    rw [endTime, startTime, base, seed, minutes, seconds]
    omega
  have digits : (paddedInt 6 0).length ≤ 22 := by decide
  refine ⟨?_, rfl, digits, ⟨?_, ?_, ?_, ?_, ?_, ?_⟩, ?_⟩
  · interval_cases transactions <;> rfl
  · intro index inside
    have one : index < 1 := inside
    rw [base, minutes, seconds, last]
    omega
  · intro index inside
    have one : index < 1 := inside
    rw [base, minutes, seconds, last]
    omega
  · intro index inside
    have bound := ends index inside
    omega
  · intro index inside _
    have bound := ends index inside
    omega
  · intro index inside _
    have bound := ends index inside
    omega
  · intro index inside _
    have bound := ends index inside
    omega
  · exact fun one first two second same => List.inj_on_of_nodup_map distinct first second same

/-- A clock that is set from two to three o'clock on the eighth of March 2026; readings in between
have the offset before. -/
def springZone : Zone := fun wall =>
  if wall < 63908535600000000 then -18000000000 else -14400000000

/-- Two transactions, the second of which is requested three seconds before three o'clock. -/
def springNight : GeneratorConfig := smallConfig 2 63908535417000000 springZone

end Generators
