import AjoCloud.Ledger.Holdings
import AjoCloud.Platform.Postings
import AjoCloud.Platform.Resolution

/-!
# What wallets hold in reserve

A bill's money is put into the reserve of its wallet, and leaves it through one of two postings that
have different keys: it is paid to the provider, or given back.  Only the status of the bill keeps
them apart.  As long as `markUncertain` finds the bill unanswered, at most one of the two is made,
and what a wallet holds in reserve is what its unanswered bills and its pending withdrawals come to.
-/

namespace AjoCloud.Platform

open Lib Ledger Payments Bills

variable {config : BillConfig} {db db' : Db} {call : Call}

/-! ## The totals of intents -/

/-- The total of every intent is its amount and its fee. -/
def TotalsAdd (db : Db) : Prop :=
  ∀ i ∈ db.paymentIntents.rows, i.totalMinor = totalFor i.amountMinor i.feeMinor

theorem TotalsAdd.of_terms (h : TotalsAdd db)
    (hterms : ∀ i ∈ db'.paymentIntents.rows, ∃ j ∈ db.paymentIntents.rows, terms i = terms j) :
    TotalsAdd db' := by
  intro i hi
  obtain ⟨j, hj, hij⟩ := hterms i hi
  have htotal : i.totalMinor = j.totalMinor := congrArg IntentTerms.totalMinor hij
  have hamount : i.amountMinor = j.amountMinor := congrArg IntentTerms.amountMinor hij
  have hfee : i.feeMinor = j.feeMinor := congrArg IntentTerms.feeMinor hij
  rw [htotal, hamount, hfee]
  exact h j hj

theorem TotalsAdd.of_map (h : TotalsAdd db) {p : PaymentIntent → Prop} [DecidablePred p]
    {f : PaymentIntent → PaymentIntent}
    (hrows : db'.paymentIntents.rows = db.paymentIntents.rows.map fun i ↦ if p i then f i else i)
    (hterms : ∀ i, terms (f i) = terms i) : TotalsAdd db' := by
  refine h.of_terms fun i hi ↦ ?_
  rw [hrows] at hi
  obtain ⟨j, hj, rfl⟩ := List.mem_map.mp hi
  refine ⟨j, hj, ?_⟩
  split
  · exact hterms j
  · rfl

theorem TotalsAdd.of_handled {ctx : Ctx} {paymentId : Uuid} {answer : Option ProviderBillPayment}
    (h : TotalsAdd db) (hd : Handled ctx paymentId answer db db') : TotalsAdd db' := by
  have hsynced : ∀ {id status}, Synced db db' id status → TotalsAdd db' := by
    rintro id status ⟨f, hrows, hterms, -⟩
    exact h.of_map hrows hterms
  cases hd with
  | nothing same =>
      rw [same]
      exact h
  | released _ _ _ _ _ _ _ _ _ intents => exact hsynced intents
  | settled _ _ _ _ _ _ _ _ _ intents => exact hsynced intents
  | reversed _ _ _ _ _ _ _ _ _ _ intents =>
      rw [TotalsAdd, intents]
      exact h
  | uncertain _ _ _ intents =>
      rw [TotalsAdd, intents]
      exact h

theorem TotalsAdd.of_effect (h : TotalsAdd db) (heffect : Effect config db db' call) :
    TotalsAdd db' := by
  have hsame : ∀ {r : Records}, records db' = r → r.intents = db.paymentIntents →
      TotalsAdd db' := by
    intro r hr hi
    rw [TotalsAdd, show db'.paymentIntents = db.paymentIntents from
      (congrArg Records.intents hr).trans hi]
    exact h
  cases heffect with
  | idle _ after => exact hsame after rfl
  | sent _ _ _ _ _ done => exact hsame done.after rfl
  | withdrew _ _ _ _ _ done => exact hsame done.after rfl
  | contributed _ _ _ _ _ _ done => exact hsame done.after rfl
  | paidOut _ _ _ _ _ _ _ _ _ _ done => exact hsame done.records rfl
  | created intent _ new insert _ =>
      intro i hi
      rw [Table.rows_of_insert insert] at hi
      rcases List.mem_append.mp hi with hi | hi
      · exact h i hi
      · rw [List.mem_singleton.mp hi]
        exact new.2.2.2
  | paid _ _ _ _ _ _ _ _ _ _ _ done _ => exact h.of_map done.intents fun _ ↦ rfl
  | charged _ _ _ _ intents _ => exact h.of_map intents fun _ ↦ rfl
  | banked _ _ _ _ done => exact h.of_map done.deposited.intents fun _ ↦ rfl
  | @failed intentId reason same =>
      subst same
      exact h.of_map (rows_failIntent db intentId reason) fun _ ↦ rfl
  | reserved _ _ _ _ done => exact hsame done.after rfl
  | answered done _ => exact h.of_handled done
  | unanswered done _ _ => exact h.of_handled done
  | refunded _ _ _ _ _ _ _ done => exact hsame done.after rfl
  | rewarded _ _ _ _ done => exact hsame done.after rfl
  | elsewhere change same =>
      rw [same, TotalsAdd, change.intents]
      exact h

/-! ## Held money -/

/-- The account is a reserve of the wallet. -/
def isReserveOf (walletId : Uuid) (a : FinancialAccount) : Bool :=
  a.walletId = some walletId ∧ a.purpose = some .walletReserved

/-- The `WALLET_RESERVED` balance of a wallet. -/
def reservedBalance (db : Db) (walletId : Uuid) : Int :=
  db.ledger.balanceOver (isReserveOf walletId)

/-- There is a posting under the key. -/
def isPosted (ledger : Ledger) (key : String) : Bool := (ledger.byKey key).isSome

/-- The money of a bill was neither paid to the provider nor given back. -/
def isHeld (ledger : Ledger) (paymentId : Uuid) : Bool :=
  ¬ isPosted ledger (billKey "settle:" paymentId) ∧ ¬ isPosted ledger (billKey "release:" paymentId)

/-- What the bills of a wallet hold. -/
def heldForBills (db : Db) (walletId : Uuid) : Int :=
  sumWhere db.bills.payments.rows (fun b ↦ b.walletId = walletId ∧ isHeld db.ledger b.id)
    (·.totalDebitMinor)

/-- What the pending withdrawals of a wallet hold. -/
def heldForWithdrawals (db : Db) (walletId : Uuid) : Int :=
  sumWhere db.withdrawals.rows (fun x ↦ x.walletId = walletId ∧ x.status = .pending) (·.amountMinor)

/-- The reserves are in order. -/
structure Reserves (db : Db) : Prop where
  owned : KeysOwned db
  totals : TotalsAdd db
  settled : ∀ b ∈ db.bills.payments.rows, isPosted db.ledger (billKey "settle:" b.id) = true →
    b.status = .successful ∨ b.status = .reversed
  released : ∀ b ∈ db.bills.payments.rows, isPosted db.ledger (billKey "release:" b.id) = true →
    b.status = .failed
  balance : ∀ walletId, reservedBalance db walletId =
    heldForBills db walletId + heldForWithdrawals db walletId

/-! ## Postings -/

theorem isPosted_iff {ledger : Ledger} {key : String} :
    isPosted ledger key = true ↔ ∃ t ∈ ledger.transactions.rows, t.idempotencyKey = key := by
  rw [isPosted, Option.isSome_iff_exists]
  constructor
  · rintro ⟨t, ht⟩
    exact ⟨t, byKey_eq_some ht⟩
  · rintro ⟨t, ht, hkey⟩
    cases hfind : ledger.byKey key with
    | none => exact absurd hkey (byKey_eq_none hfind ht)
    | some u => exact ⟨u, rfl⟩

theorem isPosted_eq_of_transactions {ledger ledger' : Ledger} (key : String)
    (h : ledger'.transactions = ledger.transactions) : isPosted ledger' key = isPosted ledger key := by
  rw [isPosted, isPosted, byKey, byKey, h]

/-- What is posted after a posting. -/
theorem isPosted_postWithin {ledger mid ledger' : Ledger} {id : Uuid}
    {command : LedgerPostingCommand} {ref : LedgerReference} (hopens : Opened ledger mid)
    (hpost : mid.postWithin id command = .ok (ref, ledger')) (key : String) :
    isPosted ledger' key = true ↔ isPosted ledger key = true ∨ command.idempotencyKey = key := by
  rw [isPosted_iff, isPosted_iff]
  constructor
  · rintro ⟨t, ht, hkey⟩
    cases (postWithin_eq_ok hpost).2 with
    | replayed _ _ _ _ same =>
        rw [same, hopens.transactions] at ht
        exact .inl ⟨t, ht, hkey⟩
    | appended _ created _ =>
        rw [(createTransaction_eq_ok created).2.2.2.2, hopens.transactions] at ht
        rcases List.mem_append.mp ht with ht | ht
        · exact .inl ⟨t, ht, hkey⟩
        · rw [List.mem_singleton.mp ht] at hkey
          exact .inr hkey
  · rintro (⟨t, ht, hkey⟩ | hkey)
    · refine ⟨t, ?_, hkey⟩
      cases (postWithin_eq_ok hpost).2 with
      | replayed _ _ _ _ same =>
          rw [same, hopens.transactions]
          exact ht
      | appended _ created _ =>
          rw [(createTransaction_eq_ok created).2.2.2.2, hopens.transactions]
          exact List.mem_append_left _ ht
    · obtain ⟨t, ht, -, htkey⟩ := exists_key_of_postWithin hpost
      exact ⟨t, ht, htkey.trans hkey⟩

/-- The same bills were paid and given back. -/
def SameOutcomes (db db' : Db) : Prop :=
  ∀ id, isPosted db'.ledger (billKey "settle:" id) = isPosted db.ledger (billKey "settle:" id) ∧
    isPosted db'.ledger (billKey "release:" id) = isPosted db.ledger (billKey "release:" id)

theorem SameOutcomes.of_opened (h : Opened db.ledger db'.ledger) : SameOutcomes db db' :=
  fun _ ↦ ⟨isPosted_eq_of_transactions _ h.transactions,
    isPosted_eq_of_transactions _ h.transactions⟩

/-- A posting of another origin. -/
theorem SameOutcomes.of_post {mid : Ledger} {id : Uuid} {command : LedgerPostingCommand}
    {ref : LedgerReference} {o : Origin} (hopens : Opened db.ledger mid)
    (hpost : mid.postWithin id command = .ok (ref, db'.ledger))
    (hkey : command.idempotencyKey = o.key)
    (hother : o.operation ≠ .bill .settle ∧ o.operation ≠ .bill .release) : SameOutcomes db db' := by
  have hsame : ∀ o' : Origin, o'.operation ≠ o.operation →
      isPosted db'.ledger o'.key = isPosted db.ledger o'.key := by
    intro o' hne
    rw [Bool.eq_iff_iff, isPosted_postWithin hopens hpost]
    refine ⟨fun h ↦ h.resolve_right fun hk ↦ hne ?_, .inl⟩
    rw [Origin.key_inj (hkey.symm.trans hk)]
  exact fun paymentId ↦ ⟨hsame (.bill .settle paymentId) hother.1.symm,
    hsame (.bill .release paymentId) hother.2.symm⟩

theorem SameOutcomes.isHeld (h : SameOutcomes db db') (id : Uuid) :
    isHeld db'.ledger id = isHeld db.ledger id := by
  rw [Platform.isHeld, Platform.isHeld, (h id).1, (h id).2]

/-- The account is there, and is no reserve. -/
def Unreserved (ledger : Ledger) (accountId : Uuid) : Prop :=
  ∃ a ∈ ledger.accounts.rows, a.id = accountId ∧ a.purpose ≠ some .walletReserved

theorem unreserved_of_purpose {ledger : Ledger} {a : FinancialAccount}
    {purpose : FinancialAccountPurpose} (ha : a ∈ ledger.accounts.rows)
    (hp : a.purpose = some purpose) (hne : purpose ≠ .walletReserved) : Unreserved ledger a.id := by
  refine ⟨a, ha, rfl, ?_⟩
  rw [hp]
  exact fun h ↦ hne (Option.some.inj h)

/-- A posting that leaves reserves alone. -/
theorem reserves_untouched {ledger mid ledger' : Ledger} {id : Uuid}
    {command : LedgerPostingCommand} {ref : LedgerReference} (hopens : Opened ledger mid)
    (hpost : mid.postWithin id command = .ok (ref, ledger'))
    (hother : ∀ e ∈ command.entries, Unreserved mid e.accountId) (walletId : Uuid) :
    ledger'.balanceOver (isReserveOf walletId) = ledger.balanceOver (isReserveOf walletId) := by
  refine balanceOver_postWithin_of_zero hopens hpost (netOver_eq_zero fun l hl a ha hid ↦ ?_)
  obtain ⟨e, he, rfl⟩ := List.mem_map.mp hl
  obtain ⟨b, hb, hbid, hpurpose⟩ := hother e he
  rw [account_eq_of_id ha hb (hid.trans hbid.symm), isReserveOf, decide_eq_false_iff_not]
  exact fun h ↦ hpurpose h.2

/-- A movement on a reserve. -/
theorem netOver_reserve {ledger : Ledger} {a : FinancialAccount} {walletId : Uuid}
    (ha : OfWallet ledger a walletId .walletReserved) (w : Uuid) (amount : Int)
    (legs : List (Leg Uuid)) :
    ledger.netOver (isReserveOf w) (⟨a.id, amount⟩ :: legs) =
      (if walletId = w then amount else 0) + ledger.netOver (isReserveOf w) legs := by
  rw [netOver_cons ha.mem]
  simp only [isReserveOf, ha.wallet_eq, ha.purpose_is, Option.some.injEq, and_true,
    decide_eq_true_eq]

/-- A movement on another account. -/
theorem netOver_other {ledger : Ledger} {a : FinancialAccount} {purpose : FinancialAccountPurpose}
    (ha : a ∈ ledger.accounts.rows) (hp : a.purpose = some purpose)
    (hne : purpose ≠ .walletReserved) (w : Uuid) (amount : Int) (legs : List (Leg Uuid)) :
    ledger.netOver (isReserveOf w) (⟨a.id, amount⟩ :: legs) =
      ledger.netOver (isReserveOf w) legs := by
  rw [netOver_cons ha]
  simp only [isReserveOf, hp, Option.some.injEq, hne, and_false, decide_false, Bool.false_eq_true,
    if_false, zero_add]

/-! ## Steps -/

/-- Nothing was reserved, paid out or given back. -/
theorem Reserves.of_quiet (h : Reserves db) (howned : KeysOwned db') (htotals : TotalsAdd db')
    (houtcomes : SameOutcomes db db')
    (hbalance : ∀ walletId, reservedBalance db' walletId = reservedBalance db walletId)
    (hbills : db'.bills.payments = db.bills.payments) (hwithdrawals : db'.withdrawals = db.withdrawals) :
    Reserves db' := by
  refine ⟨howned, htotals, ?_, ?_, ?_⟩
  · intro b hb
    rw [hbills] at hb
    rw [(houtcomes b.id).1]
    exact h.settled b hb
  · intro b hb
    rw [hbills] at hb
    rw [(houtcomes b.id).2]
    exact h.released b hb
  · intro walletId
    rw [hbalance, h.balance, heldForBills, heldForBills, heldForWithdrawals, heldForWithdrawals,
      hbills, hwithdrawals]
    simp only [houtcomes.isHeld]

/-- A withdrawal was reserved. -/
theorem Reserves.of_withdrawal (h : Reserves db) (howned : KeysOwned db')
    (htotals : TotalsAdd db') (houtcomes : SameOutcomes db db')
    (hbills : db'.bills.payments = db.bills.payments) {x : Withdrawal}
    (hinsert : db.withdrawals.insert x = some db'.withdrawals) (hpending : x.status = .pending)
    (hbalance : ∀ walletId, reservedBalance db' walletId =
      reservedBalance db walletId + if x.walletId = walletId then x.amountMinor else 0) :
    Reserves db' := by
  refine ⟨howned, htotals, ?_, ?_, ?_⟩
  · intro b hb
    rw [hbills] at hb
    rw [(houtcomes b.id).1]
    exact h.settled b hb
  · intro b hb
    rw [hbills] at hb
    rw [(houtcomes b.id).2]
    exact h.released b hb
  · intro walletId
    have hbillsHeld : heldForBills db' walletId = heldForBills db walletId := by
      rw [heldForBills, heldForBills, hbills]
      simp only [houtcomes.isHeld]
    have hwithdrawn : heldForWithdrawals db' walletId = heldForWithdrawals db walletId +
        if x.walletId = walletId then x.amountMinor else 0 := by
      rw [heldForWithdrawals, Table.rows_of_insert hinsert, sumWhere_concat]
      simp only [hpending, and_true, decide_eq_true_eq]
      rfl
    rw [hbalance, h.balance, hbillsHeld, hwithdrawn]
    ring

/-- A bill was reserved. -/
theorem Reserves.of_reserve (h : Reserves db) (howned : KeysOwned db') (htotals : TotalsAdd db')
    (houtcomes : SameOutcomes db db') (hwithdrawals : db'.withdrawals = db.withdrawals)
    {b : BillPayment} (hinsert : db.bills.payments.insert b = some db'.bills.payments)
    (hbalance : ∀ walletId, reservedBalance db' walletId =
      reservedBalance db walletId + if b.walletId = walletId then b.totalDebitMinor else 0) :
    Reserves db' := by
  obtain ⟨hfresh, hrows⟩ := Table.insert_eq_some.mp hinsert
  -- A posting about the bill would have had a bill with the identifier before.
  have hnone : ∀ event, isPosted db.ledger (Origin.bill event b.id).key = false := by
    intro event
    rw [Bool.eq_false_iff]
    intro hposted
    obtain ⟨t, ht, hkey⟩ := isPosted_iff.mp hposted
    obtain ⟨x, hx, hid⟩ := h.owned t ht _ hkey
    exact hfresh x hx (.inl (.inl hid))
  refine ⟨howned, htotals, ?_, ?_, ?_⟩
  · intro x hx hposted
    rw [(houtcomes x.id).1] at hposted
    rw [hrows] at hx
    rcases List.mem_append.mp hx with hx | hx
    · exact h.settled x hx hposted
    · rw [List.mem_singleton.mp hx] at hposted
      exact nomatch hposted.symm.trans (hnone .settle)
  · intro x hx hposted
    rw [(houtcomes x.id).2] at hposted
    rw [hrows] at hx
    rcases List.mem_append.mp hx with hx | hx
    · exact h.released x hx hposted
    · rw [List.mem_singleton.mp hx] at hposted
      exact nomatch hposted.symm.trans (hnone .release)
  · intro walletId
    have hheld : isHeld db.ledger b.id = true :=
      decide_eq_true ⟨Bool.eq_false_iff.mp (hnone .settle), Bool.eq_false_iff.mp (hnone .release)⟩
    have hbills : heldForBills db' walletId = heldForBills db walletId +
        if b.walletId = walletId then b.totalDebitMinor else 0 := by
      rw [heldForBills, hrows, sumWhere_concat]
      simp only [houtcomes.isHeld, hheld, and_true, decide_eq_true_eq]
      rfl
    have hwithdrawn : heldForWithdrawals db' walletId = heldForWithdrawals db walletId := by
      rw [heldForWithdrawals, heldForWithdrawals, hwithdrawals]
    rw [hbalance, h.balance, hbills, hwithdrawn]
    ring

/-- Rewriting a bill leaves what it would hold. -/
theorem heldForBills_of_rewritten {id : Uuid} {status : BillPaymentStatus}
    {reconciliation : ReconciliationState → ReconciliationState}
    (h : Rewritten db db' id status reconciliation) (walletId : Uuid) :
    heldForBills db' walletId = sumWhere db.bills.payments.rows
      (fun b ↦ b.walletId = walletId ∧ isHeld db'.ledger b.id) (·.totalDebitMinor) := by
  obtain ⟨f, hrows, hterms, -⟩ := h.map
  rw [heldForBills, hrows, sumWhere_map]
  refine sumWhere_congr fun b _ ↦ ?_
  have hwallet : (f b).walletId = b.walletId := congrArg BillTerms.walletId (hterms b)
  have hid : (f b).id = b.id := congrArg BillTerms.id (hterms b)
  have htotal : (f b).totalDebitMinor = b.totalDebitMinor :=
    congrArg BillTerms.totalDebitMinor (hterms b)
  by_cases hb : b.id = id
  · simp only [if_pos hb, hwallet, hid, htotal]
  · simp only [if_neg hb]

/-- A bill was left for reconciliation, or taken back: nothing moved in the reserve. -/
theorem Reserves.of_rewritten (h : Reserves db) (howned : KeysOwned db')
    (htotals : TotalsAdd db') (houtcomes : SameOutcomes db db')
    (hwithdrawals : db'.withdrawals = db.withdrawals)
    (hbalance : ∀ walletId, reservedBalance db' walletId = reservedBalance db walletId)
    {id : Uuid} {status : BillPaymentStatus}
    {reconciliation : ReconciliationState → ReconciliationState}
    (hbills : Rewritten db db' id status reconciliation)
    (hsettled : ∀ b ∈ db.bills.payments.rows, b.id = id → b.status = .successful ∨
      b.status = .reversed → status = .successful ∨ status = .reversed)
    (hreleased : ∀ b ∈ db.bills.payments.rows, b.id = id → b.status ≠ .failed) :
    Reserves db' := by
  refine ⟨howned, htotals, ?_, ?_, ?_⟩
  · intro b hb hposted
    rw [(houtcomes b.id).1] at hposted
    rcases hbills.cases hb with ⟨hold, -⟩ | ⟨b₀, hb₀, hid, hterms, hstatus, -⟩
    · exact h.settled b hold hposted
    · rw [show b.id = b₀.id from congrArg BillTerms.id hterms] at hposted
      rw [hstatus]
      exact hsettled b₀ hb₀ hid (h.settled b₀ hb₀ hposted)
  · intro b hb hposted
    rw [(houtcomes b.id).2] at hposted
    rcases hbills.cases hb with ⟨hold, -⟩ | ⟨b₀, hb₀, hid, hterms, -, -⟩
    · exact h.released b hold hposted
    · rw [show b.id = b₀.id from congrArg BillTerms.id hterms] at hposted
      exact absurd (h.released b₀ hb₀ hposted) (hreleased b₀ hb₀ hid)
  · intro walletId
    rw [hbalance, h.balance, heldForBills_of_rewritten hbills, heldForWithdrawals,
      heldForWithdrawals, hwithdrawals]
    simp only [houtcomes.isHeld]
    rfl

/-- Nothing was posted about an unanswered bill but its reserve. -/
theorem Reserves.not_posted (h : Reserves db) {b : BillPayment} (hb : b ∈ db.bills.payments.rows)
    (hopen : isOpen b.status = true) :
    isPosted db.ledger (billKey "settle:" b.id) = false ∧
      isPosted db.ledger (billKey "release:" b.id) = false := by
  have hstatus := of_decide_eq_true hopen
  constructor
  · rw [Bool.eq_false_iff]
    intro hposted
    rcases h.settled b hb hposted with hst | hst
    · simp [hst] at hstatus
    · simp [hst] at hstatus
  · rw [Bool.eq_false_iff]
    intro hposted
    simp [h.released b hb hposted] at hstatus

/-- The events that end a reserve, with the status they go with. -/
inductive Ends : BillEvent → BillPaymentStatus → Prop
  | settle : Ends .settle .successful
  | release : Ends .release .failed

/-- An unanswered bill was paid, or given back. -/
theorem Reserves.of_outcome (h : Reserves db) (howned : KeysOwned db') (htotals : TotalsAdd db')
    (hwithdrawals : db'.withdrawals = db.withdrawals) {payment : BillPayment}
    (hmem : payment ∈ db.bills.payments.rows) (hopen : isOpen payment.status = true)
    {event : BillEvent} {status : BillPaymentStatus} (hends : Ends event status)
    {reconciliation : ReconciliationState → ReconciliationState}
    (hbills : Rewritten db db' payment.id status reconciliation) {id : Uuid}
    {command : LedgerPostingCommand} {posting : LedgerReference}
    (hpost : db.ledger.postWithin id command = .ok (posting, db'.ledger))
    (hkey : command.idempotencyKey = (Origin.bill event payment.id).key)
    (hnet : ∀ walletId, db.ledger.netOver (isReserveOf walletId) command.legs =
      if payment.walletId = walletId then -payment.totalDebitMinor else 0) : Reserves db' := by
  obtain ⟨hnotSettled, hnotReleased⟩ := h.not_posted hmem hopen
  have hposted : ∀ event' paymentId,
      isPosted db'.ledger (Origin.bill event' paymentId).key = true ↔
        isPosted db.ledger (Origin.bill event' paymentId).key = true ∨
          (event' = event ∧ paymentId = payment.id) := by
    intro event' paymentId
    rw [isPosted_postWithin (.refl _) hpost, hkey]
    refine or_congr_right ⟨fun hk ↦ ?_, fun ⟨he, hid⟩ ↦ by rw [he, hid]⟩
    cases Origin.key_inj hk
    exact ⟨rfl, rfl⟩
  have hfresh : ∀ t ∈ db.ledger.transactions.rows, t.idempotencyKey ≠ command.idempotencyKey := by
    intro t ht hk
    have hthere : isPosted db.ledger (Origin.bill event payment.id).key = true :=
      isPosted_iff.mpr ⟨t, ht, hk.trans hkey⟩
    cases hends with
    | settle => exact nomatch hthere.symm.trans hnotSettled
    | release => exact nomatch hthere.symm.trans hnotReleased
  refine ⟨howned, htotals, ?_, ?_, ?_⟩
  · intro b hb hpostedNow
    rcases hbills.cases hb with ⟨hold, hne⟩ | ⟨b₀, hb₀, hid, hterms, hstatus, -⟩
    · exact h.settled b hold (((hposted .settle b.id).mp hpostedNow).resolve_right
        fun hnew ↦ hne hnew.2)
    · have hbid : b.id = payment.id := (congrArg BillTerms.id hterms).trans hid
      rcases (hposted .settle b.id).mp hpostedNow with hbefore | ⟨hevent, -⟩
      · rw [hbid] at hbefore
        exact nomatch hbefore.symm.trans hnotSettled
      · subst hevent
        cases hends
        exact .inl hstatus
  · intro b hb hpostedNow
    rcases hbills.cases hb with ⟨hold, hne⟩ | ⟨b₀, hb₀, hid, hterms, hstatus, -⟩
    · exact h.released b hold (((hposted .release b.id).mp hpostedNow).resolve_right
        fun hnew ↦ hne hnew.2)
    · have hbid : b.id = payment.id := (congrArg BillTerms.id hterms).trans hid
      rcases (hposted .release b.id).mp hpostedNow with hbefore | ⟨hevent, -⟩
      · rw [hbid] at hbefore
        exact nomatch hbefore.symm.trans hnotReleased
      · subst hevent
        cases hends
        exact hstatus
  · intro walletId
    have hbalance : reservedBalance db' walletId = reservedBalance db walletId +
        if payment.walletId = walletId then -payment.totalDebitMinor else 0 := by
      rw [reservedBalance, balanceOver_postWithin (.refl _) hpost hfresh, hnet]
      rfl
    -- The bill held its money before, and holds none now; the others hold what they held.
    have hbefore : isHeld db.ledger payment.id = true :=
      decide_eq_true ⟨Bool.eq_false_iff.mp hnotSettled, Bool.eq_false_iff.mp hnotReleased⟩
    have hafter : isHeld db'.ledger payment.id = false := by
      refine decide_eq_false fun hheld ↦ ?_
      cases hends with
      | settle => exact hheld.1 ((hposted .settle payment.id).mpr (.inr ⟨rfl, rfl⟩))
      | release => exact hheld.2 ((hposted .release payment.id).mpr (.inr ⟨rfl, rfl⟩))
    have hothers : ∀ b ∈ db.bills.payments.rows, b ≠ payment →
        isHeld db'.ledger b.id = isHeld db.ledger b.id := by
      intro b hb hne
      have hsame : ∀ event', isPosted db'.ledger (Origin.bill event' b.id).key =
          isPosted db.ledger (Origin.bill event' b.id).key := by
        intro event'
        rw [Bool.eq_iff_iff, hposted]
        exact ⟨fun h ↦ h.resolve_right fun hnew ↦ hne (bill_eq_of_id hb hmem hnew.2), .inl⟩
      have hsettle := hsame .settle
      have hrelease := hsame .release
      rw [isHeld, isHeld]
      exact decide_eq_decide.mpr (by
        rw [show isPosted db'.ledger (billKey "settle:" b.id) = _ from hsettle,
          show isPosted db'.ledger (billKey "release:" b.id) = _ from hrelease]
        rfl)
    have hheld : heldForBills db' walletId = heldForBills db walletId +
        if payment.walletId = walletId then -payment.totalDebitMinor else 0 := by
      rw [heldForBills_of_rewritten hbills, heldForBills, sumWhere_change
        (p := fun b ↦ b.walletId = walletId ∧ isHeld db.ledger b.id) (f := (·.totalDebitMinor))
        db.bills.payments.nodup hmem fun b hb hne ↦ by rw [hothers b hb hne]]
      simp only [hbefore, hafter, and_true, Bool.false_eq_true, and_false, decide_false, if_false,
        decide_eq_true_eq]
      split
      · ring
      · ring
    rw [hbalance, h.balance, hheld, heldForWithdrawals, heldForWithdrawals, hwithdrawals]
    ring

/-! ## Calls -/

/-- A posting that has nothing to do with reserves. -/
theorem Reserves.of_posting (h : Reserves db) (howned : KeysOwned db') (htotals : TotalsAdd db')
    {mid : Ledger} {id : Uuid} {command : LedgerPostingCommand} {ref : LedgerReference} {o : Origin}
    (hopens : Opened db.ledger mid) (hpost : mid.postWithin id command = .ok (ref, db'.ledger))
    (hkey : command.idempotencyKey = o.key)
    (hop : o.operation ≠ .bill .settle ∧ o.operation ≠ .bill .release)
    (hentries : ∀ e ∈ command.entries, Unreserved mid e.accountId)
    (hbills : db'.bills.payments = db.bills.payments)
    (hwithdrawals : db'.withdrawals = db.withdrawals) : Reserves db' :=
  h.of_quiet howned htotals (.of_post hopens hpost hkey hop)
    (fun walletId ↦ reserves_untouched hopens hpost hentries walletId) hbills hwithdrawals

/-- A posting that puts money into a reserve. -/
theorem reservedBalance_of_reserve {mid : Ledger} {id walletId : Uuid}
    {command : LedgerPostingCommand} {ref : LedgerReference} {o : Origin} (howned : KeysOwned db)
    (hopens : Opened db.ledger mid) (hpost : mid.postWithin id command = .ok (ref, db'.ledger))
    (hkey : command.idempotencyKey = o.key) (hfresh : ¬ Owned db o)
    {available reserved : FinancialAccount} (ha : available ∈ mid.accounts.rows)
    (hap : available.purpose = some .walletAvailable)
    (hr : OfWallet mid reserved walletId .walletReserved) {amount : Int}
    (hentries : command.entries =
      [⟨available.id, .debit, amount⟩, ⟨reserved.id, .credit, amount⟩]) (w : Uuid) :
    reservedBalance db' w = reservedBalance db w + if walletId = w then amount else 0 := by
  have hnew : ∀ t ∈ db.ledger.transactions.rows, t.idempotencyKey ≠ command.idempotencyKey :=
    fun t ht hk ↦ hfresh (howned t ht o (hk.trans hkey))
  have hlegs : command.legs = [⟨available.id, -amount⟩, ⟨reserved.id, amount⟩] := by
    rw [LedgerPostingCommand.legs, hentries]
    rfl
  rw [reservedBalance, balanceOver_postWithin hopens hpost hnew, hlegs,
    netOver_other ha hap (by simp), netOver_reserve hr, netOver_nil, add_zero]
  rfl

theorem Reserves.of_withdrew {ctx : Ctx} {userId : Uuid} {dto : Wallets.WithdrawDto} {key : String}
    {wallet : Wallet} {bank : LinkedBankAccount} {available reserved : FinancialAccount}
    {posting : LedgerReference} (h : Reserves db) (howned : KeysOwned db')
    (htotals : TotalsAdd db')
    (hd : Wallets.Withdrew ctx db db' userId dto key wallet bank available reserved posting) :
    Reserves db' := by
  have hkey : (Wallets.withdrawPosting ctx userId dto key wallet.currency bank available.id
      reserved.id).idempotencyKey = (Origin.withdrawal key).key := rfl
  have hnotOwned : ¬ Owned db (.withdrawal key) := fun ⟨x, hx, hk⟩ ↦ hd.unused x hx hk
  refine h.of_withdrawal howned htotals (.of_post (.refl _) hd.post hkey ⟨nofun, nofun⟩)
    (congrArg Records.bills hd.after) hd.insert rfl fun w ↦ ?_
  exact reservedBalance_of_reserve h.owned (.refl _) hd.post hkey hnotOwned hd.from_account.mem
    hd.from_account.purpose_is hd.to_account rfl w

theorem Reserves.of_reserved {ctx : Ctx} {validation : BillCustomerValidation} {userId : Uuid}
    {key hash : String} {dto : CreateBillPaymentDto} {wallet : Wallet} {feeMinor : Int}
    {found : BillAccounts} {posting : LedgerReference} (h : Reserves db) (howned : KeysOwned db')
    (htotals : TotalsAdd db')
    (hd : Reserved ctx db db' config validation userId key hash dto wallet feeMinor found posting) :
    Reserves db' := by
  obtain ⟨havailable, hreserved⟩ := accounts_ofWallet hd.accounts_eq
  have hkey : (reservePosting ctx userId wallet.currency (dto.amountMinor + feeMinor)
      found).idempotencyKey = (Origin.bill .reserve (ctx.uuid 2)).key := key_reserve _
  have hnotOwned : ¬ Owned db (.bill .reserve (ctx.uuid 2)) := by
    rintro ⟨x, hx, hid⟩
    exact (Table.insert_eq_some.mp hd.insert).1 x hx (.inl (.inl hid))
  refine h.of_reserve howned htotals (.of_post (.refl _) hd.post hkey ⟨nofun, nofun⟩)
    (congrArg Records.withdrawals hd.after) hd.insert fun w ↦ ?_
  exact reservedBalance_of_reserve h.owned (.refl _) hd.post hkey hnotOwned havailable.mem
    havailable.purpose_is hreserved rfl w

/-! ### Payments from the wallet -/

theorem Recorded.withdrawals {ctx : Ctx} {payment : SettledPayment} {type : PaymentTargetType}
    (h : Recorded config ctx payment db db' type) : db'.withdrawals = db.withdrawals := by
  cases h with
  | elsewhere _ after => exact congrArg Records.withdrawals after
  | contribution _ _ _ _ _ _ _ after => exact congrArg Records.withdrawals after
  | bill _ _ _ _ _ after => exact congrArg Records.withdrawals after

/-- Only a bill is credited on a reserve. -/
theorem Credited.unreserved {targetId : Option Uuid} {currency : String} {ledger : Ledger}
    {destination : Uuid} {type : PaymentTargetType}
    (h : Credited db targetId currency ledger destination type) (hne : type ≠ .billPayment) :
    Unreserved ledger destination := by
  cases h with
  | platform a purpose _ account id_eq unowned _ =>
      rw [← id_eq]
      exact unreserved_of_purpose account.mem account.purpose_is unowned.1
  | reserve => exact absurd rfl hne

/-- What a bill is quoted for was validated for the payer. -/
theorem quoteForIntent_validation {ctx : Ctx} {userId : Uuid} {targetId : Option Uuid}
    {requested : Option Int} {target : ResolvedTarget}
    (h : quoteForIntent config ctx db userId targetId requested = .ok target) :
    ∃ v ∈ db.bills.validations.rows, targetId = some v.id ∧ v.userId = userId := by
  simp only [quoteForIntent, bind_eq_ok, orThrow_eq_ok] at h
  obtain ⟨id, hid, v, hv, -⟩ := h
  have hp := Table.prop_of_find? hv
  simp only [decide_eq_true_eq] at hp
  exact ⟨v, Table.mem_of_find? hv, hid.trans (congrArg some hp.1.symm), hp.2.1⟩

/-- The reserve that a bill is credited on is that of the wallet on the bill. -/
theorem Paid.reserve {ctx : Ctx} {userId : Uuid} {intent : PaymentIntent} {key : String}
    {walletId : Uuid} {target : ResolvedTarget} {payer : PayerAccounts} {destination : Uuid}
    {opened : Db} {posting : LedgerReference} {settled : Db}
    (h : Paid config ctx db db' userId intent key walletId target payer destination opened posting
      settled) (hbill : intent.targetType = .billPayment) :
    ∃ (a : FinancialAccount) (b : BillPayment), a.id = destination ∧
      OfWallet opened.ledger a b.walletId .walletReserved ∧
      b.totalDebitMinor = intent.amountMinor + intent.feeMinor ∧
      db.bills.payments.insert b = some settled.bills.payments := by
  have hcredit := h.credit
  have hrecord := h.record
  have hresolve := h.resolve
  rw [hbill] at hcredit hrecord hresolve
  obtain ⟨v, hv, htarget, huser⟩ := quoteForIntent_validation hresolve
  have hopened : ({ opened with ledger := db'.ledger } : Db).wallets = db.wallets := by
    rw [h.opened_eq]
  have hpayments : ({ opened with ledger := db'.ledger } : Db).bills.payments = db.bills.payments := by
    rw [h.opened_eq]
  cases hrecord with
  | elsewhere other _ => exact absurd rfl other.2
  | bill validation wallet target owner insert _ =>
      cases hcredit with
      | platform _ _ notBill _ _ _ _ => exact absurd rfl notBill
      | reserve a validation' wallet' target' mem' owner' account id_eq =>
          have hval : validation' = v := db.bills.validations.eq_of_clash mem' hv
            (Option.some.inj (target'.symm.trans htarget))
          obtain ⟨hw, hwuser, hwcurrency⟩ := owner
          rw [hopened] at hw
          -- A user has one wallet in a currency.
          have hwallet : wallet' = wallet := by
            refine db.wallets.eq_of_clash owner'.1 hw (.inr ⟨rfl, ?_⟩)
            dsimp only
            rw [owner'.2.1, owner'.2.2, hwuser, hwcurrency, hval, huser]
            rfl
          rw [hpayments] at insert
          refine ⟨a, _, id_eq, ?_, rfl, insert⟩
          rw [← hwallet]
          exact account

theorem Reserves.of_paid {ctx : Ctx} {userId : Uuid} {intent : PaymentIntent} {key : String}
    {walletId : Uuid} {target : ResolvedTarget} {payer : PayerAccounts} {destination : Uuid}
    {opened : Db} {posting : LedgerReference} {settled : Db} (h : Reserves db)
    (howned : KeysOwned db') (htotals : TotalsAdd db')
    (hd : Paid config ctx db db' userId intent key walletId target payer destination opened posting
      settled) : Reserves db' := by
  have hkey : (walletPosting (targets config intent.targetType) userId intent key
      target.description payer destination).idempotencyKey = (Origin.confirmation intent.id key).key :=
    rfl
  have hbills : db'.bills.payments = settled.bills.payments := congrArg Records.bills hd.after
  have hwithdrawals : db'.withdrawals = db.withdrawals := by
    refine (congrArg Records.withdrawals hd.after).trans (hd.record.withdrawals.trans ?_)
    rw [hd.opened_eq]
  have hpayer : payer.available ∈ opened.ledger.accounts.rows :=
    hd.opens.accounts _ hd.payer_accounts.available_mem
  have hfee : payer.feeRevenue ∈ opened.ledger.accounts.rows :=
    hd.opens.accounts _ hd.payer_accounts.feeRevenue_mem
  by_cases hbill : intent.targetType = .billPayment
  · obtain ⟨a, b, hid, haccount, htotal, hinsert⟩ := hd.reserve hbill
    subst hid
    have hnotOwned : ¬ Owned db (.confirmation intent.id key) := by
      rintro ⟨x, hx, hxid, hst⟩
      rw [intent_eq_of_id hx hd.mem hxid] at hst
      exact hst hd.unpaid
    have hentries : (walletPosting (targets config intent.targetType) userId intent key
        target.description payer a.id).entries =
          [⟨payer.available.id, .debit, b.totalDebitMinor⟩, ⟨a.id, .credit, b.totalDebitMinor⟩] := by
      rw [htotal, ← totalFor, ← h.totals intent hd.mem, walletPosting, hbill]
      simp [targets, billPaymentTarget]
    refine h.of_reserve howned htotals
      (.of_post hd.opens hd.post hkey ⟨by rintro ⟨⟩, by rintro ⟨⟩⟩) hwithdrawals
      (hbills ▸ hinsert) fun w ↦ ?_
    exact reservedBalance_of_reserve h.owned hd.opens hd.post hkey hnotOwned hpayer
      hd.payer_accounts.available_purpose haccount hentries w
  · refine h.of_posting howned htotals hd.opens hd.post hkey
      ⟨by rintro ⟨⟩, by rintro ⟨⟩⟩ ?_ ?_ hwithdrawals
    · intro e he
      rcases mem_entries_walletPosting he with hacc | hacc | hacc
      · rw [hacc]
        exact unreserved_of_purpose hpayer hd.payer_accounts.available_purpose (by simp)
      · rw [hacc]
        exact hd.credit.unreserved hbill
      · rw [hacc]
        exact unreserved_of_purpose hfee hd.payer_accounts.feeRevenue_purpose (by simp)
    · rcases hd.record.bills with hsame | ⟨-, -, -, -, -, -, htype, -⟩
      · rw [hbills, hsame, hd.opened_eq]
      · exact absurd htype hbill

/-! ### Answers about bills -/

/-- What paying a bill takes out of reserves. -/
theorem netOver_settlePosting {payment : BillPayment} {found : BillAccounts}
    (hfound : Bills.accounts db payment.walletId payment.currency = .ok found) (w : Uuid) :
    db.ledger.netOver (isReserveOf w) (settlePosting payment found).legs =
      if payment.walletId = w then -payment.totalDebitMinor else 0 := by
  have haccounts := Bills.accounts_eq_ok hfound
  have hfee : db.ledger.netOver (isReserveOf w)
      ((feeEntry found .credit payment.feeMinor).map (·.leg)) = 0 := by
    rw [feeEntry]
    split
    · rw [List.map_cons, List.map_nil]
      exact (netOver_other haccounts.feeRevenue.1 haccounts.feeRevenue.2 nofun w _ _).trans
        netOver_nil
    · exact netOver_nil
  have hlegs : (settlePosting payment found).legs =
      ⟨found.reserved.id, -payment.totalDebitMinor⟩ ::
        ⟨found.providerPayable.id, payment.amountMinor⟩ ::
          (feeEntry found .credit payment.feeMinor).map (·.leg) := rfl
  rw [hlegs, netOver_reserve (accounts_ofWallet hfound).2,
    netOver_other haccounts.providerPayable.1 haccounts.providerPayable.2 nofun, hfee, add_zero]

/-- What giving a bill's money back takes out of reserves. -/
theorem netOver_releasePosting {payment : BillPayment} {found : BillAccounts}
    (hfound : Bills.accounts db payment.walletId payment.currency = .ok found) (w : Uuid) :
    db.ledger.netOver (isReserveOf w) (releasePosting payment found).legs =
      if payment.walletId = w then -payment.totalDebitMinor else 0 := by
  obtain ⟨havailable, hreserved⟩ := accounts_ofWallet hfound
  have hlegs : (releasePosting payment found).legs =
      [⟨found.reserved.id, -payment.totalDebitMinor⟩,
        ⟨found.available.id, payment.totalDebitMinor⟩] := rfl
  rw [hlegs, netOver_reserve hreserved, netOver_other havailable.mem havailable.purpose_is nofun,
    netOver_nil, add_zero]

theorem unreserved_reversalPosting {payment : BillPayment} {found : BillAccounts}
    {actorUserId : Uuid}
    (hfound : Bills.accounts db payment.walletId payment.currency = .ok found) :
    ∀ e ∈ (reversalPosting payment found actorUserId).entries, Unreserved db.ledger e.accountId := by
  have haccounts := Bills.accounts_eq_ok hfound
  have havailable := (accounts_ofWallet hfound).1
  intro e he
  rcases List.mem_append.mp he with he | he
  · rcases List.mem_append.mp he with he | he
    · rw [List.mem_singleton.mp he]
      exact unreserved_of_purpose haccounts.providerPayable.1 haccounts.providerPayable.2 nofun
    · rw [mem_feeEntry he]
      exact unreserved_of_purpose haccounts.feeRevenue.1 haccounts.feeRevenue.2 nofun
  · rw [List.mem_singleton.mp he]
    exact unreserved_of_purpose havailable.mem havailable.purpose_is nofun

theorem Reserves.of_handled {ctx : Ctx} {paymentId : Uuid} {answer : Option ProviderBillPayment}
    (h : Reserves db) (howned : KeysOwned db') (htotals : TotalsAdd db')
    (hd : Handled ctx paymentId answer db db') (hkept : Kept db db')
    (hopen : isUncertain answer = true → ∀ b ∈ db.bills.payments.rows, b.id = paymentId →
      isOpen b.status = true) : Reserves db' := by
  have hwithdrawals : db'.withdrawals = db.withdrawals := congrArg Records.withdrawals hkept
  cases hd with
  | nothing same =>
      rw [same]
      exact h
  | released payment found posting mem _ wasOpen hfound post bills _ =>
      exact h.of_outcome howned htotals hwithdrawals mem wasOpen .release bills post rfl
        (netOver_releasePosting hfound)
  | settled payment found posting mem _ wasOpen hfound post bills _ =>
      exact h.of_outcome howned htotals hwithdrawals mem wasOpen .settle bills post rfl
        (netOver_settlePosting hfound)
  | reversed payment found posting actorUserId mem _ wasPaid hfound post bills _ =>
      have hkey : (reversalPosting payment found actorUserId).idempotencyKey =
          (Origin.bill .reversal payment.id).key := rfl
      refine h.of_rewritten howned htotals (.of_post (.refl _) post hkey ⟨nofun, nofun⟩)
        hwithdrawals
        (reserves_untouched (.refl _) post (unreserved_reversalPosting hfound)) bills
        (fun _ _ _ _ ↦ .inr rfl) fun b hb hid ↦ ?_
      rw [bill_eq_of_id hb mem hid, wasPaid]
      exact nofun
  | uncertain asked ledger bills _ =>
      have hopened : Opened db.ledger db'.ledger := by
        rw [ledger]
        exact .refl _
      refine h.of_rewritten howned htotals (.of_opened hopened) hwithdrawals
        (fun _ ↦ hopened.balanceOver) bills (fun b hb hid hst ↦ ?_) fun b hb hid hst ↦ ?_
      · have hstatus := of_decide_eq_true (hopen asked b hb hid)
        rcases hst with hst | hst
        · simp [hst] at hstatus
        · simp [hst] at hstatus
      · have hstatus := of_decide_eq_true (hopen asked b hb hid)
        simp [hst] at hstatus

/-! ### Every call -/

theorem unreserved_depositPosting {intent : PaymentIntent} {accounts : DepositAccounts}
    (h : IsDepositAccounts db.ledger accounts) :
    ∀ e ∈ (depositPosting intent accounts).entries, Unreserved db.ledger e.accountId := by
  intro e he
  rcases List.mem_append.mp he with he | he
  · rcases List.mem_cons.mp he with rfl | he
    · exact unreserved_of_purpose h.providerPayable.1 h.providerPayable.2 nofun
    · rw [List.mem_singleton.mp he]
      exact unreserved_of_purpose h.available.1 h.available.2 nofun
  · split at he
    · rw [List.mem_singleton.mp he]
      exact unreserved_of_purpose h.feeRevenue.1 h.feeRevenue.2 nofun
    · cases he

/-- Two entries on accounts that are no reserves. -/
theorem unreserved_pair {ledger : Ledger} {x y : LedgerPostingEntry}
    (hx : Unreserved ledger x.accountId) (hy : Unreserved ledger y.accountId) :
    ∀ e ∈ [x, y], Unreserved ledger e.accountId :=
  List.forall_mem_cons.mpr ⟨hx, List.forall_mem_singleton.mpr hy⟩

theorem Reserves.step (h : Reserves db) (hopen : FindsOpen db call) (ha : Apart db call) :
    Reserves (step config db call) := by
  have heffect := step_effect config db call
  have howned : KeysOwned (Platform.step config db call) := h.owned.step ha
  generalize Platform.step config db call = db' at heffect howned ⊢
  have htotals := h.totals.of_effect heffect
  have hidle : ∀ {r : Records}, records db' = r → Opened db.ledger db'.ledger →
      r.bills = db.bills.payments → r.withdrawals = db.withdrawals → Reserves db' := by
    intro r hr hopened hb hw
    exact h.of_quiet howned htotals (.of_opened hopened) (fun _ ↦ hopened.balanceOver)
      ((congrArg Records.bills hr).trans hb) ((congrArg Records.withdrawals hr).trans hw)
  cases heffect with
  | idle opens after => exact hidle after opens rfl rfl
  | @sent ctx userId dto key _ _ sender receiver _ done =>
      exact h.of_posting (o := .transfer key) howned htotals (.refl _) done.post rfl
        ⟨by rintro ⟨⟩, by rintro ⟨⟩⟩
        (unreserved_pair
          (unreserved_of_purpose done.from_account.mem done.from_account.purpose_is (by simp))
          (unreserved_of_purpose done.to_account.mem done.to_account.purpose_is (by simp)))
        (congrArg Records.bills done.after) (congrArg Records.withdrawals done.after)
  | withdrew _ _ _ _ _ done => exact h.of_withdrew howned htotals done
  | @contributed ctx userId g dto _ schedule wallet pool _ _ done =>
      exact h.of_posting (o := .contribution schedule.id dto.idempotencyKey) howned htotals
        done.opens done.post rfl
        ⟨by rintro ⟨⟩, by rintro ⟨⟩⟩
        (unreserved_pair
          (unreserved_of_purpose (done.opens.accounts _ done.wallet_account.mem)
            done.wallet_account.purpose (by simp))
          (unreserved_of_purpose done.pool_account.1
            (Ajo.purpose_of_poolAccountCode done.pool_account.2) (by simp)))
        (congrArg Records.bills done.after) (congrArg Records.withdrawals done.after)
  | paidOut r _ _ _ wallet _ _ _ _ _ done =>
      obtain ⟨-, hopens, pool, hpool, hpoolId, hcode⟩ := Ajo.poolAccountWithin_eq_ok done.credit
      subst hpoolId
      have hwallet := Ajo.memberWalletAccount_eq_ok done.account
      exact h.of_posting (o := .payout r.id) howned htotals hopens done.post rfl
        ⟨by rintro ⟨⟩, by rintro ⟨⟩⟩
        (unreserved_pair
          (unreserved_of_purpose hpool (Ajo.purpose_of_poolAccountCode hcode) (by simp))
          (unreserved_of_purpose hwallet.mem hwallet.purpose (by simp)))
        (congrArg Records.bills done.records) (congrArg Records.withdrawals done.records)
  | created _ ledger _ _ after => exact hidle after (ledger ▸ .refl _) rfl rfl
  | paid _ _ _ _ _ _ _ _ _ _ _ done _ => exact h.of_paid howned htotals done
  | charged _ _ _ ledger _ after => exact hidle after (ledger ▸ .refl _) rfl rfl
  | banked intent _ accounts _ done =>
      exact h.of_posting (o := .deposit intent.id) howned htotals (.refl _) done.deposited.post rfl
        ⟨by rintro ⟨⟩, by rintro ⟨⟩⟩ (unreserved_depositPosting done.deposited.found)
        (congrArg Records.bills done.after) (congrArg Records.withdrawals done.after)
  | @failed intentId reason same =>
      subst same
      have hrecords : records (failIntent db intentId reason) =
          { records db with intents := (failIntent db intentId reason).paymentIntents } := rfl
      exact hidle hrecords (.refl _) rfl rfl
  | reserved _ _ _ _ done => exact h.of_reserved howned htotals done
  | answered done kept =>
      refine h.of_handled howned htotals done kept fun hasked ↦ hopen _ ?_
      rw [uncertainBill, if_pos hasked]
      rfl
  | unanswered done kept _ => exact h.of_handled howned htotals done kept fun _ ↦ hopen _ rfl
  | refunded subscription _ _ escrow available _ _ done =>
      exact h.of_posting (o := .refund subscription.id (subscription.paidAt.getD 0)) howned htotals
        done.opens done.post rfl
        ⟨by rintro ⟨⟩, by rintro ⟨⟩⟩
        (unreserved_pair
          (unreserved_of_purpose done.from_account.mem done.from_account.purpose_is (by simp))
          (unreserved_of_purpose (done.opens.accounts _ done.to_account.mem)
            done.to_account.purpose_is (by simp)))
        (congrArg Records.bills done.after) (congrArg Records.withdrawals done.after)
  | @rewarded ctx input referral campaign expense available _ _ done =>
      exact h.of_posting (o := .reward referral.id campaign.version) howned htotals done.opens
        done.post rfl
        ⟨by rintro ⟨⟩, by rintro ⟨⟩⟩
        (unreserved_pair
          (unreserved_of_purpose done.from_account.mem done.from_account.purpose_is (by simp))
          (unreserved_of_purpose (done.opens.accounts _ done.to_account.1) done.to_account.2 (by simp)))
        (congrArg Records.bills done.after) (congrArg Records.withdrawals done.after)
  | elsewhere change same =>
      subst same
      exact h.of_quiet howned htotals (.of_opened (change.opens db))
        (fun _ ↦ (change.opens db).balanceOver) ha.2.2.2.2 ha.2.1

/-! ## Runs -/

/-- Nothing has been paid, reserved or asked for. -/
structure Untouched (db : Db) : Prop where
  transactions : db.ledger.transactions.rows = []
  intents : db.paymentIntents.rows = []
  bills : db.bills.payments.rows = []
  withdrawals : db.withdrawals.rows = []

theorem Reserves.of_untouched (h : Untouched db) : Reserves db where
  owned t ht := by
    rw [h.transactions] at ht
    cases ht
  totals i hi := by
    rw [h.intents] at hi
    cases hi
  settled b hb := by
    rw [h.bills] at hb
    cases hb
  released b hb := by
    rw [h.bills] at hb
    cases hb
  balance walletId := by
    have hzero : ∀ a, db.ledger.accountBalanceWithin a = 0 := by
      intro a
      rw [accountBalanceWithin_eq, h.transactions]
      rfl
    have hreserved : reservedBalance db walletId = 0 := by
      rw [reservedBalance, balanceOver]
      simp only [hzero]
      refine (sumWhere_congr (q := fun _ ↦ false) (g := fun _ ↦ 0) fun a _ ↦ by simp).trans ?_
      exact sumWhere_eq_zero fun _ _ ↦ by simp
    rw [hreserved, heldForBills, heldForWithdrawals, h.bills, h.withdrawals]
    rfl

/-- The step finds the bill unanswered if it leaves it for reconciliation, and the rest of the
platform keeps to its own records. -/
def TakesHeld (_ : BillConfig) (o : Told) (db : Db) (t : Task) : Prop :=
  ∀ call ∈ t.toCall o, FindsOpen db call ∧ Apart db call

/-- The rest of the platform keeps to its own records. -/
def TakesApart (_ : BillConfig) (o : Told) (db : Db) (t : Task) : Prop :=
  ∀ call ∈ t.toCall o, Apart db call

instance (config : BillConfig) (o : Told) (db : Db) (t : Task) :
    Decidable (TakesHeld config o db t) :=
  inferInstanceAs (Decidable (∀ call ∈ t.toCall o, FindsOpen db call ∧ Apart db call))

instance (config : BillConfig) (o : Told) (db : Db) (t : Task) :
    Decidable (TakesApart config o db t) :=
  inferInstanceAs (Decidable (∀ call ∈ t.toCall o, Apart db call))

/-- The bills of the state were paid or given back, not both, and the reserves are what is held. -/
structure ConsumedOnce (db : Db) : Prop where
  once : ∀ b ∈ db.bills.payments.rows, ¬ (isPosted db.ledger (billKey "settle:" b.id) = true ∧
    isPosted db.ledger (billKey "release:" b.id) = true)
  balance : ∀ walletId, reservedBalance db walletId =
    heldForBills db walletId + heldForWithdrawals db walletId

theorem Reserves.consumedOnce (h : Reserves db) : ConsumedOnce db := by
  refine ⟨fun b hb hboth ↦ ?_, h.balance⟩
  have hfailed := h.released b hb hboth.2
  rcases h.settled b hb hboth.1 with hst | hst
  · exact nomatch hfailed.symm.trans hst
  · exact nomatch hfailed.symm.trans hst

/-- **A bill's reserve is consumed once.**  In every state of every run in which `markUncertain` finds
the bill unanswered, no bill was both paid and given back, and every wallet holds in reserve what its
unanswered bills and its pending withdrawals come to. -/
theorem bill_reserve_consumed_once {start : Db} {threads : List Task} {q : Pool Db Task}
    (h₀ : Untouched start) (h : Runs config TakesHeld ⟨start, threads⟩ q) :
    ConsumedOnce q.shared := by
  have hreserves : Reserves q.shared :=
    invariant_of_calls h (.of_untouched h₀) (fun _ _ _ ht ↦ ht) fun _ _ hi hok ↦
      hi.step hok.1 hok.2
  exact hreserves.consumedOnce

section Sample

/-- A call on its own. -/
def sampleCall (call : Call) : List (Move Task Told) :=
  [.spawn (.call call), .run 0 ⟨sampleCtx 0, none⟩]

/-- The first member adds money, and is about to pay a bill. -/
def sampleFunding : List (Move Task Told) :=
  (sampleCalls.take 3 ++ [Call.createIntent (sampleCtx 4) .billPayment (.ofNat 1)
    ⟨some (.ofNat 53), some 20000⟩ "bill"]).flatMap sampleCall

/-- Where the moves lead, from the start. -/
def sampleRunFrom (moves : List (Move Task Told)) : Pool Db Task :=
  moves.foldl (Pool.advance (exec sampleConfig)) ⟨sampleBillers, []⟩

/-- The bill is left for reconciliation, and the first member asks for a withdrawal. -/
def sampleHolding : List (Move Task Told) :=
  sampleFunding ++ samplePaying ++ [.run 0 (sampleTold 7 .pending)] ++
    sampleCall (.withdraw (sampleCtx 8) (.ofNat 1) ⟨.ofNat 21, .ofNat 31, 30000⟩ "withdraw")

/-- The provider refuses the bill, is not sure, and then says it was paid. -/
def sampleWavering : List (Move Task Told) :=
  sampleFunding ++ samplePaying ++ [.run 0 (sampleTold 7 .pending)] ++ sampleReconcile 8 .failed ++
    sampleReconcile 10 .pending ++ sampleReconcile 12 .successful

theorem untouched_sampleBillers : Untouched sampleBillers := ⟨rfl, rfl, rfl, rfl⟩

end Sample

/-- The reserve of the first wallet while a bill and a withdrawal are held. -/
theorem bill_reserve_consumed_once_sample :
    ConsumedOnce (sampleRunFrom sampleHolding).shared ∧
      reservedBalance (sampleRunFrom sampleHolding).shared (.ofNat 21) = 50000 := by
  have hrun : Runs sampleConfig TakesHeld ⟨sampleBillers, []⟩ (sampleRunFrom sampleHolding) :=
    reaches_of_allAdmitted (by decide +kernel)
  exact ⟨bill_reserve_consumed_once untouched_sampleBillers hrun, by decide +kernel⟩

/-- It is not the case that a bill's reserve is consumed once, whatever the provider answers. -/
theorem wavering_bill_consumed_twice :
    ¬ ∀ (config : BillConfig) (start : Db) (q : Pool Db Task), Untouched start →
      Runs config TakesApart ⟨start, []⟩ q → ConsumedOnce q.shared := by
  intro h
  have hrun : Runs sampleConfig TakesApart ⟨sampleBillers, []⟩ (sampleRunFrom sampleWavering) :=
    reaches_of_allAdmitted (by decide +kernel)
  have hboth : ∃ b ∈ (sampleRunFrom sampleWavering).shared.bills.payments.rows,
      isPosted (sampleRunFrom sampleWavering).shared.ledger (billKey "settle:" b.id) = true ∧
        isPosted (sampleRunFrom sampleWavering).shared.ledger (billKey "release:" b.id) = true := by
    decide +kernel
  obtain ⟨b, hb, hposted⟩ := hboth
  exact (h sampleConfig sampleBillers _ untouched_sampleBillers hrun).once b hb hposted

end AjoCloud.Platform
