import AjoCloud.Bills.Lifecycle
import AjoCloud.Platform.Basic

/-!
# What each call did

One inversion per call: which command it posted, on whose accounts, and which row it wrote.  The
invariants of whole runs are proved from `Effect`, and none of them opens a service function again.
-/

namespace AjoCloud

open Lib Ledger Payments

/-- The tables that say what was paid, by whom and from where. -/
structure Records where
  wallets : Table Wallet
  members : Table AjoGroupMember
  transfers : Table Transfer
  withdrawals : Table Withdrawal
  intents : Table PaymentIntent
  contributions : Table Contribution
  payouts : Table Payout
  bills : Table BillPayment

/-- The records of a database. -/
def records (db : Db) : Records where
  wallets := db.wallets
  members := db.ajoGroupMembers
  transfers := db.transfers
  withdrawals := db.withdrawals
  intents := db.paymentIntents
  contributions := db.contributions
  payouts := db.payouts
  bills := db.bills.payments

/-- The account belongs to a wallet. -/
structure OfWallet (ledger : Ledger) (a : FinancialAccount) (walletId : Uuid)
    (purpose : FinancialAccountPurpose) : Prop where
  mem : a ∈ ledger.accounts.rows
  wallet_eq : a.walletId = some walletId
  purpose_is : a.purpose = some purpose

/-- The account is one of the platform's own. -/
structure OfPlatform (ledger : Ledger) (a : FinancialAccount) (purpose : FinancialAccountPurpose) :
    Prop where
  mem : a ∈ ledger.accounts.rows
  purpose_is : a.purpose = some purpose

variable {ctx : Ctx} {db db' : Db} {userId : Uuid}

/-! ## Wallets -/

namespace Wallets

theorem account_ofWallet {walletId : Uuid} {currency : String} {purpose : FinancialAccountPurpose}
    {a : FinancialAccount} (h : account db walletId currency purpose = .ok a) :
    OfWallet db.ledger a walletId purpose := by
  have hfind := orThrow_eq_ok.mp h
  have hp := Table.prop_of_find? hfind
  simp only [decide_eq_true_eq] at hp
  exact ⟨Table.mem_of_find? hfind, hp.1, hp.2.1⟩

/-- The steps of a transfer that went through. -/
structure Sent (ctx : Ctx) (db db' : Db) (userId : Uuid) (dto : SendToWalletDto) (key : String)
    (source destination : Wallet) (sender receiver : FinancialAccount) (posting : LedgerReference) :
    Prop where
  unused : ∀ t ∈ db.transfers.rows, t.idempotencyKey ≠ key
  owner : source ∈ db.wallets.rows ∧ source.userId = userId
  recipient : destination ∈ db.wallets.rows
  from_account : OfWallet db.ledger sender source.id .walletAvailable
  to_account : OfWallet db.ledger receiver destination.id .walletAvailable
  post : db.ledger.postWithin (ctx.uuid 0)
    (sendPosting ctx userId dto key source.currency sender.id receiver.id) =
      .ok (posting, db'.ledger)
  insert : db.transfers.insert (newTransfer ctx dto source destination key posting.id) =
    some db'.transfers
  after : records db' = { records db with transfers := db'.transfers }

theorem send_eq_ok {dto : SendToWalletDto} {key : String} {t : Transfer}
    (h : send ctx db userId dto key = .ok (t, db')) :
    db' = db ∨ ∃ source destination sender receiver posting,
      Sent ctx db db' userId dto key source destination sender receiver posting := by
  simp only [send, assertPayableAmount, bind_eq_ok, require_eq_ok, exists_const] at h
  obtain ⟨-, h⟩ := h
  split at h
  · cases h
    exact .inl rfl
  · next hnone =>
      simp only [sendFresh, assertDifferentWallets, assertWalletActive, assertSameCurrency,
        assertSufficientFunds, bind_eq_ok, require_eq_ok, orThrow_eq_ok, pure_eq_ok, exists_const,
        Prod.exists, Prod.mk.injEq] at h
      obtain ⟨source, hsource, recipient, -, destination, hdest, -, -, -, -, sender, hsender,
        receiver, hreceiver, -, posting, ledger, hpost, -, transfers, hinsert, rfl, rfl⟩ := h
      have hp := Table.prop_of_find? hsource
      simp only [decide_eq_true_eq] at hp
      refine .inr ⟨source, destination, sender, receiver, posting, fun t ht ↦ ?_,
        ⟨Table.mem_of_find? hsource, hp.2⟩, Table.mem_of_find? hdest, account_ofWallet hsender,
        account_ofWallet hreceiver, hpost, hinsert, rfl⟩
      simpa using Table.not_of_find?_eq_none hnone ht

/-- The steps of a withdrawal that went through. -/
structure Withdrew (ctx : Ctx) (db db' : Db) (userId : Uuid) (dto : WithdrawDto) (key : String)
    (wallet : Wallet) (bank : LinkedBankAccount) (available reserved : FinancialAccount)
    (posting : LedgerReference) : Prop where
  unused : ∀ w ∈ db.withdrawals.rows, w.idempotencyKey ≠ key
  owner : wallet ∈ db.wallets.rows ∧ wallet.userId = userId
  from_account : OfWallet db.ledger available wallet.id .walletAvailable
  to_account : OfWallet db.ledger reserved wallet.id .walletReserved
  post : db.ledger.postWithin (ctx.uuid 0)
    (withdrawPosting ctx userId dto key wallet.currency bank available.id reserved.id) =
      .ok (posting, db'.ledger)
  insert : db.withdrawals.insert (newWithdrawal ctx userId dto wallet key posting.id) =
    some db'.withdrawals
  after : records db' = { records db with withdrawals := db'.withdrawals }

theorem withdraw_eq_ok {dto : WithdrawDto} {key : String} {w : Withdrawal}
    (h : withdraw ctx db userId dto key = .ok (w, db')) :
    db' = db ∨ ∃ wallet bank available reserved posting,
      Withdrew ctx db db' userId dto key wallet bank available reserved posting := by
  simp only [withdraw, assertPayableAmount, bind_eq_ok, require_eq_ok, exists_const] at h
  obtain ⟨-, h⟩ := h
  split at h
  · cases h
    exact .inl rfl
  · next hnone =>
      simp only [withdrawFresh, assertWalletActive, assertSufficientFunds, bind_eq_ok,
        require_eq_ok, orThrow_eq_ok, pure_eq_ok, exists_const, Prod.exists, Prod.mk.injEq] at h
      obtain ⟨wallet, hwallet, -, bank, -, available, havailable, reserved, hreserved, -, posting,
        ledger, hpost, -, withdrawals, hinsert, rfl, rfl⟩ := h
      have hp := Table.prop_of_find? hwallet
      simp only [decide_eq_true_eq] at hp
      refine .inr ⟨wallet, bank, available, reserved, posting, fun w hw ↦ ?_,
        ⟨Table.mem_of_find? hwallet, hp.2⟩, account_ofWallet havailable,
        account_ofWallet hreserved, hpost, hinsert, rfl⟩
      simpa using Table.not_of_find?_eq_none hnone hw

end Wallets

/-! ## Ajo groups -/

namespace Ajo

/-- The steps of a direct contribution that went through. -/
structure DirectlyPaid (ctx : Ctx) (db db' : Db) (userId : Uuid) (member : AjoGroupMember)
    (schedule : ContributionSchedule) (dto : PayContributionDto) (wallet pool : FinancialAccount)
    (opened : Db) (posting : LedgerReference) : Prop where
  unused : ∀ c ∈ db.contributions.rows,
    c.idempotencyKey ≠ contributionIdempotencyKey schedule.id dto.idempotencyKey
  payer : member ∈ db.ajoGroupMembers.rows ∧ member.userId = userId
  opens : Opened db.ledger opened.ledger
  wallet_account : IsWalletAccount db userId schedule.currency wallet
  pool_account : pool ∈ opened.ledger.accounts.rows ∧ pool.code = poolAccountCode schedule.groupId
  post : opened.ledger.postWithin (ctx.uuid 0)
    (contributionPosting ctx userId schedule.groupId schedule dto.amountMinor
      (contributionIdempotencyKey schedule.id dto.idempotencyKey) wallet.id pool.id) =
      .ok (posting, db'.ledger)
  fresh : ∀ x ∈ db.contributions.rows, ¬ Schema.Clash x (newContribution (ctx.uuid 2) member.id
    schedule dto.amountMinor (contributionIdempotencyKey schedule.id dto.idempotencyKey) posting.id)
  contributions : db'.contributions.rows = db.contributions.rows ++
    [newContribution (ctx.uuid 2) member.id schedule dto.amountMinor
      (contributionIdempotencyKey schedule.id dto.idempotencyKey) posting.id]
  after : records db' = { records db with contributions := db'.contributions }

theorem payContribution_eq_ok {g scheduleId : Uuid} {dto : PayContributionDto} {c : Contribution}
    (h : payContribution ctx db userId g scheduleId dto = .ok (c, db')) :
    db' = db ∨ ∃ member schedule wallet pool opened posting, schedule.id = scheduleId ∧
      DirectlyPaid ctx db db' userId member schedule dto wallet pool opened posting := by
  simp only [payContribution, bind_eq_ok, require_eq_ok, orThrow_eq_ok, exists_const] at h
  obtain ⟨s, hs, rfl, slot, -, member, hmember, -, -, h⟩ := h
  have hid : s.id = scheduleId := by simpa using Table.prop_of_find? hs
  have hmp := Table.prop_of_find? hmember
  simp only [decide_eq_true_eq] at hmp
  subst hid
  split at h
  · cases h
    exact .inl rfl
  · next hnone =>
      simp only [payFresh, bind_eq_ok, require_eq_ok, mapError_eq_ok, exists_const,
        Prod.exists] at h
      obtain ⟨-, _, -, wallet, hwallet, poolId, opened, hpool, -, posting, ledger, hpost, hrec⟩ := h
      obtain ⟨hopenedDb, hopens, pool, hmem, rfl, hcode⟩ := poolAccountWithin_eq_ok hpool
      obtain ⟨rfl, hfresh, hrows, hdb'⟩ := recordContributionWithin_eq_ok hrec
      have hledger : db'.ledger = ledger := by rw [hdb']
      rw [hopenedDb] at hfresh hrows hdb'
      refine .inr ⟨member, s, wallet, pool, opened, posting, rfl, fun c hc ↦ ?_,
        ⟨Table.mem_of_find? hmember, hmp.2⟩, hopens, memberWalletAccount_eq_ok hwallet,
        ⟨hmem, hcode⟩, hledger ▸ hpost, hfresh, hrows, ?_⟩
      · simpa using Table.not_of_find?_eq_none hnone hc
      · rw [hdb']
        rfl

theorem SwapsOnly.records (h : SwapsOnly db db') : records db' = records db := by
  rw [h.after]
  rfl

theorem executeSwap_records {swapId : Uuid} {r : SwapRequest}
    (h : executeSwap ctx db userId swapId = .ok (r, db')) :
    db'.ledger = db.ledger ∧ AjoCloud.records db' = AjoCloud.records db := by
  simp only [executeSwap, bind_eq_ok, require_eq_ok, orThrow_eq_ok, pure_eq_ok, exists_const,
    Prod.mk.injEq] at h
  obtain ⟨w, -, group, -, -, -, -, -, _, -, _, -, -, rfl⟩ := h
  exact ⟨rfl, rfl⟩

theorem approveSwap_records {g swapId : Uuid} {reason : Option String} {r : SwapRequest}
    (h : approveSwap ctx db userId g swapId reason = .ok (r, db')) :
    db'.ledger = db.ledger ∧ AjoCloud.records db' = AjoCloud.records db := by
  simp only [approveSwap, bind_eq_ok, require_eq_ok, exists_const] at h
  obtain ⟨w, -, membership, -, -, db₁, hupsert, h⟩ := h
  have hdb₁ := upsertApproval_eq_ok hupsert
  split at h
  · rw [bind_eq_ok] at h
    obtain ⟨_, -, h⟩ := h
    obtain ⟨hledger, hrecords⟩ := executeSwap_records h
    rw [hledger, hrecords, hdb₁]
    exact ⟨rfl, rfl⟩
  · rw [pure_eq_ok, Prod.mk.injEq] at h
    obtain ⟨rfl, rfl⟩ := h
    rw [hdb₁]
    exact ⟨rfl, rfl⟩

theorem PayoutSettled.records {r : PayoutSchedule} {slot : AjoSlot} {p : Payout}
    {recipient : AjoGroupMember} {wallet : FinancialAccount} {pool : Uuid} {opened : Db}
    {posting : LedgerReference} {ledger : Ledger}
    (h : PayoutSettled ctx db userId r slot p db' recipient wallet pool opened posting ledger) :
    AjoCloud.records db' = { AjoCloud.records db with payouts := db'.payouts } := by
  obtain ⟨hopenedDb, -⟩ := poolAccountWithin_eq_ok h.credit
  rw [h.after, hopenedDb]
  rfl

end Ajo

/-! ## Bills -/

namespace Bills

theorem accounts_ofWallet {walletId : Uuid} {currency : String} {found : BillAccounts}
    (h : accounts db walletId currency = .ok found) :
    OfWallet db.ledger found.available walletId .walletAvailable ∧
      OfWallet db.ledger found.reserved walletId .walletReserved := by
  simp only [accounts, bind_eq_ok, orThrow_eq_ok, pure_eq_ok] at h
  obtain ⟨available, ha, reserved, hr, provider, -, fee, -, rfl⟩ := h
  have hap := Table.prop_of_find? ha
  have hrp := Table.prop_of_find? hr
  simp only [decide_eq_true_eq] at hap hrp
  exact ⟨⟨Table.mem_of_find? ha, hap.1, hap.2.1⟩, ⟨Table.mem_of_find? hr, hrp.1, hrp.2.1⟩⟩

/-- `recordBill` stored the bill. -/
theorem recordBill_records {payment : BillPayment} {fee : Option FeeDefinition}
    (h : recordBill ctx db payment fee = .ok db') :
    db.bills.payments.insert payment = some db'.bills.payments ∧
      records db' = { records db with bills := db'.bills.payments } := by
  simp only [recordBill, bind_eq_ok, require_eq_ok, pure_eq_ok, exists_const] at h
  obtain ⟨-, payments, hpayments, _, -, _, -, rfl⟩ := h
  exact ⟨orThrow_eq_ok.mp hpayments, rfl⟩

/-- The steps of a bill that was reserved directly. -/
structure Reserved (ctx : Ctx) (db db' : Db) (config : BillConfig)
    (validation : BillCustomerValidation) (userId : Uuid) (key hash : String)
    (dto : CreateBillPaymentDto) (wallet : Wallet) (feeMinor : Int) (found : BillAccounts)
    (posting : LedgerReference) : Prop where
  owner : wallet ∈ db.wallets.rows ∧ wallet.userId = userId
  accounts_eq : accounts db wallet.id wallet.currency = .ok found
  post : db.ledger.postWithin (ctx.uuid 0)
    (reservePosting ctx userId wallet.currency (dto.amountMinor + feeMinor) found) =
      .ok (posting, db'.ledger)
  insert : db.bills.payments.insert (newBill ctx config validation userId wallet.id key hash
    dto.amountMinor feeMinor wallet.currency none posting.id) = some db'.bills.payments
  after : records db' = { records db with bills := db'.bills.payments }

theorem reserve_eq_ok {config : BillConfig} {validation : BillCustomerValidation}
    {key hash : String} {dto : CreateBillPaymentDto} {p : BillPayment}
    (h : reserve ctx db config validation userId key hash dto = .ok (p, db')) :
    (db' = db ∧
        (db.bills.payments.find? fun p ↦ p.userId = userId ∧ p.idempotencyKey = key) = some p) ∨
      ∃ wallet feeMinor found posting, p.id = ctx.uuid 2 ∧
        Reserved ctx db db' config validation userId key hash dto wallet feeMinor found posting := by
  unfold reserve at h
  split at h
  · next existing hfind =>
      simp only [bind_eq_ok, require_eq_ok, pure_eq_ok, exists_const, Prod.mk.injEq] at h
      obtain ⟨-, rfl, rfl⟩ := h
      exact .inl ⟨rfl, hfind⟩
  · simp only [reserveFresh, bind_eq_ok, require_eq_ok, orThrow_eq_ok, pure_eq_ok, exists_const,
      Prod.exists, Prod.mk.injEq] at h
    obtain ⟨wallet, hwallet, _, -, fee, -, feeMinor, -, found, hfound, -, posting, ledger, hpost,
      recorded, hrec, rfl, rfl⟩ := h
    have hp := Table.prop_of_find? hwallet
    simp only [decide_eq_true_eq] at hp
    obtain ⟨hledger, -⟩ := recordBill_eq_ok hrec
    obtain ⟨hinsert, hrecords⟩ := recordBill_records hrec
    exact .inr ⟨wallet, feeMinor, found, posting, rfl, ⟨Table.mem_of_find? hwallet, hp.2.1⟩, hfound,
      hledger ▸ hpost, hinsert, hrecords⟩

/-- A transaction about a stored bill writes bills and intents. -/
def Kept (db db' : Db) : Prop :=
  records db' = { records db with
    intents := db'.paymentIntents
    bills := db'.bills.payments }

theorem Kept.committed {α : Type} {result : Except ServiceError (α × Db)}
    (h : ∀ a db', result = .ok (a, db') → Kept db db') : Kept db (committed db result) := by
  rcases committed_cases db result with hsame | ⟨a, after, hok, hafter⟩
  · rw [hsame]
    rfl
  · rw [hafter]
    exact h a after hok

theorem concludeBill_kept {paymentId : Uuid} {result : ProviderBillPayment} {p : BillPayment}
    (h : concludeBill ctx db paymentId result = .ok (p, db')) : Kept db db' := by
  rw [concludeBill, orThrow_bind_eq_ok] at h
  obtain ⟨payment, -, h⟩ := h
  split at h
  · cases h
    rfl
  · rw [bind_eq_ok] at h
    obtain ⟨found, -, h⟩ := h
    split at h
    · simp only [releaseBill, bind_eq_ok, require_eq_ok, pure_eq_ok, exists_const, Prod.exists,
        Prod.mk.injEq] at h
      obtain ⟨_, _, -, -, _, -, _, -, -, rfl⟩ := h
      rfl
    · simp only [settleBill, bind_eq_ok, require_eq_ok, pure_eq_ok, exists_const, Prod.exists,
        Prod.mk.injEq] at h
      obtain ⟨_, _, -, -, _, -, _, -, _, -, -, rfl⟩ := h
      rfl

theorem applyReversal_kept {paymentId actorUserId : Uuid} {result : ProviderBillPayment}
    {p : BillPayment} (h : applyReversal ctx db paymentId actorUserId result = .ok (p, db')) :
    Kept db db' := by
  rw [applyReversal, orThrow_bind_eq_ok] at h
  obtain ⟨payment, -, h⟩ := h
  split at h
  · cases h
    rfl
  · simp only [bind_eq_ok, require_eq_ok, pure_eq_ok, exists_const, Prod.exists,
      Prod.mk.injEq] at h
    obtain ⟨-, _, -, _, _, -, -, _, -, _, -, -, rfl⟩ := h
    rfl

theorem markUncertain_kept {paymentId : Uuid} {result : Option ProviderBillPayment} {u : PUnit}
    (h : markUncertain ctx db paymentId result = .ok (u, db')) : Kept db db' := by
  simp only [markUncertain, bind_eq_ok, require_eq_ok, pure_eq_ok, exists_const,
    Prod.mk.injEq] at h
  obtain ⟨-, _, -, _, -, -, rfl⟩ := h
  rfl

theorem applyProviderResult_kept (ctx : Ctx) (db : Db) (paymentId userId : Uuid)
    (result : ProviderBillPayment) :
    Kept db (applyProviderResult ctx db paymentId userId result) := by
  unfold applyProviderResult
  cases result.state with
  | reversed => exact .committed fun _ _ h ↦ applyReversal_kept h
  | pending => exact .committed fun _ _ h ↦ markUncertain_kept h
  | unknown => exact .committed fun _ _ h ↦ markUncertain_kept h
  | successful => exact .committed fun _ _ h ↦ concludeBill_kept h
  | failed => exact .committed fun _ _ h ↦ concludeBill_kept h

end Bills

/-! ## Food programmes and referrals -/

namespace Food

/-- The steps of a refund that went through. -/
structure Refunded (ctx : Ctx) (db db' : Db) (userId programmeId : Uuid)
    (subscription : FoodSubscription) (currency : String) (wallet : Wallet)
    (escrow available : FinancialAccount) (opened : Ledger) (posting : LedgerReference) : Prop where
  enrolled : subscription ∈ db.food.subscriptions.rows ∧ subscription.userId = userId
  owner : wallet ∈ db.wallets.rows ∧ wallet.userId = userId
  opens : Opened db.ledger opened
  from_account : OfPlatform opened escrow .foodProgrammeEscrow
  to_account : OfWallet db.ledger available wallet.id .walletAvailable
  post : opened.postWithin (ctx.uuid 0)
    (refundPosting userId programmeId subscription currency escrow.id available.id) =
      .ok (posting, db'.ledger)
  after : records db' = records db

theorem cancelSubscription_eq_ok {programmeId : Uuid} {s : FoodSubscription}
    (h : cancelSubscription ctx db userId programmeId = .ok (s, db')) :
    (db'.ledger = db.ledger ∧ records db' = records db) ∨
      ∃ subscription currency wallet escrow available opened posting,
        Refunded ctx db db' userId programmeId subscription currency wallet escrow available opened
          posting := by
  simp only [cancelSubscription, bind_eq_ok, require_eq_ok, orThrow_eq_ok, pure_eq_ok,
    exists_const, Prod.mk.injEq] at h
  obtain ⟨subscription, hsub, _, -, package, -, -, refunded, hrefund, _, -, rfl, rfl⟩ := h
  have hsp := Table.prop_of_find? hsub
  simp only [decide_eq_true_eq] at hsp
  unfold refundWithin at hrefund
  split at hrefund
  · cases hrefund
    exact .inl ⟨rfl, rfl⟩
  · simp only [bind_eq_ok, require_eq_ok, orThrow_eq_ok, pure_eq_ok, exists_const,
      Prod.exists] at hrefund
    obtain ⟨-, wallet, hwallet, available, havailable, escrowId, opened, hescrow, posting, ledger,
      hpost, rfl⟩ := hrefund
    obtain ⟨hopened, hopens, escrow, hmem, rfl, hpurpose⟩ := escrowAccountWithin_eq_ok hescrow
    have hwp := Table.prop_of_find? hwallet
    have hap := Table.prop_of_find? havailable
    simp only [decide_eq_true_eq] at hwp hap
    refine .inr ⟨subscription, package.currency, wallet, escrow, available, opened.ledger, posting,
      ⟨Table.mem_of_find? hsub, hsp.2⟩, ⟨Table.mem_of_find? hwallet, hwp.1⟩, hopens,
      ⟨hmem, hpurpose⟩, ⟨Table.mem_of_find? havailable, hap.1, hap.2.1⟩, hpost, ?_⟩
    rw [hopened]
    rfl

end Food

namespace Referrals

/-- The steps of a reward that was released. -/
structure Rewarded (ctx : Ctx) (db db' : Db) (referral : Referral) (campaign : CampaignTerms)
    (expense available : FinancialAccount) (opened : Ledger) (posting : LedgerReference) :
    Prop where
  opens : Opened db.ledger opened
  from_account : OfPlatform opened expense .referralRewardExpense
  to_account : available ∈ db.ledger.accounts.rows ∧ available.purpose = some .walletAvailable
  post : opened.postWithin (ctx.uuid 0)
    (rewardPosting ctx referral campaign expense.id available.id) = .ok (posting, db'.ledger)
  after : records db' = records db

theorem rewardAccounts_available {id referrerUserId expense : Uuid} {campaign : CampaignTerms}
    {available : FinancialAccount}
    (h : rewardAccounts db id referrerUserId campaign = .ok (expense, available, db')) :
    available ∈ db.ledger.accounts.rows ∧ available.purpose = some .walletAvailable := by
  simp only [rewardAccounts, bind_eq_ok, orThrow_eq_ok] at h
  obtain ⟨wallet, -, found, hfound, h⟩ := h
  have hp := Table.prop_of_find? hfound
  simp only [decide_eq_true_eq] at hp
  have heq : found = available := by
    split at h
    · cases h
      rfl
    · simp only [bind_eq_ok, pure_eq_ok, Prod.mk.injEq] at h
      obtain ⟨_, -, -, heq, -⟩ := h
      exact heq
  rw [← heq]
  exact ⟨Table.mem_of_find? hfound, hp.2⟩

theorem awardWithin_eq_ok {input : DepositSettled} {referral : Referral} {campaign : CampaignTerms}
    {b : Bool} (h : awardWithin ctx db input referral campaign = .ok (b, db')) :
    (db'.ledger = db.ledger ∧ records db' = records db) ∨
      ∃ expense available opened posting,
        Rewarded ctx db db' referral campaign expense available opened posting := by
  unfold awardWithin at h
  split at h
  · cases h
    exact .inl ⟨rfl, rfl⟩
  · split at h
    · simp only [bind_eq_ok, pure_eq_ok, Prod.mk.injEq] at h
      obtain ⟨_, -, -, rfl⟩ := h
      exact .inl ⟨rfl, rfl⟩
    · simp only [releaseReward, bind_eq_ok, pure_eq_ok, Prod.exists, Prod.mk.injEq] at h
      obtain ⟨_, -, expenseId, available, opened, haccounts, posting, ledger, hpost, _, -, _, -, -,
        rfl⟩ := h
      obtain ⟨hopened, hopens, expense, hmem, rfl, hpurpose⟩ := rewardAccounts_eq_ok haccounts
      refine .inr ⟨expense, available, opened.ledger, posting, hopens, ⟨hmem, hpurpose⟩,
        rewardAccounts_available haccounts, hpost, ?_⟩
      rw [hopened]
      rfl

end Referrals

/-! ## The targets of payments -/

namespace Platform

variable {config : Bills.BillConfig}

/-- The account a target is credited on. -/
inductive Credited (db : Db) (targetId : Option Uuid) (currency : String) (ledger : Ledger)
    (destination : Uuid) : PaymentTargetType → Prop
  | /-- The provider's account, a group's pool or a programme's escrow. -/
    platform {type : PaymentTargetType} (a : FinancialAccount)
      (purpose : FinancialAccountPurpose) (notBill : type ≠ .billPayment)
      (account : OfPlatform ledger a purpose) (id_eq : a.id = destination)
      (unowned : purpose ≠ .walletReserved ∧ purpose ≠ .walletAvailable)
      (pool : type = .ajoContribution → ∀ s ∈ db.contributionSchedules.rows, targetId = some s.id →
        a.code = Ajo.poolAccountCode s.groupId) :
      Credited db targetId currency ledger destination type
  | /-- The reserve of the wallet of the customer's user. -/
    reserve (a : FinancialAccount) (validation : BillCustomerValidation) (wallet : Wallet)
      (target : targetId = some validation.id) (mem : validation ∈ db.bills.validations.rows)
      (owner : wallet ∈ db.wallets.rows ∧ wallet.userId = validation.userId ∧
        wallet.currency = currency)
      (account : OfWallet ledger a wallet.id .walletReserved) (id_eq : a.id = destination) :
      Credited db targetId currency ledger destination .billPayment

theorem providerPayableAccount_ofPlatform {currency : String} {destination : Uuid}
    (h : providerPayableAccount db currency = .ok (destination, db')) :
    db' = db ∧ ∃ a, OfPlatform db.ledger a .providerPayable ∧ a.id = destination := by
  simp only [providerPayableAccount, bind_eq_ok, orThrow_eq_ok, pure_eq_ok, Prod.mk.injEq] at h
  obtain ⟨a, ha, rfl, rfl⟩ := h
  have hp := Table.prop_of_find? ha
  simp only [decide_eq_true_eq] at hp
  exact ⟨rfl, a, ⟨Table.mem_of_find? ha, hp.2.1⟩, rfl⟩

/-- Finding the account to credit opens accounts at most. -/
theorem creditAccount_eq_ok {type : PaymentTargetType} {targetId : Option Uuid} {currency : String}
    {destination : Uuid} {opened : Db}
    (h : (targets config type).creditAccount ctx db targetId currency =
      .ok (destination, opened)) :
    opened = { db with ledger := opened.ledger } ∧ Opened db.ledger opened.ledger ∧
      Credited db targetId currency opened.ledger destination type := by
  cases type with
  | akawoPoolDue =>
      obtain ⟨rfl, a, ha, hid⟩ := providerPayableAccount_ofPlatform h
      exact ⟨rfl, .refl _, .platform a _ (by simp) ha hid ⟨by simp, by simp⟩ (by simp)⟩
  | walletTopup =>
      obtain ⟨rfl, a, ha, hid⟩ := providerPayableAccount_ofPlatform h
      exact ⟨rfl, .refl _, .platform a _ (by simp) ha hid ⟨by simp, by simp⟩ (by simp)⟩
  | foodSubscription =>
      change Food.creditEscrow ctx db targetId currency = .ok (destination, opened) at h
      simp only [Food.creditEscrow, bind_eq_ok, orThrow_eq_ok] at h
      obtain ⟨_, -, _, -, h⟩ := h
      obtain ⟨hdb, hopens, a, ha, hid, hpurpose⟩ := Food.escrowAccountWithin_eq_ok h
      exact ⟨hdb, hopens, .platform a _ (by simp) ⟨ha, hpurpose⟩ hid ⟨by simp, by simp⟩ (by simp)⟩
  | ajoContribution =>
      change Ajo.creditPool ctx db targetId currency = .ok (destination, opened) at h
      simp only [Ajo.creditPool, bind_eq_ok, orThrow_eq_ok] at h
      obtain ⟨id, rfl, s, hs, h⟩ := h
      have hsid : s.id = id := by simpa using Table.prop_of_find? hs
      obtain ⟨hdb, hopens, a, ha, hid, hcode⟩ := Ajo.poolAccountWithin_eq_ok h
      refine ⟨hdb, hopens, .platform a _ (by simp) ⟨ha, Ajo.purpose_of_poolAccountCode hcode⟩ hid
        ⟨by simp, by simp⟩ fun _ s' hs' htarget ↦ ?_⟩
      have heq := db.contributionSchedules.eq_of_clash hs' (Table.mem_of_find? hs)
        (.inl ((Option.some.inj htarget).symm.trans hsid.symm))
      rw [heq]
      exact hcode
  | billPayment =>
      change Bills.reservedAccountForIntent db targetId currency = .ok (destination, opened) at h
      simp only [Bills.reservedAccountForIntent, bind_eq_ok, orThrow_eq_ok, pure_eq_ok,
        Prod.mk.injEq] at h
      obtain ⟨id, rfl, validation, hv, a, ha, hid, rfl⟩ := h
      have hvid : validation.id = id := by simpa using Table.prop_of_find? hv
      have hp := Table.prop_of_find? ha
      simp only [decide_eq_true_eq] at hp
      obtain ⟨wallet, hwallet⟩ := Option.isSome_iff_exists.mp hp.2.2.2
      have hwp := Table.prop_of_find? hwallet
      simp only [decide_eq_true_eq] at hwp
      exact ⟨rfl, .refl _, .reserve a validation wallet (congrArg some hvid.symm)
        (Table.mem_of_find? hv) ⟨Table.mem_of_find? hwallet, hwp.2.1, hwp.2.2⟩
        ⟨Table.mem_of_find? ha, hwp.1, hp.1⟩ hid⟩

/-- What a target recorded about a payment. -/
inductive Recorded (config : Bills.BillConfig) (ctx : Ctx) (payment : SettledPayment) (db db' : Db) :
    PaymentTargetType → Prop
  | /-- A due, a subscription or nothing. -/
    elsewhere {type : PaymentTargetType}
      (other : type ≠ .ajoContribution ∧ type ≠ .billPayment)
      (after : records db' = records db) : Recorded config ctx payment db db' type
  | /-- A contribution. -/
    contribution (member : AjoGroupMember) (schedule : ContributionSchedule)
      (mem : schedule ∈ db.contributionSchedules.rows) (target : payment.targetId = some schedule.id)
      (payer : member ∈ db.ajoGroupMembers.rows ∧ member.userId = payment.userId)
      (fresh : ∀ x ∈ db.contributions.rows, ¬ Schema.Clash x (Ajo.newContribution (ctx.uuid 2)
        member.id schedule payment.amountMinor
        (Ajo.contributionIdempotencyKey schedule.id ("intent:" ++ payment.intentId.toString))
        payment.ledgerTransactionId))
      (contributions : db'.contributions.rows = db.contributions.rows ++
        [Ajo.newContribution (ctx.uuid 2) member.id schedule payment.amountMinor
          (Ajo.contributionIdempotencyKey schedule.id ("intent:" ++ payment.intentId.toString))
          payment.ledgerTransactionId])
      (after : records db' = { records db with contributions := db'.contributions }) :
      Recorded config ctx payment db db' .ajoContribution
  | /-- A bill that waits for the provider. -/
    bill (validation : BillCustomerValidation) (wallet : Wallet)
      (target : payment.targetId = some validation.id)
      (owner : wallet ∈ db.wallets.rows ∧ wallet.userId = payment.userId ∧
        wallet.currency = payment.currency)
      (insert : db.bills.payments.insert (Bills.newBill ctx config validation payment.userId
        wallet.id (Bills.intentPaymentKey payment.intentId)
        (config.digest payment.intentId.toString) payment.amountMinor payment.feeMinor
        payment.currency (some payment.intentId) payment.ledgerTransactionId) =
          some db'.bills.payments)
      (after : records db' = { records db with bills := db'.bills.payments }) :
      Recorded config ctx payment db db' .billPayment

theorem settle_recorded {type : PaymentTargetType} {payment : SettledPayment}
    (h : (targets config type).settle ctx db payment = .ok db') :
    Recorded config ctx payment db db' type := by
  cases type with
  | akawoPoolDue =>
      change settleDue ctx db payment = .ok db' at h
      unfold settleDue at h
      split at h
      · cases h
        exact .elsewhere ⟨by simp, by simp⟩ rfl
      · simp only [bind_eq_ok, pure_eq_ok] at h
        obtain ⟨dues, -, rfl⟩ := h
        exact .elsewhere ⟨by simp, by simp⟩ rfl
  | walletTopup =>
      cases h
      exact .elsewhere ⟨by simp, by simp⟩ rfl
  | foodSubscription =>
      change Food.settleSubscription ctx db payment = .ok db' at h
      simp only [Food.settleSubscription, bind_eq_ok, require_eq_ok, pure_eq_ok,
        exists_const] at h
      obtain ⟨_, -, -, -, _, -, rfl⟩ := h
      exact .elsewhere ⟨by simp, by simp⟩ rfl
  | ajoContribution =>
      change Ajo.settleContribution ctx db payment = .ok db' at h
      simp only [Ajo.settleContribution, Ajo.owed, bind_eq_ok, require_eq_ok, orThrow_eq_ok,
        pure_eq_ok, exists_const, Prod.exists] at h
      obtain ⟨o, ⟨id, htarget, s, hs, _, -, _, -, _, -, member, hmember, -, rfl⟩, c, _, hrec,
        rfl⟩ := h
      have hsid : s.id = id := by simpa using Table.prop_of_find? hs
      have hmp := Table.prop_of_find? hmember
      simp only [decide_eq_true_eq] at hmp
      obtain ⟨rfl, hfresh, hrows, hdb'⟩ := Ajo.recordContributionWithin_eq_ok hrec
      refine .contribution member s (Table.mem_of_find? hs) (hsid ▸ htarget)
        ⟨Table.mem_of_find? hmember, hmp.2⟩ hfresh hrows ?_
      rw [hdb']
      rfl
  | billPayment =>
      change Bills.recordIntentPayment config ctx db payment = .ok db' at h
      simp only [Bills.recordIntentPayment, bind_eq_ok, orThrow_eq_ok] at h
      obtain ⟨id, htarget, validation, hv, wallet, hwallet, h⟩ := h
      have hvid : validation.id = id := by simpa using Table.prop_of_find? hv
      have hp := Table.prop_of_find? hwallet
      simp only [decide_eq_true_eq] at hp
      obtain ⟨hinsert, hrecords⟩ := Bills.recordBill_records h
      exact .bill validation wallet (hvid ▸ htarget) ⟨Table.mem_of_find? hwallet, hp.1, hp.2⟩ hinsert
        hrecords

/-! ## Payment intents -/

/-- The steps of an intent that was paid from the wallet. -/
structure Paid (config : Bills.BillConfig) (ctx : Ctx) (db db' : Db) (userId : Uuid)
    (intent : PaymentIntent) (key : String) (walletId : Uuid) (target : ResolvedTarget)
    (payer : PayerAccounts) (destination : Uuid) (opened : Db) (posting : LedgerReference)
    (settled : Db) : Prop where
  mem : intent ∈ db.paymentIntents.rows
  owner : intent.userId = userId
  unpaid : intent.status = .requiresConfirmation
  wallet : intent.walletId = some walletId
  payer_accounts : IsPayer db walletId intent.currency payer
  resolve : (targets config intent.targetType).resolve ctx db userId intent.targetId
    (storedRequest (targets config intent.targetType) intent.amountMinor) = .ok target
  account : (targets config intent.targetType).creditAccount ctx db intent.targetId
    intent.currency = .ok (destination, opened)
  opens : Opened db.ledger opened.ledger
  opened_eq : opened = { db with ledger := opened.ledger }
  credit : Credited db intent.targetId intent.currency opened.ledger destination intent.targetType
  post : opened.ledger.postWithin (ctx.uuid 0)
    (walletPosting (targets config intent.targetType) userId intent key target.description payer
      destination) = .ok (posting, db'.ledger)
  record : Recorded config ctx (settledPayment userId intent posting)
    { opened with ledger := db'.ledger } settled intent.targetType
  intents : db'.paymentIntents.rows = db.paymentIntents.rows.map fun i ↦
    if i.id = intent.id then markSettled ctx (targets config intent.targetType) posting i else i
  after : records db' = { records settled with intents := db'.paymentIntents }

theorem settleFromWallet_paid {type : PaymentTargetType} {intentId : Uuid} {key : String}
    {r : PaymentIntent}
    (htype : ∀ i ∈ db.paymentIntents.rows, i.id = intentId → i.targetType = type)
    (h : settleFromWallet ctx db (targets config type) userId intentId key = .ok (r, db')) :
    db' = db ∨ ∃ intent walletId target payer destination opened posting settled,
      intent.id = intentId ∧
      Paid config ctx db db' userId intent key walletId target payer destination opened posting
        settled := by
  rw [settleFromWallet, orThrow_bind_eq_ok] at h
  obtain ⟨intent, hfind, h⟩ := h
  have hp := Table.prop_of_find? hfind
  simp only [decide_eq_true_eq] at hp
  have hmem := Table.mem_of_find? hfind
  have hintent := htype intent hmem hp.1
  subst hintent
  split at h
  · next hst =>
      simp only [settlePending, bind_eq_ok, require_eq_ok, orThrow_eq_ok, pure_eq_ok, exists_const,
        Prod.exists, Prod.mk.injEq] at h
      obtain ⟨walletId, hwallet, target, hresolve, -, payer, hpayer, destination, opened, hcredit,
        -, posting, ledger, hpost, settled, hsettle, intents, hupdate, -, rfl⟩ := h
      obtain ⟨hopened, hopens, hcredited⟩ := creditAccount_eq_ok hcredit
      obtain ⟨hledger, hintents⟩ := (lawful_targets config _).settle hsettle
      replace hledger : settled.ledger = ledger := hledger
      subst hledger
      refine .inr ⟨intent, walletId, target, payer, destination, opened, posting, settled, hp.1,
        hmem, hp.2, hst, hwallet, accounts_eq_ok hpayer, hresolve, hcredit, hopens, hopened,
        hcredited, hpost, settle_recorded hsettle, ?_, rfl⟩
      have hopenedIntents : opened.paymentIntents = db.paymentIntents := by rw [hopened]
      rw [Table.rows_of_update hupdate, hintents]
      simp only [decide_eq_true_eq, hopenedIntents]
  · rw [pure_eq_ok, Prod.mk.injEq] at h
    exact .inl h.2.symm

/-- The steps of a deposit that was booked. -/
structure Banked (ctx : Ctx) (db db' : Db) (intent : PaymentIntent) (wallet : Wallet)
    (accounts : DepositAccounts) (posting : LedgerReference) : Prop where
  deposited : Deposited ctx db intent db' accounts posting
  unsettled : intent.status ≠ .succeeded
  owner : wallet ∈ db.wallets.rows ∧ wallet.userId = intent.userId ∧
    wallet.currency = intent.currency
  wallet_eq : accounts.available.walletId = some wallet.id
  after : records db' = { records db with intents := db'.paymentIntents }

theorem accountsFor_wallet {currency : String} {accounts : DepositAccounts}
    (h : accountsFor db userId currency = .ok accounts) :
    ∃ wallet ∈ db.wallets.rows, wallet.userId = userId ∧ wallet.currency = currency ∧
      accounts.available.walletId = some wallet.id := by
  simp only [accountsFor, bind_eq_ok, orThrow_eq_ok, pure_eq_ok] at h
  obtain ⟨wallet, hwallet, available, ha, provider, -, fee, -, rfl⟩ := h
  have hwp := Table.prop_of_find? hwallet
  have hap := Table.prop_of_find? ha
  simp only [decide_eq_true_eq] at hwp hap
  exact ⟨wallet, Table.mem_of_find? hwallet, hwp.1, hwp.2, hap.1⟩

theorem settleDeposit_banked {intentId : Uuid} {outcome : SettlementOutcome}
    (h : settleDeposit ctx db intentId = .ok (outcome, db')) :
    db' = db ∨ ∃ intent wallet accounts posting, intent.id = intentId ∧
      Banked ctx db db' intent wallet accounts posting := by
  unfold settleDeposit at h
  split at h
  · cases h
    exact .inl rfl
  · next intent hfind =>
      have hid : intent.id = intentId := by simpa using Table.prop_of_find? hfind
      split at h
      · cases h
        exact .inl rfl
      · next hstatus =>
          simp only [postDeposit, bind_eq_ok, pure_eq_ok, Prod.exists, Prod.mk.injEq] at h
          obtain ⟨accounts, haccounts, posting, ledger, hpost, intents, hupdate, rfl, rfl⟩ := h
          obtain ⟨wallet, hwallet, huser, hcurrency, hwalletId⟩ := accountsFor_wallet haccounts
          refine .inr ⟨intent, wallet, accounts, posting, hid, ⟨Table.mem_of_find? hfind,
            accountsFor_eq_ok haccounts, hpost, ?_⟩, hstatus, ⟨hwallet, huser, hcurrency⟩,
            hwalletId, rfl⟩
          simpa only [decide_eq_true_eq] using updateRow_eq_ok hupdate

/-- The write of `startExternal`. -/
def markCharged (ctx : Ctx) (method : PaymentMethod) (reference : String) (i : PaymentIntent) :
    PaymentIntent :=
  { i with
    status := .processing
    method := some method
    providerReference := some reference
    confirmedAt := some ctx.now }

theorem startExternal_charged {handler : PaymentTarget} {provider : PaymentProvider}
    {intentId : Uuid} {method : PaymentMethod} {charge : ChargeRequest}
    (h : startExternal ctx db handler provider userId intentId method = .ok (charge, db')) :
    ∃ intent reference, intent ∈ db.paymentIntents.rows ∧ intent.id = intentId ∧
      db'.ledger = db.ledger ∧
      (db'.paymentIntents.rows = db.paymentIntents.rows.map fun i ↦
        if i.id = intent.id then markCharged ctx method reference i else i) ∧
      records db' = { records db with intents := db'.paymentIntents } := by
  simp only [startExternal, bind_eq_ok, orThrow_eq_ok, pure_eq_ok, Prod.mk.injEq] at h
  obtain ⟨intent, hfind, target, -, answer, -, intents, hupdate, rfl, rfl⟩ := h
  have hp := Table.prop_of_find? hfind
  simp only [decide_eq_true_eq] at hp
  refine ⟨intent, answer.providerReference, Table.mem_of_find? hfind, hp.1, rfl, ?_, rfl⟩
  rw [Table.rows_of_update hupdate]
  simp only [decide_eq_true_eq]
  rfl

/-- The write of `settleFailed`. -/
def markFailed (reason : String) (i : PaymentIntent) : PaymentIntent :=
  { i with status := .failed, failureReason := some (sliceTo 500 reason) }

theorem rows_failIntent (db : Db) (intentId : Uuid) (reason : String) :
    (failIntent db intentId reason).paymentIntents.rows = db.paymentIntents.rows.map fun i ↦
      if i.id = intentId then markFailed reason i else i := by
  simp only [failIntent, Table.rows_modify, decide_eq_true_eq]
  rfl

/-! ## Every call -/

/-- The call confirms the intent from the wallet. -/
inductive Confirms (ctx : Ctx) (userId : Uuid) (intent : PaymentIntent) (key : String) : Call → Prop
  | payment : Confirms ctx userId intent key (.settleFromWallet ctx userId intent.id key)
  | contribution (type : intent.targetType = .ajoContribution) :
      Confirms ctx userId intent key (.ajo (.settleIntent ctx userId intent.id key))

/-- What a call did. -/
inductive Effect (config : Bills.BillConfig) (db : Db) (db' : Db) : Call → Prop
  | /-- Accounts were opened, at most. -/
    idle {call : Call} (opens : Opened db.ledger db'.ledger) (after : records db' = records db) :
      Effect config db db' call
  | sent {ctx : Ctx} {userId : Uuid} {dto : Wallets.SendToWalletDto} {key : String}
      (source destination : Wallet) (sender receiver : FinancialAccount) (posting : LedgerReference)
      (done : Wallets.Sent ctx db db' userId dto key source destination sender receiver posting) :
      Effect config db db' (.send ctx userId dto key)
  | withdrew {ctx : Ctx} {userId : Uuid} {dto : Wallets.WithdrawDto} {key : String}
      (wallet : Wallet) (bank : LinkedBankAccount) (available reserved : FinancialAccount)
      (posting : LedgerReference)
      (done : Wallets.Withdrew ctx db db' userId dto key wallet bank available reserved posting) :
      Effect config db db' (.withdraw ctx userId dto key)
  | contributed {ctx : Ctx} {userId g : Uuid} {dto : Ajo.PayContributionDto}
      (member : AjoGroupMember) (schedule : ContributionSchedule) (wallet pool : FinancialAccount)
      (opened : Db) (posting : LedgerReference)
      (done : Ajo.DirectlyPaid ctx db db' userId member schedule dto wallet pool opened posting) :
      Effect config db db' (.ajo (.payContribution ctx userId g schedule.id dto))
  | paidOut {ctx : Ctx} {userId g : Uuid} (r : PayoutSchedule) (slot : AjoSlot) (p : Payout)
      (recipient : AjoGroupMember) (wallet : FinancialAccount) (pool : Uuid) (opened : Db)
      (posting : LedgerReference) (mem : r ∈ db.payoutSchedules.rows)
      (unused : ∀ x ∈ db.payouts.rows, x.idempotencyKey ≠ Ajo.payoutIdempotencyKey r.id)
      (done : Ajo.PayoutSettled ctx db userId r slot p db' recipient wallet pool opened posting
        db'.ledger) :
      Effect config db db' (.ajo (.executePayout ctx userId g r.id))
  | created {call : Call} (intent : PaymentIntent) (ledger : db'.ledger = db.ledger)
      (new : intent.status = .requiresConfirmation ∧ intent.providerReference = none ∧
        intent.ledgerTransactionId = none ∧
        intent.totalMinor = totalFor intent.amountMinor intent.feeMinor)
      (insert : db.paymentIntents.insert intent = some db'.paymentIntents)
      (after : records db' = { records db with intents := db'.paymentIntents }) :
      Effect config db db' call
  | paid {call : Call} (ctx : Ctx) (userId : Uuid) (intent : PaymentIntent) (key : String)
      (walletId : Uuid) (target : ResolvedTarget) (payer : PayerAccounts) (destination : Uuid)
      (opened : Db) (posting : LedgerReference) (settled : Db)
      (done : Paid config ctx db db' userId intent key walletId target payer destination opened
        posting settled)
      (asked : Confirms ctx userId intent key call) : Effect config db db' call
  | charged {ctx : Ctx} {provider : PaymentProvider} {userId : Uuid} (intent : PaymentIntent)
      {method : PaymentMethod} (reference : String) (mem : intent ∈ db.paymentIntents.rows)
      (ledger : db'.ledger = db.ledger)
      (intents : db'.paymentIntents.rows = db.paymentIntents.rows.map fun i ↦
        if i.id = intent.id then markCharged ctx method reference i else i)
      (after : records db' = { records db with intents := db'.paymentIntents }) :
      Effect config db db' (.startExternal ctx provider userId intent.id method)
  | banked {ctx : Ctx} (intent : PaymentIntent) (wallet : Wallet) (accounts : DepositAccounts)
      (posting : LedgerReference) (done : Banked ctx db db' intent wallet accounts posting) :
      Effect config db db' (.settleDeposit ctx intent.id)
  | failed {intentId : Uuid} {reason : String} (same : db' = failIntent db intentId reason) :
      Effect config db db' (.failIntent intentId reason)
  | reserved {ctx : Ctx} {validation : BillCustomerValidation} {userId : Uuid} {key hash : String}
      {dto : Bills.CreateBillPaymentDto} (wallet : Wallet) (feeMinor : Int)
      (found : Bills.BillAccounts) (posting : LedgerReference)
      (done : Bills.Reserved ctx db db' config validation userId key hash dto wallet feeMinor found
        posting) : Effect config db db' (.reserveBill ctx validation userId key hash dto)
  | answered {ctx : Ctx} {paymentId userId : Uuid} {result : Bills.ProviderBillPayment}
      (done : Bills.Handled ctx paymentId (some result) db db') (kept : Bills.Kept db db') :
      Effect config db db' (.applyProviderResult ctx paymentId userId result)
  | unanswered {ctx : Ctx} {paymentId : Uuid} (done : Bills.Handled ctx paymentId none db db')
      (kept : Bills.Kept db db') (ledger : db'.ledger = db.ledger) : Effect config db db' (.markUncertain ctx paymentId)
  | refunded {ctx : Ctx} {userId programmeId : Uuid} (subscription : FoodSubscription)
      (currency : String) (wallet : Wallet) (escrow available : FinancialAccount) (opened : Ledger)
      (posting : LedgerReference)
      (done : Food.Refunded ctx db db' userId programmeId subscription currency wallet escrow
        available opened posting) : Effect config db db' (.cancelSubscription ctx userId programmeId)
  | rewarded {ctx : Ctx} {input : Referrals.DepositSettled} {referral : Referral}
      {campaign : Referrals.CampaignTerms} (expense available : FinancialAccount) (opened : Ledger)
      (posting : LedgerReference)
      (done : Referrals.Rewarded ctx db db' referral campaign expense available opened posting) :
      Effect config db db' (.award ctx input referral campaign)
  | elsewhere (change : Elsewhere) (same : db' = change.update db) :
      Effect config db db' (.elsewhere change)

theorem Effect.refl (config : Bills.BillConfig) (db : Db) (call : Call) : Effect config db db call :=
  .idle (.refl _) rfl

/-- A transaction that has an effect whenever it returns has one when it is committed. -/
theorem Effect.committed {α : Type} {call : Call} {result : Except ServiceError (α × Db)}
    (h : ∀ a db', result = .ok (a, db') → Effect config db db' call) :
    Effect config db (committed db result) call := by
  rcases committed_cases db result with hsame | ⟨a, after, hok, hafter⟩
  · rw [hsame]
    exact .refl config db call
  · rw [hafter]
    exact h a after hok

theorem create_effect {call : Call} {handler : PaymentTarget} {dto : CreateIntentDto} {key : String}
    {r : PaymentIntent} (h : create ctx db handler userId dto key = .ok (r, db')) :
    Effect config db db' call := by
  cases create_eq_ok h with
  | replayed _ _ same =>
      rw [same]
      exact .refl config db call
  | stored target fee intents _ _ intent_eq insert after =>
      subst after
      exact .created r rfl (by rw [intent_eq]; exact ⟨rfl, rfl, rfl, rfl⟩) insert rfl

theorem settleFromWallet_effect {call : Call} {type : PaymentTargetType} {intentId : Uuid}
    {key : String} {r : PaymentIntent}
    (htype : ∀ i ∈ db.paymentIntents.rows, i.id = intentId → i.targetType = type)
    (hcall : ∀ i : PaymentIntent, i.id = intentId → i.targetType = type →
      Confirms ctx userId i key call)
    (h : settleFromWallet ctx db (targets config type) userId intentId key = .ok (r, db')) :
    Effect config db db' call := by
  obtain rfl | ⟨intent, walletId, target, payer, destination, opened, posting, settled, hid,
    hpaid⟩ := settleFromWallet_paid htype h
  · exact .refl config _ call
  · exact .paid ctx userId intent key walletId target payer destination opened posting settled hpaid
      (hcall intent hid (htype intent hpaid.mem hid))

theorem ajo_effect (config : Bills.BillConfig) (db : Db) (call : Ajo.Call) :
    Effect config db (Ajo.step db call) (.ajo call) := by
  cases call with
  | payContribution ctx userId g scheduleId dto =>
      refine .committed fun _ _ h ↦ ?_
      obtain rfl | ⟨member, schedule, wallet, pool, opened, posting, rfl, hpaid⟩ :=
        Ajo.payContribution_eq_ok h
      · exact .refl config _ _
      · exact .contributed member schedule wallet pool opened posting hpaid
  | createIntent ctx userId dto key => exact .committed fun _ _ h ↦ create_effect h
  | settleIntent ctx userId intentId key =>
      refine .committed fun r db' h ↦ ?_
      simp only [Ajo.settleIntent, bind_eq_ok, require_eq_ok, orThrow_eq_ok, exists_const] at h
      obtain ⟨intent, hfind, htype, h⟩ := h
      have hp := Table.prop_of_find? hfind
      simp only [decide_eq_true_eq] at hp
      change settleFromWallet ctx db (targets config .ajoContribution) userId intentId key =
        .ok (r, db') at h
      refine settleFromWallet_effect (fun i hi hid ↦ ?_) (fun i hid hitype ↦ ?_) h
      · rw [intent_eq_of_id hi (Table.mem_of_find? hfind) (hid.trans hp.1.symm)]
        exact htype
      · rw [← hid]
        exact .contribution hitype
  | executePayout ctx userId g id =>
      rw [Ajo.step]
      cases Ajo.executePayout_cases ctx db userId g id with
      | nothing same =>
          rw [same]
          exact .refl config db _
      | held hold _ =>
          rw [hold]
          exact .idle (.refl _) rfl
      | paid r slot p hr hid hg hslot hunused hpay =>
          obtain ⟨recipient, wallet, pool, opened, posting, ledger, hs⟩ := Ajo.payOut_eq_ok hpay
          have hledger : (Ajo.executePayout ctx db userId g id).2.ledger = ledger := by rw [hs.after]
          rw [← hledger] at hs
          subst hid
          exact .paidOut r slot p recipient wallet pool opened posting hr hunused hs
  | createSwap ctx userId g dto =>
      refine .committed fun _ _ h ↦ ?_
      have honly := Ajo.createSwap_swapsOnly h
      exact .idle (by rw [honly.after]; exact .refl _) honly.records
  | approveSwap ctx userId g swapId reason =>
      refine .committed fun _ _ h ↦ ?_
      obtain ⟨hledger, hrecords⟩ := Ajo.approveSwap_records h
      exact .idle (by rw [hledger]; exact .refl _) hrecords
  | rejectSwap ctx userId g swapId reason =>
      refine .committed fun _ _ h ↦ ?_
      have honly := Ajo.rejectSwap_swapsOnly h
      exact .idle (by rw [honly.after]; exact .refl _) honly.records
  | assignStatus scheduleId writeOff => exact .idle (.refl _) rfl

/-- Every call has one of these effects. -/
theorem step_effect (config : Bills.BillConfig) (db : Db) (call : Call) :
    Effect config db (step config db call) call := by
  cases call with
  | send ctx userId dto key =>
      refine .committed fun _ _ h ↦ ?_
      obtain rfl | ⟨source, destination, sender, receiver, posting, hsent⟩ := Wallets.send_eq_ok h
      · exact .refl config _ _
      · exact .sent source destination sender receiver posting hsent
  | withdraw ctx userId dto key =>
      refine .committed fun _ _ h ↦ ?_
      obtain rfl | ⟨wallet, bank, available, reserved, posting, hdone⟩ := Wallets.withdraw_eq_ok h
      · exact .refl config _ _
      · exact .withdrew wallet bank available reserved posting hdone
  | ajo call => exact ajo_effect config db call
  | createIntent ctx type userId dto key => exact .committed fun _ _ h ↦ create_effect h
  | settleFromWallet ctx userId intentId key =>
      rw [step]
      split
      · next target htarget =>
          obtain ⟨i, hi, rfl⟩ := Option.map_eq_some_iff.mp htarget
          have hid : i.id = intentId := by simpa using Table.prop_of_find? hi
          refine .committed fun _ _ h ↦
            settleFromWallet_effect (fun j hj hjd ↦ ?_) (fun j hjd _ ↦ ?_) h
          · rw [intent_eq_of_id hj (Table.mem_of_find? hi) (hjd.trans hid.symm)]
          · rw [← hjd]
            exact .payment
      · exact .refl config db _
  | startExternal ctx provider userId intentId method =>
      rw [step]
      split
      · refine .committed fun _ _ h ↦ ?_
        obtain ⟨intent, reference, hmem, rfl, hledger, hintents, hafter⟩ := startExternal_charged h
        exact .charged intent reference hmem hledger hintents hafter
      · exact .refl config db _
  | settleDeposit ctx intentId =>
      refine .committed fun _ _ h ↦ ?_
      obtain rfl | ⟨intent, wallet, accounts, posting, rfl, hbanked⟩ := settleDeposit_banked h
      · exact .refl config _ _
      · exact .banked intent wallet accounts posting hbanked
  | failIntent intentId reason => exact .failed rfl
  | reserveBill ctx validation userId key hash dto =>
      refine .committed fun _ _ h ↦ ?_
      obtain ⟨rfl, -⟩ | ⟨wallet, feeMinor, found, posting, -, hdone⟩ := Bills.reserve_eq_ok h
      · exact .refl config _ _
      · exact .reserved wallet feeMinor found posting hdone
  | applyProviderResult ctx paymentId userId result =>
      exact .answered (Bills.applyProviderResult_handled ctx db paymentId userId result)
        (Bills.applyProviderResult_kept ctx db paymentId userId result)
  | markUncertain ctx paymentId =>
      refine .unanswered (.committed fun _ _ h ↦ Bills.markUncertain_handled rfl h)
        (.committed fun _ _ h ↦ Bills.markUncertain_kept h) ?_
      rcases committed_cases db (Bills.markUncertain ctx db paymentId none) with
        hsame | ⟨_, after, hok, hafter⟩
      · exact congrArg Db.ledger hsame
      · exact (congrArg Db.ledger hafter).trans (Bills.markUncertain_eq_ok hok).1
  | cancelSubscription ctx userId programmeId =>
      refine .committed fun _ _ h ↦ ?_
      obtain ⟨hledger, hrecords⟩ | ⟨subscription, currency, wallet, escrow, available, opened,
        posting, hdone⟩ := Food.cancelSubscription_eq_ok h
      · exact .idle (by rw [hledger]; exact .refl _) hrecords
      · exact .refunded subscription currency wallet escrow available opened posting hdone
  | award ctx input referral campaign =>
      refine .committed fun _ _ h ↦ ?_
      obtain ⟨hledger, hrecords⟩ | ⟨expense, available, opened, posting, hdone⟩ :=
        Referrals.awardWithin_eq_ok h
      · exact .idle (by rw [hledger]; exact .refl _) hrecords
      · exact .rewarded expense available opened posting hdone
  | elsewhere change => exact .elsewhere change rfl

end Platform

end AjoCloud
