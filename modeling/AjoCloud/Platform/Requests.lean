import AjoCloud.Ajo.Steps
import AjoCloud.Bills.Basic
import AjoCloud.Food.Subscriptions
import AjoCloud.Payments.Requests
import AjoCloud.Referrals.Basic
import AjoCloud.Wallets.Movements

/-!
# The requests of each product

Every transaction of a product that touches money is a `Request`: it posts at most one command,
which debits an account that is no wallet, or a wallet whose balance was checked for just the
amount that is debited.
-/

namespace AjoCloud

open Lib Ledger Payments

variable {ctx : Ctx} {db db' : Db} {userId : Uuid}

/-! ## Wallets -/

namespace Wallets

theorem send_request {dto : SendToWalletDto} {key : String} {t : Transfer}
    (h : send ctx db userId dto key = .ok (t, db')) : Request db db' := by
  simp only [send, assertPayableAmount, bind_eq_ok, require_eq_ok, exists_const] at h
  obtain ⟨-, h⟩ := h
  split at h
  · cases h
    exact .refl _
  · simp only [sendFresh, assertDifferentWallets, assertWalletActive, assertSameCurrency,
      assertSufficientFunds, bind_eq_ok, require_eq_ok, orThrow_eq_ok, pure_eq_ok, exists_const,
      Prod.exists, Prod.mk.injEq] at h
    obtain ⟨source, -, recipient, -, destination, -, -, -, -, -, sender, -, receiver, -, hcovered,
      posting, ledger, hpost, -, transfers, -, rfl, rfl⟩ := h
    refine ⟨.of_postWithin (.refl _) hpost fun hb ↦ ?_, .of_eq rfl⟩
    refine .of_key (affords_of_payer hb rfl ?_ (not_lt.mp hcovered)) 1 rfl (by simp) (by simp)
      (by simp)
    intro e he
    rw [List.mem_singleton.mp he]

theorem withdraw_request {dto : WithdrawDto} {key : String} {w : Withdrawal}
    (h : withdraw ctx db userId dto key = .ok (w, db')) : Request db db' := by
  simp only [withdraw, assertPayableAmount, bind_eq_ok, require_eq_ok, exists_const] at h
  obtain ⟨-, h⟩ := h
  split at h
  · cases h
    exact .refl _
  · simp only [withdrawFresh, assertWalletActive, assertSufficientFunds, bind_eq_ok, require_eq_ok,
      orThrow_eq_ok, pure_eq_ok, exists_const, Prod.exists, Prod.mk.injEq] at h
    obtain ⟨wallet, -, -, bank, -, available, -, reserved, -, hcovered, posting, ledger, hpost, -,
      withdrawals, -, rfl, rfl⟩ := h
    refine ⟨.of_postWithin (.refl _) hpost fun hb ↦ ?_, .of_eq rfl⟩
    refine .of_key (affords_of_payer hb rfl ?_ (not_lt.mp hcovered)) 1 rfl (by simp) (by simp)
      (by simp)
    intro e he
    rw [List.mem_singleton.mp he]

end Wallets

/-! ## Ajo groups -/

namespace Ajo

theorem lawful_ajoContributionTarget : LawfulTarget ajoContributionTarget where
  credit := by
    intro ctx db targetId currency destination db' h
    change creditPool ctx db targetId currency = .ok (destination, db') at h
    simp only [creditPool, bind_eq_ok, orThrow_eq_ok] at h
    obtain ⟨_, -, _, -, h⟩ := h
    obtain ⟨hdb', hopened, -⟩ := poolAccountWithin_eq_ok h
    exact ⟨hopened, by rw [hdb']⟩
  settle := by
    intro ctx db payment db' h
    change settleContribution ctx db payment = .ok db' at h
    simp only [settleContribution, bind_eq_ok, pure_eq_ok, Prod.exists] at h
    obtain ⟨_, -, c, _, hrec, rfl⟩ := h
    rw [(recordContributionWithin_eq_ok hrec).2.2.2]
    exact ⟨rfl, rfl⟩

theorem payContribution_request {g scheduleId : Uuid} {dto : PayContributionDto} {c : Contribution}
    (h : payContribution ctx db userId g scheduleId dto = .ok (c, db')) : Request db db' := by
  simp only [payContribution, bind_eq_ok, require_eq_ok, orThrow_eq_ok, exists_const] at h
  obtain ⟨s, -, -, slot, -, member, -, -, -, h⟩ := h
  split at h
  · cases h
    exact .refl _
  · simp only [payFresh, bind_eq_ok, require_eq_ok, mapError_eq_ok, exists_const, Prod.exists] at h
    obtain ⟨-, _, -, wallet, -, pool, opened, hpool, hcovered, posting, ledger, hpost, hrec⟩ := h
    obtain ⟨hopenedDb, hopened, -⟩ := poolAccountWithin_eq_ok hpool
    have hdb' := (recordContributionWithin_eq_ok hrec).2.2.2
    refine ⟨?_, .of_eq (by rw [hdb', hopenedDb])⟩
    have hledger : db'.ledger = ledger := by rw [hdb']
    rw [hledger]
    refine .of_postWithin hopened hpost fun hb ↦ ?_
    refine .of_key (affords_of_payer hb rfl ?_ (not_lt.mp hcovered)) 1 String.append_assoc
      (by simp) (by simp) (by simp)
    intro e he
    rw [List.mem_singleton.mp he]

/-- A payout debits the group's pool, which is no wallet. -/
theorem executePayout_request (ctx : Ctx) (db : Db) (userId g id : Uuid) :
    Request db (executePayout ctx db userId g id).2 := by
  cases executePayout_cases ctx db userId g id with
  | nothing same =>
      rw [same]
      exact .refl db
  | held hold _ =>
      rw [hold]
      exact .idle (.refl _) rfl
  | paid r slot p _ _ _ _ _ hpay =>
      obtain ⟨recipient, wallet, pool, opened, posting, ledger, hs⟩ := payOut_eq_ok hpay
      obtain ⟨hopenedDb, hopened, a, ha, rfl, hcode⟩ := poolAccountWithin_eq_ok hs.credit
      refine ⟨?_, .of_eq (by rw [hs.after, hopenedDb])⟩
      have hledger : (executePayout ctx db userId g id).2.ledger = ledger := by rw [hs.after]
      rw [hledger]
      refine .of_postWithin hopened hs.post fun hb ↦ ?_
      refine .of_key (affords_of_debits hb ?_) 1 rfl (by simp) (by simp) (by simp)
      intro e he hdir
      simp only [payoutPosting, List.mem_cons, List.not_mem_nil, or_false] at he
      rcases he with rfl | rfl
      · refine ⟨a, ha, rfl, ?_⟩
        rw [purpose_of_poolAccountCode hcode]
        simp
      · cases hdir

theorem SwapsOnly.request (h : SwapsOnly db db') : Request db db' := by
  rw [h.after]
  exact .idle (.refl _) rfl

/-- Every call on a group is a request. -/
theorem step_request (db : Db) (call : Call) : Request db (step db call) := by
  cases call with
  | payContribution ctx userId groupId scheduleId dto =>
      exact .committed fun _ _ h ↦ payContribution_request h
  | createIntent ctx userId dto key => exact .committed fun _ _ h ↦ create_request h
  | settleIntent ctx userId intentId key =>
      refine .committed fun _ _ h ↦ ?_
      simp only [settleIntent, bind_eq_ok, require_eq_ok, exists_const] at h
      obtain ⟨_, -, -, h⟩ := h
      exact settleFromWallet_request lawful_ajoContributionTarget h
  | executePayout ctx userId groupId payoutScheduleId => exact executePayout_request ..
  | createSwap ctx userId groupId dto =>
      exact .committed fun _ _ h ↦ (createSwap_swapsOnly h).request
  | approveSwap ctx userId groupId swapId reason =>
      refine .committed fun _ _ h ↦ ?_
      rcases approveSwap_eq_ok h with ⟨-, honly⟩ | ⟨w, -, -, hexec⟩
      · exact honly.request
      · exact .idle (hexec.swapped.ledger ▸ .refl _) hexec.swapped.intents
  | rejectSwap ctx userId groupId swapId reason =>
      exact .committed fun _ _ h ↦ (rejectSwap_swapsOnly h).request
  | assignStatus scheduleId writeOff => exact .idle (.refl _) rfl

end Ajo

/-! ## Food programmes -/

namespace Food

theorem lawful_foodSubscriptionTarget : LawfulTarget foodSubscriptionTarget where
  credit := by
    intro ctx db targetId currency destination db' h
    change creditEscrow ctx db targetId currency = .ok (destination, db') at h
    simp only [creditEscrow, bind_eq_ok, orThrow_eq_ok] at h
    obtain ⟨_, -, _, -, h⟩ := h
    obtain ⟨hdb', hopened, -⟩ := escrowAccountWithin_eq_ok h
    exact ⟨hopened, by rw [hdb']⟩
  settle := by
    intro ctx db payment db' h
    change settleSubscription ctx db payment = .ok db' at h
    simp only [settleSubscription, bind_eq_ok, require_eq_ok, pure_eq_ok, exists_const] at h
    obtain ⟨_, -, -, -, _, -, rfl⟩ := h
    exact ⟨rfl, rfl⟩

/-- A refund debits the programme's escrow, which is no wallet. -/
theorem refundWithin_request {programmeId : Uuid} {status : FoodAjoStatus}
    {subscription : FoodSubscription} {currency : String}
    (h : refundWithin ctx db userId programmeId status subscription currency = .ok db') :
    Request db db' := by
  unfold refundWithin at h
  split at h
  · cases h
    exact .refl _
  · simp only [bind_eq_ok, require_eq_ok, orThrow_eq_ok, pure_eq_ok, exists_const,
      Prod.exists] at h
    obtain ⟨-, wallet, -, walletAccount, -, escrow, opened, hescrow, posting, ledger, hpost, rfl⟩ :=
      h
    obtain ⟨hopenedDb, hopened, a, ha, rfl, hpurpose⟩ := escrowAccountWithin_eq_ok hescrow
    refine ⟨.of_postWithin hopened hpost fun hb ↦ ?_, .of_eq (by rw [hopenedDb])⟩
    refine .of_key (affords_of_debits hb ?_) 1 rfl (by simp) (by simp) (by simp)
    intro e he hdir
    simp only [refundPosting, List.mem_cons, List.not_mem_nil, or_false] at he
    rcases he with rfl | rfl
    · refine ⟨a, ha, rfl, ?_⟩
      rw [hpurpose]
      simp
    · cases hdir

theorem cancelSubscription_request {programmeId : Uuid} {s : FoodSubscription}
    (h : cancelSubscription ctx db userId programmeId = .ok (s, db')) : Request db db' := by
  simp only [cancelSubscription, bind_eq_ok, require_eq_ok, orThrow_eq_ok, pure_eq_ok,
    exists_const, Prod.mk.injEq] at h
  obtain ⟨_, -, _, -, _, -, -, refunded, hrefund, _, -, rfl, rfl⟩ := h
  have hr := refundWithin_request hrefund
  exact ⟨hr.posts, hr.keeps⟩

end Food

/-! ## Bills -/

namespace Bills

/-- The accounts of a bill have the purposes their names say. -/
structure IsBillAccounts (ledger : Ledger) (accounts : BillAccounts) : Prop where
  reserved : accounts.reserved ∈ ledger.accounts.rows ∧
    accounts.reserved.purpose = some .walletReserved
  providerPayable : accounts.providerPayable ∈ ledger.accounts.rows ∧
    accounts.providerPayable.purpose = some .providerPayable
  feeRevenue : accounts.feeRevenue ∈ ledger.accounts.rows ∧
    accounts.feeRevenue.purpose = some .platformFeeRevenue

theorem accounts_eq_ok {walletId : Uuid} {currency : String} {found : BillAccounts}
    (h : accounts db walletId currency = .ok found) : IsBillAccounts db.ledger found := by
  simp only [accounts, bind_eq_ok, orThrow_eq_ok, pure_eq_ok] at h
  obtain ⟨available, -, reserved, hr, provider, hp, fee, hf, rfl⟩ := h
  have hrp := Table.prop_of_find? hr
  have hpp := Table.prop_of_find? hp
  have hfp := Table.prop_of_find? hf
  simp only [decide_eq_true_eq] at hrp hpp hfp
  exact ⟨⟨Table.mem_of_find? hr, hrp.2.1⟩, ⟨Table.mem_of_find? hp, hpp.2.1⟩,
    ⟨Table.mem_of_find? hf, hfp.2.1⟩⟩

theorem recordBill_eq_ok {payment : BillPayment} {fee : Option FeeDefinition}
    (h : recordBill ctx db payment fee = .ok db') :
    db'.ledger = db.ledger ∧ db'.paymentIntents = db.paymentIntents := by
  simp only [recordBill, bind_eq_ok, require_eq_ok, pure_eq_ok, exists_const] at h
  obtain ⟨-, _, -, _, -, _, -, rfl⟩ := h
  exact ⟨rfl, rfl⟩

theorem lawful_billPaymentTarget (config : BillConfig) :
    LawfulTarget (billPaymentTarget config) where
  credit := by
    intro ctx db targetId currency destination db' h
    change reservedAccountForIntent db targetId currency = .ok (destination, db') at h
    simp only [reservedAccountForIntent, bind_eq_ok, orThrow_eq_ok, pure_eq_ok,
      Prod.mk.injEq] at h
    obtain ⟨_, -, _, -, _, -, -, rfl⟩ := h
    exact ⟨.refl _, rfl⟩
  settle := by
    intro ctx db payment db' h
    change recordIntentPayment config ctx db payment = .ok db' at h
    simp only [recordIntentPayment, bind_eq_ok, orThrow_eq_ok] at h
    obtain ⟨_, -, _, -, _, -, h⟩ := h
    exact recordBill_eq_ok h

theorem reserve_request {config : BillConfig} {validation : BillCustomerValidation}
    {key hash : String} {dto : CreateBillPaymentDto} {p : BillPayment}
    (h : reserve ctx db config validation userId key hash dto = .ok (p, db')) :
    Request db db' := by
  unfold reserve at h
  split at h
  · simp only [bind_eq_ok, require_eq_ok, pure_eq_ok, exists_const, Prod.mk.injEq] at h
    obtain ⟨-, -, rfl⟩ := h
    exact .refl _
  · simp only [reserveFresh, bind_eq_ok, require_eq_ok, orThrow_eq_ok, pure_eq_ok, exists_const,
      Prod.exists, Prod.mk.injEq] at h
    obtain ⟨wallet, -, _, -, fee, -, feeMinor, -, found, -, hcovered, posting, ledger, hpost,
      recorded, hrec, rfl, rfl⟩ := h
    obtain ⟨hledger, hintents⟩ := recordBill_eq_ok hrec
    refine ⟨?_, .of_eq hintents⟩
    rw [hledger]
    refine .of_postWithin (.refl _) hpost fun hb ↦ ?_
    refine .of_key (affords_of_payer hb rfl ?_ (not_lt.mp hcovered)) 1 rfl (by simp) (by simp)
      (by simp)
    intro e he
    rw [List.mem_singleton.mp he]

/-- A posting about a bill is sound when its debits are on accounts that are no wallets. -/
theorem sound_billPosting {ledger : Ledger} {event tag description : String}
    {payment : BillPayment} {actor : Option Uuid} {entries : List LedgerPostingEntry}
    (hb : (billPosting event tag description payment actor entries).Balanced)
    (h : ∀ e ∈ entries, e.direction = .debit →
      ∃ b ∈ ledger.accounts.rows, b.id = e.accountId ∧ b.purpose ≠ some .walletAvailable) :
    Sound db ledger (billPosting event tag description payment actor entries) :=
  .of_key (affords_of_debits hb h) 1 rfl (by simp) (by simp) (by simp)

theorem mem_feeEntry {accounts : BillAccounts} {direction : EntryDirection} {feeMinor : Int}
    {e : LedgerPostingEntry} (h : e ∈ feeEntry accounts direction feeMinor) :
    e = ⟨accounts.feeRevenue.id, direction, feeMinor⟩ := by
  unfold feeEntry at h
  split at h
  · exact List.mem_singleton.mp h
  · cases h

theorem releaseBill_request {payment : BillPayment} {found : BillAccounts}
    {result : ProviderBillPayment} {p : BillPayment} (hfound : IsBillAccounts db.ledger found)
    (h : releaseBill ctx db payment found result = .ok (p, db')) : Request db db' := by
  simp only [releaseBill, bind_eq_ok, require_eq_ok, pure_eq_ok, exists_const, Prod.exists,
    Prod.mk.injEq] at h
  obtain ⟨posting, ledger, hpost, -, _, -, _, -, -, rfl⟩ := h
  refine ⟨.of_postWithin (.refl _) hpost fun hb ↦ sound_billPosting hb ?_,
    .of_map rfl fun _ ↦ terms_ite rfl⟩
  intro e he hdir
  simp only [List.mem_cons, List.not_mem_nil, or_false] at he
  rcases he with rfl | rfl
  · refine ⟨_, hfound.reserved.1, rfl, ?_⟩
    rw [hfound.reserved.2]
    simp
  · cases hdir

theorem settleBill_request {payment : BillPayment} {found : BillAccounts}
    {result : ProviderBillPayment} {p : BillPayment} (hfound : IsBillAccounts db.ledger found)
    (h : settleBill ctx db payment found result = .ok (p, db')) : Request db db' := by
  simp only [settleBill, bind_eq_ok, require_eq_ok, pure_eq_ok, exists_const, Prod.exists,
    Prod.mk.injEq] at h
  obtain ⟨posting, ledger, hpost, -, _, -, _, -, _, -, -, rfl⟩ := h
  refine ⟨.of_postWithin (.refl _) hpost fun hb ↦ sound_billPosting hb ?_,
    .of_map rfl fun _ ↦ terms_ite rfl⟩
  intro e he hdir
  simp only [List.cons_append, List.nil_append, List.mem_cons] at he
  rcases he with rfl | rfl | he
  · refine ⟨_, hfound.reserved.1, rfl, ?_⟩
    rw [hfound.reserved.2]
    simp
  · cases hdir
  · rw [mem_feeEntry he] at hdir
    cases hdir

theorem concludeBill_request {paymentId : Uuid} {result : ProviderBillPayment} {p : BillPayment}
    (h : concludeBill ctx db paymentId result = .ok (p, db')) : Request db db' := by
  rw [concludeBill, orThrow_bind_eq_ok] at h
  obtain ⟨payment, -, h⟩ := h
  split at h
  · cases h
    exact .refl _
  · rw [bind_eq_ok] at h
    obtain ⟨found, hfound, h⟩ := h
    split at h
    · exact releaseBill_request (accounts_eq_ok hfound) h
    · exact settleBill_request (accounts_eq_ok hfound) h

theorem applyReversal_request {paymentId actorUserId : Uuid} {result : ProviderBillPayment}
    {p : BillPayment} (h : applyReversal ctx db paymentId actorUserId result = .ok (p, db')) :
    Request db db' := by
  rw [applyReversal, orThrow_bind_eq_ok] at h
  obtain ⟨payment, -, h⟩ := h
  split at h
  · cases h
    exact .refl _
  · simp only [bind_eq_ok, require_eq_ok, pure_eq_ok, exists_const, Prod.exists,
      Prod.mk.injEq] at h
    obtain ⟨-, found, hfound, posting, ledger, hpost, -, _, -, _, -, -, rfl⟩ := h
    have hacc := accounts_eq_ok hfound
    refine ⟨.of_postWithin (.refl _) hpost fun hb ↦ sound_billPosting hb ?_, .of_eq rfl⟩
    intro e he hdir
    simp only [List.cons_append, List.nil_append, List.mem_cons, List.mem_append,
      List.not_mem_nil, or_false] at he
    rcases he with rfl | he | rfl
    · refine ⟨_, hacc.providerPayable.1, rfl, ?_⟩
      rw [hacc.providerPayable.2]
      simp
    · rw [mem_feeEntry he]
      refine ⟨_, hacc.feeRevenue.1, rfl, ?_⟩
      rw [hacc.feeRevenue.2]
      simp
    · cases hdir

theorem markUncertain_request {paymentId : Uuid} {result : Option ProviderBillPayment} {u : PUnit}
    (h : markUncertain ctx db paymentId result = .ok (u, db')) : Request db db' := by
  simp only [markUncertain, bind_eq_ok, require_eq_ok, pure_eq_ok, exists_const,
    Prod.mk.injEq] at h
  obtain ⟨-, _, -, _, -, -, rfl⟩ := h
  exact .idle (.refl _) rfl

theorem applyProviderResult_request (ctx : Ctx) (db : Db) (paymentId userId : Uuid)
    (result : ProviderBillPayment) :
    Request db (applyProviderResult ctx db paymentId userId result) := by
  unfold applyProviderResult
  cases result.state with
  | reversed => exact .committed fun _ _ h ↦ applyReversal_request h
  | pending => exact .committed fun _ _ h ↦ markUncertain_request h
  | unknown => exact .committed fun _ _ h ↦ markUncertain_request h
  | successful => exact .committed fun _ _ h ↦ concludeBill_request h
  | failed => exact .committed fun _ _ h ↦ concludeBill_request h

end Bills

/-! ## Referrals -/

namespace Referrals

/-- A reward debits the platform's expense account, which is no wallet. -/
theorem releaseReward_request {input : DepositSettled} {referral : Referral}
    {campaign : CampaignTerms} {b : Bool}
    (h : releaseReward ctx db input referral campaign = .ok (b, db')) : Request db db' := by
  simp only [releaseReward, bind_eq_ok, pure_eq_ok, Prod.exists, Prod.mk.injEq] at h
  obtain ⟨_, -, expense, referrer, opened, haccounts, posting, ledger, hpost, _, -, _, -, -, rfl⟩ :=
    h
  obtain ⟨hopenedDb, hopened, a, ha, rfl, hpurpose⟩ := rewardAccounts_eq_ok haccounts
  refine ⟨.of_postWithin hopened hpost fun hb ↦ ?_, .of_eq (by rw [hopenedDb])⟩
  refine .of_key (affords_of_debits hb ?_) 1 rfl (by simp) (by simp) (by simp)
  intro e he hdir
  simp only [rewardPosting, List.mem_cons, List.not_mem_nil, or_false] at he
  rcases he with rfl | rfl
  · refine ⟨a, ha, rfl, ?_⟩
    rw [hpurpose]
    exact nofun
  · cases hdir

theorem awardWithin_request {input : DepositSettled} {referral : Referral}
    {campaign : CampaignTerms} {b : Bool}
    (h : awardWithin ctx db input referral campaign = .ok (b, db')) : Request db db' := by
  unfold awardWithin at h
  split at h
  · cases h
    exact .refl _
  · split at h
    · simp only [bind_eq_ok, pure_eq_ok, Prod.mk.injEq] at h
      obtain ⟨_, -, -, rfl⟩ := h
      exact .idle (.refl _) rfl
    · exact releaseReward_request h

end Referrals

end AjoCloud
