import AjoCloud.Platform.Effects

/-!
# Whose wallet a call takes money from

A call takes money out of one wallet at most, which belongs to the user who makes the call, and what
it posts is posted in that user's name.  Some of these calls ask for the wallet's status, and some do
not; `TakesFrom` says which.
-/

namespace AjoCloud.Platform

open Lib Ledger Payments

/-- The contribution is a new one, and would be paid from the wallet. -/
def ContributesFrom (db : Db) (userId scheduleId : Uuid) (key : String) (wallet : Wallet) : Prop :=
  (∀ c ∈ db.contributions.rows, c.idempotencyKey ≠ Ajo.contributionIdempotencyKey scheduleId key) ∧
    wallet.userId = userId ∧
    ∃ s ∈ db.contributionSchedules.rows, s.id = scheduleId ∧ s.currency = wallet.currency

instance (db : Db) (userId scheduleId : Uuid) (key : String) (wallet : Wallet) :
    Decidable (ContributesFrom db userId scheduleId key wallet) :=
  inferInstanceAs (Decidable (_ ∧ _ ∧ ∃ s ∈ db.contributionSchedules.rows, _))

/-- The user has the call take money out of the wallet. -/
inductive TakesFrom (db : Db) : Call → Uuid → Uuid → Prop
  | sent {ctx : Ctx} {userId : Uuid} {dto : Wallets.SendToWalletDto} {key : String}
      (wallet : Wallet) (owner : wallet ∈ db.wallets.rows ∧ wallet.userId = userId)
      (active : wallet.status = .active) :
      TakesFrom db (.send ctx userId dto key) userId wallet.id
  | withdrew {ctx : Ctx} {userId : Uuid} {dto : Wallets.WithdrawDto} {key : String}
      (wallet : Wallet) (owner : wallet ∈ db.wallets.rows ∧ wallet.userId = userId)
      (active : wallet.status = .active) :
      TakesFrom db (.withdraw ctx userId dto key) userId wallet.id
  | reserved {ctx : Ctx} {validation : BillCustomerValidation} {userId : Uuid} {key hash : String}
      {dto : Bills.CreateBillPaymentDto} (wallet : Wallet)
      (owner : wallet ∈ db.wallets.rows ∧ wallet.userId = userId)
      (active : wallet.status = .active) :
      TakesFrom db (.reserveBill ctx validation userId key hash dto) userId wallet.id
  | /-- The status of the wallet is not asked for. -/
    contributed {ctx : Ctx} {userId g : Uuid} {dto : Ajo.PayContributionDto}
      {scheduleId : Uuid} (wallet : Wallet) (mem : wallet ∈ db.wallets.rows)
      (contributes : ContributesFrom db userId scheduleId dto.idempotencyKey wallet) :
      TakesFrom db (.ajo (.payContribution ctx userId g scheduleId dto)) userId wallet.id
  | /-- The status of the wallet is not asked for. -/
    confirmed {ctx : Ctx} {call : Call} {userId : Uuid} (intent : PaymentIntent) {key : String}
      {walletId : Uuid} (asked : Confirms ctx userId intent key call)
      (mem : intent ∈ db.paymentIntents.rows) (owner : intent.userId = userId)
      (unpaid : intent.status = .requiresConfirmation) (wallet : intent.walletId = some walletId) :
      TakesFrom db call userId walletId

/-- The entry takes money out of the wallet. -/
def Draws (ledger : Ledger) (accountId : Uuid) (direction : EntryDirection) (walletId : Uuid) : Prop :=
  direction = .debit ∧ ∃ a, OfWallet ledger a walletId .walletAvailable ∧ a.id = accountId

instance (ledger : Ledger) (accountId : Uuid) (direction : EntryDirection) (walletId : Uuid) :
    Decidable (Draws ledger accountId direction walletId) :=
  decidable_of_iff (direction = .debit ∧ ∃ a ∈ ledger.accounts.rows,
      a.walletId = some walletId ∧ a.purpose = some .walletAvailable ∧ a.id = accountId)
    ⟨fun ⟨hdebit, a, ha, hwallet, hpurpose, hid⟩ ↦ ⟨hdebit, a, ⟨ha, hwallet, hpurpose⟩, hid⟩,
      fun ⟨hdebit, a, ha, hid⟩ ↦ ⟨hdebit, a, ha.mem, ha.wallet_eq, ha.purpose_is, hid⟩⟩

/-- The command takes money out of a wallet only where the call does, and in the name of the user who
makes it. -/
def DrawsFor (db : Db) (call : Call) (ledger : Ledger) (command : LedgerPostingCommand) : Prop :=
  ∀ e ∈ command.entries, ∀ walletId, Draws ledger e.accountId e.direction walletId →
    ∃ userId, command.initiatedByUserId = some userId ∧ TakesFrom db call userId walletId

variable {config : Bills.BillConfig} {ctx : Ctx} {db db' : Db} {userId : Uuid} {call : Call}
  {ledger : Ledger} {command : LedgerPostingCommand}

/-! ## Commands -/

/-- A command whose debits are on accounts that are no wallets. -/
theorem drawsFor_of_unowned (h : ∀ e ∈ command.entries, e.direction = .debit →
      ∃ b ∈ ledger.accounts.rows, b.id = e.accountId ∧ b.purpose ≠ some .walletAvailable) :
    DrawsFor db call ledger command := by
  rintro e he walletId ⟨hdebit, a, ha, hid⟩
  obtain ⟨b, hb, hbid, hpurpose⟩ := h e he hdebit
  rw [account_eq_of_id hb ha.mem (hbid.trans hid.symm)] at hpurpose
  exact absurd ha.purpose_is hpurpose

/-- A command with one debit, on the available account of a wallet. -/
theorem drawsFor_of_payer {payer : FinancialAccount} {walletId : Uuid} {amount : Int}
    {rest : List LedgerPostingEntry} (hentries : command.entries = ⟨payer.id, .debit, amount⟩ :: rest)
    (hrest : ∀ e ∈ rest, e.direction = .credit)
    (hpayer : payer ∈ ledger.accounts.rows ∧ payer.walletId = some walletId)
    (huser : command.initiatedByUserId = some userId) (htakes : TakesFrom db call userId walletId) :
    DrawsFor db call ledger command := by
  rintro e he walletId' ⟨hdebit, a, ha, hid⟩
  rw [hentries] at he
  rcases List.mem_cons.mp he with rfl | he
  · have hsame := account_eq_of_id hpayer.1 ha.mem hid.symm
    have hwallet : walletId = walletId' :=
      Option.some.inj (hpayer.2.symm.trans (hsame ▸ ha.wallet_eq))
    exact ⟨userId, huser, hwallet ▸ htakes⟩
  · rw [hrest e he] at hdebit
    cases hdebit

/-! ## Direct spending -/

theorem send_draws {dto : Wallets.SendToWalletDto} {key : String} {t : Transfer}
    (h : Wallets.send ctx db userId dto key = .ok (t, db')) :
    Posts (DrawsFor db (.send ctx userId dto key)) db.ledger db'.ledger := by
  simp only [Wallets.send, Wallets.assertPayableAmount, bind_eq_ok, require_eq_ok,
    exists_const] at h
  obtain ⟨-, h⟩ := h
  split at h
  · cases h
    exact .refl _
  · simp only [Wallets.sendFresh, Wallets.assertDifferentWallets, Wallets.assertWalletActive,
      Wallets.assertSameCurrency, Wallets.assertSufficientFunds, bind_eq_ok, require_eq_ok,
      orThrow_eq_ok, pure_eq_ok, exists_const, Prod.exists, Prod.mk.injEq] at h
    obtain ⟨source, hsource, recipient, -, destination, -, -, hactive, -, -, sender, hsender,
      receiver, -, -, posting, ledger, hpost, -, transfers, -, rfl, rfl⟩ := h
    have hp := Table.prop_of_find? hsource
    simp only [decide_eq_true_eq] at hp
    have haccount := Wallets.account_ofWallet hsender
    refine .of_postWithin (.refl _) hpost fun _ ↦ drawsFor_of_payer rfl ?_
      ⟨haccount.mem, haccount.wallet_eq⟩ rfl
      (.sent source ⟨Table.mem_of_find? hsource, hp.2⟩ hactive)
    intro e he
    rw [List.mem_singleton.mp he]

theorem withdraw_draws {dto : Wallets.WithdrawDto} {key : String} {w : Withdrawal}
    (h : Wallets.withdraw ctx db userId dto key = .ok (w, db')) :
    Posts (DrawsFor db (.withdraw ctx userId dto key)) db.ledger db'.ledger := by
  simp only [Wallets.withdraw, Wallets.assertPayableAmount, bind_eq_ok, require_eq_ok,
    exists_const] at h
  obtain ⟨-, h⟩ := h
  split at h
  · cases h
    exact .refl _
  · simp only [Wallets.withdrawFresh, Wallets.assertWalletActive, Wallets.assertSufficientFunds,
      bind_eq_ok, require_eq_ok, orThrow_eq_ok, pure_eq_ok, exists_const, Prod.exists,
      Prod.mk.injEq] at h
    obtain ⟨wallet, hwallet, hactive, bank, -, available, havailable, reserved, -, -, posting, ledger,
      hpost, -, withdrawals, -, rfl, rfl⟩ := h
    have hp := Table.prop_of_find? hwallet
    simp only [decide_eq_true_eq] at hp
    have haccount := Wallets.account_ofWallet havailable
    refine .of_postWithin (.refl _) hpost fun _ ↦ drawsFor_of_payer rfl ?_
      ⟨haccount.mem, haccount.wallet_eq⟩ rfl
      (.withdrew wallet ⟨Table.mem_of_find? hwallet, hp.2⟩ hactive)
    intro e he
    rw [List.mem_singleton.mp he]

theorem reserve_draws {validation : BillCustomerValidation} {key hash : String}
    {dto : Bills.CreateBillPaymentDto} {p : BillPayment}
    (h : Bills.reserve ctx db config validation userId key hash dto = .ok (p, db')) :
    Posts (DrawsFor db (.reserveBill ctx validation userId key hash dto)) db.ledger db'.ledger := by
  unfold Bills.reserve at h
  split at h
  · simp only [bind_eq_ok, require_eq_ok, pure_eq_ok, exists_const, Prod.mk.injEq] at h
    obtain ⟨-, -, rfl⟩ := h
    exact .refl _
  · simp only [Bills.reserveFresh, bind_eq_ok, require_eq_ok, orThrow_eq_ok, pure_eq_ok,
      exists_const, Prod.exists, Prod.mk.injEq] at h
    obtain ⟨wallet, hwallet, _, -, fee, -, feeMinor, -, found, hfound, -, posting, ledger, hpost,
      recorded, hrec, rfl, rfl⟩ := h
    have hp := Table.prop_of_find? hwallet
    simp only [decide_eq_true_eq] at hp
    have haccount := (Bills.accounts_ofWallet hfound).1
    rw [(Bills.recordBill_eq_ok hrec).1]
    refine .of_postWithin (.refl _) hpost fun _ ↦ drawsFor_of_payer rfl ?_
      ⟨haccount.mem, haccount.wallet_eq⟩ rfl
      (.reserved wallet ⟨Table.mem_of_find? hwallet, hp.2.1⟩ hp.2.2)
    intro e he
    rw [List.mem_singleton.mp he]

theorem payContribution_draws {g scheduleId : Uuid} {dto : Ajo.PayContributionDto} {c : Contribution}
    (h : Ajo.payContribution ctx db userId g scheduleId dto = .ok (c, db')) :
    Posts (DrawsFor db (.ajo (.payContribution ctx userId g scheduleId dto))) db.ledger
      db'.ledger := by
  simp only [Ajo.payContribution, bind_eq_ok, require_eq_ok, orThrow_eq_ok, exists_const] at h
  obtain ⟨s, hs, -, slot, -, member, -, -, -, h⟩ := h
  have hid : s.id = scheduleId := by simpa using Table.prop_of_find? hs
  subst hid
  split at h
  · cases h
    exact .refl _
  · next hnone =>
      simp only [Ajo.payFresh, bind_eq_ok, require_eq_ok, mapError_eq_ok, exists_const,
        Prod.exists] at h
      obtain ⟨-, _, -, wallet, hwallet, pool, opened, hpool, -, posting, ledger, hpost, hrec⟩ := h
      obtain ⟨-, hopens, -⟩ := Ajo.poolAccountWithin_eq_ok hpool
      have haccount := Ajo.memberWalletAccount_eq_ok hwallet
      obtain ⟨w, hw, huser, hcurrency, hwalletId⟩ := haccount.wallet
      have hledger : db'.ledger = ledger := by rw [(Ajo.recordContributionWithin_eq_ok hrec).2.2.2]
      rw [hledger]
      refine .of_postWithin hopens hpost fun _ ↦ drawsFor_of_payer rfl ?_
        ⟨hopens.accounts _ haccount.mem, hwalletId⟩ rfl
        (.contributed w hw ⟨fun c hc ↦ ?_, huser, s, Table.mem_of_find? hs, rfl, hcurrency.symm⟩)
      · intro e he
        rw [List.mem_singleton.mp he]
      · simpa using Table.not_of_find?_eq_none hnone hc

/-! ## The other calls -/

/-- The calls that are dealt with above. -/
def isDirectSpend : Call → Bool
  | .send .. | .withdraw .. | .reserveBill .. | .ajo (.payContribution ..) => true
  | _ => false

/-- The answer about a bill moves money out of the reserve or back to the wallet. -/
theorem Handled.draws {paymentId : Uuid} {answer : Option Bills.ProviderBillPayment}
    (h : Bills.Handled ctx paymentId answer db db') :
    Posts (DrawsFor db call) db.ledger db'.ledger := by
  cases h with
  | nothing same =>
      rw [same]
      exact .refl _
  | uncertain _ hledger _ _ =>
      rw [hledger]
      exact .refl _
  | released payment accounts posting _ _ _ found post _ _ =>
      have hacc := Bills.accounts_eq_ok found
      refine .of_postWithin (.refl _) post fun _ ↦ drawsFor_of_unowned fun e he hdir ↦ ?_
      simp only [Bills.releasePosting, Bills.billPosting, List.mem_cons, List.not_mem_nil,
        or_false] at he
      rcases he with rfl | rfl
      · refine ⟨_, hacc.reserved.1, rfl, ?_⟩
        rw [hacc.reserved.2]
        exact nofun
      · cases hdir
  | settled payment accounts posting _ _ _ found post _ _ =>
      have hacc := Bills.accounts_eq_ok found
      refine .of_postWithin (.refl _) post fun _ ↦ drawsFor_of_unowned fun e he hdir ↦ ?_
      simp only [Bills.settlePosting, Bills.billPosting, List.cons_append, List.nil_append,
        List.mem_cons] at he
      rcases he with rfl | rfl | he
      · refine ⟨_, hacc.reserved.1, rfl, ?_⟩
        rw [hacc.reserved.2]
        exact nofun
      · cases hdir
      · rw [Bills.mem_feeEntry he] at hdir
        cases hdir
  | reversed payment accounts posting actorUserId _ _ _ found post _ _ =>
      have hacc := Bills.accounts_eq_ok found
      refine .of_postWithin (.refl _) post fun _ ↦ drawsFor_of_unowned fun e he hdir ↦ ?_
      simp only [Bills.reversalPosting, Bills.billPosting, List.cons_append, List.nil_append,
        List.mem_cons, List.mem_append, List.not_mem_nil, or_false] at he
      rcases he with rfl | he | rfl
      · refine ⟨_, hacc.providerPayable.1, rfl, ?_⟩
        rw [hacc.providerPayable.2]
        exact nofun
      · rw [Bills.mem_feeEntry he]
        refine ⟨_, hacc.feeRevenue.1, rfl, ?_⟩
        rw [hacc.feeRevenue.2]
        exact nofun
      · cases hdir

/-- A deposit debits the provider's account. -/
theorem Deposited.draws {intent : PaymentIntent} {accounts : DepositAccounts}
    {posting : LedgerReference} (h : Deposited ctx db intent db' accounts posting) :
    Posts (DrawsFor db call) db.ledger db'.ledger := by
  refine .of_postWithin (.refl _) h.post fun _ ↦ drawsFor_of_unowned fun e he hdir ↦ ?_
  simp only [depositPosting, List.cons_append, List.nil_append, List.mem_cons] at he
  rcases he with rfl | rfl | he
  · refine ⟨_, h.found.providerPayable.1, rfl, ?_⟩
    rw [h.found.providerPayable.2]
    simp
  · cases hdir
  · split at he
    · rw [List.mem_singleton.mp he] at hdir
      cases hdir
    · cases he

/-- A command with a debit on one of the platform's own accounts and a credit. -/
theorem drawsFor_of_platform {a : FinancialAccount} {purpose : FinancialAccountPurpose}
    {credited : Uuid} {amount : Int} (ha : OfPlatform ledger a purpose)
    (hpurpose : purpose ≠ .walletAvailable)
    (hentries : command.entries = [⟨a.id, .debit, amount⟩, ⟨credited, .credit, amount⟩]) :
    DrawsFor db call ledger command := by
  refine drawsFor_of_unowned fun e he hdir ↦ ?_
  simp only [hentries, List.mem_cons, List.not_mem_nil, or_false] at he
  rcases he with rfl | rfl
  · refine ⟨a, ha.mem, rfl, ?_⟩
    rw [ha.purpose_is]
    exact fun heq ↦ hpurpose (Option.some.inj heq)
  · cases hdir

theorem Effect.draws (h : Effect config db db' call) (hcall : isDirectSpend call = false) :
    Posts (DrawsFor db call) db.ledger db'.ledger := by
  cases h with
  | idle opens _ => exact .opened opens
  | sent => cases hcall
  | withdrew => cases hcall
  | reserved => cases hcall
  | contributed => cases hcall
  | paidOut r slot p recipient wallet pool opened posting _ _ done =>
      obtain ⟨-, hopens, a, ha, rfl, hcode⟩ := Ajo.poolAccountWithin_eq_ok done.credit
      exact .of_postWithin hopens done.post fun _ ↦
        drawsFor_of_platform ⟨ha, Ajo.purpose_of_poolAccountCode hcode⟩ nofun rfl
  | created _ ledger _ _ _ =>
      rw [ledger]
      exact .refl _
  | paid ctx userId intent key walletId target payer destination opened posting settled done asked =>
      obtain ⟨rest, hentries, hrest⟩ := entries_walletPosting (targets config intent.targetType) userId
        intent key target.description payer destination
      exact .of_postWithin done.opens done.post fun _ ↦ drawsFor_of_payer hentries hrest
        ⟨done.opens.accounts _ done.payer_accounts.available_mem,
          done.payer_accounts.available_wallet⟩ rfl
        (.confirmed intent asked done.mem done.owner done.unpaid done.wallet)
  | charged _ _ _ ledger _ _ =>
      rw [ledger]
      exact .refl _
  | banked intent wallet accounts posting done => exact Deposited.draws done.deposited
  | failed same =>
      rw [same]
      exact .refl _
  | answered done _ => exact Handled.draws done
  | unanswered done _ _ => exact Handled.draws done
  | refunded subscription currency wallet escrow available opened posting done =>
      exact .of_postWithin done.opens done.post fun _ ↦
        drawsFor_of_platform done.from_account nofun rfl
  | rewarded expense available opened posting done =>
      exact .of_postWithin done.opens done.post fun _ ↦
        drawsFor_of_platform done.from_account nofun rfl
  | elsewhere change same =>
      rw [same]
      exact .opened (change.opens db)

theorem posts_committed {α : Type} {P : Ledger → LedgerPostingCommand → Prop}
    {result : Except ServiceError (α × Db)}
    (h : ∀ a db', result = .ok (a, db') → Posts P db.ledger db'.ledger) :
    Posts P db.ledger (committed db result).ledger := by
  rcases committed_cases db result with hsame | ⟨a, after, hok, hafter⟩
  · rw [hsame]
    exact .refl _
  · rw [hafter]
    exact h a after hok

/-- Every call takes money out of a wallet only in the name of the user who makes it. -/
theorem step_draws (config : Bills.BillConfig) (db : Db) (call : Call) :
    Posts (DrawsFor db call) db.ledger (step config db call).ledger := by
  cases hcall : isDirectSpend call with
  | false => exact Effect.draws (step_effect config db call) hcall
  | true =>
      cases call with
      | send ctx userId dto key => exact posts_committed fun _ _ h ↦ send_draws h
      | withdraw ctx userId dto key => exact posts_committed fun _ _ h ↦ withdraw_draws h
      | reserveBill ctx validation userId key hash dto =>
          exact posts_committed fun _ _ h ↦ reserve_draws h
      | ajo call =>
          cases call with
          | payContribution ctx userId g scheduleId dto =>
              exact posts_committed fun _ _ h ↦ payContribution_draws h
          | _ => cases hcall
      | _ => cases hcall

/-! ## Transactions -/

/-- The transaction takes money out of the wallet. -/
def TakesOut (ledger : Ledger) (t : LedgerTransaction) (walletId : Uuid) : Prop :=
  ∃ e ∈ t.entries, Draws ledger e.accountId e.direction walletId

instance (ledger : Ledger) (t : LedgerTransaction) (walletId : Uuid) :
    Decidable (TakesOut ledger t walletId) :=
  inferInstanceAs (Decidable (∃ e ∈ t.entries, Draws ledger e.accountId e.direction walletId))

/-- The call posted the transaction. -/
def PostedBy (config : Bills.BillConfig) (db : Db) (call : Call) (t : LedgerTransaction) : Prop :=
  t ∈ (step config db call).ledger.transactions.rows ∧ t ∉ db.ledger.transactions.rows

/-- What a call posts takes money out of a wallet only in the name of the user who makes the call. -/
theorem takesFrom_of_takesOut {t : LedgerTransaction} {walletId : Uuid}
    (hposted : PostedBy config db call t)
    (h : TakesOut (step config db call).ledger t walletId) :
    ∃ userId, t.initiatedByUserId = some userId ∧ TakesFrom db call userId walletId := by
  obtain ⟨ht, hnew⟩ := hposted
  obtain ⟨x, hx, hdebit, a, ha, hid⟩ := h
  cases step_draws config db call with
  | opened hopened => exact absurd (hopened.transactions ▸ ht) hnew
  | posted mid hopened id command created hdraws =>
      obtain ⟨-, -, -, haccounts, hrows⟩ := createTransaction_eq_ok created
      rw [hrows, hopened.transactions] at ht
      rcases List.mem_append.mp ht with ht | ht
      · exact absurd ht hnew
      · rw [List.mem_singleton.mp ht] at hx ⊢
        exact hdraws x.line (line_mem_of_mem_numberEntries hx) walletId
          ⟨hdebit, a, ⟨haccounts ▸ ha.mem, ha.wallet_eq, ha.purpose_is⟩, hid⟩

end AjoCloud.Platform
