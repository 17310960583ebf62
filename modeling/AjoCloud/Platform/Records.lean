import AjoCloud.Platform.Deposits
import AjoCloud.Platform.Postings

/-!
# Records and the ledger

`postWithin` answers a key that it has seen with the transaction it has, and compares nothing else.
Keys determine their origins, so what it answers with was posted for the same record; and a record
that is stored under a fresh key points to a transaction of its own.
-/

namespace AjoCloud.Platform

open Lib Ledger Payments Bills

variable {config : BillConfig} {db db' : Db} {call : Call}

/-- A run so far: every call that was made, and the database it was made on. -/
abbrev History := List (Db × Call)

variable {history : History}

/-! ## Earlier postings -/

/-- The call stored the transaction for the origin. -/
def Posts (config : BillConfig) (db : Db) (call : Call) (o : Origin) (t : LedgerTransaction) : Prop :=
  t ∉ db.ledger.transactions.rows ∧ ∃ mid id command posting,
    Makes db (step config db call) call o mid id command posting ∧ t = postedTransaction id command

/-- A call of the history stored the transaction for the origin. -/
def PostedEarlier (config : BillConfig) (history : History) (o : Origin) (t : LedgerTransaction) :
    Prop :=
  ∃ moment ∈ history, Posts config moment.1 moment.2 o t

/-- Every transaction was posted in the run, for some origin and under its key. -/
def AllPosted (config : BillConfig) (history : History) (db : Db) : Prop :=
  ∀ t ∈ db.ledger.transactions.rows, ∃ o, t.idempotencyKey = o.key ∧ PostedEarlier config history o t

theorem PostedEarlier.mono {o : Origin} {t : LedgerTransaction} (h : PostedEarlier config history o t)
    (moment : Db × Call) : PostedEarlier config (history ++ [moment]) o t := by
  obtain ⟨m, hm, hposts⟩ := h
  exact ⟨m, List.mem_append_left _ hm, hposts⟩

theorem AllPosted.step (h : AllPosted config history db) (call : Call) :
    AllPosted config (history ++ [(db, call)]) (step config db call) := by
  intro t ht
  -- A transaction that was there was posted before.
  by_cases hold : t ∈ db.ledger.transactions.rows
  · obtain ⟨o, hkey, hposted⟩ := h t hold
    exact ⟨o, hkey, hposted.mono _⟩
  · rcases (step_effect config db call).makes with
      hopened | ⟨o, mid, id, command, posting, hmakes, -⟩
    · rw [hopened.transactions] at ht
      exact absurd ht hold
    · cases (postWithin_eq_ok hmakes.post).2 with
      | replayed _ _ _ _ same =>
          rw [same, hmakes.opens.transactions] at ht
          exact absurd ht hold
      | appended _ created _ =>
          rw [(createTransaction_eq_ok created).2.2.2.2, hmakes.opens.transactions] at ht
          have hnew := List.mem_singleton.mp ((List.mem_append.mp ht).resolve_left hold)
          refine ⟨o, ?_, (db, call), List.mem_append_right _ (List.mem_singleton_self _), hold,
            mid, id, command, posting, hmakes, hnew⟩
          rw [hnew]
          exact hmakes.key

/-- A transaction under the key of an origin was posted for that origin. -/
theorem AllPosted.posted_of_key (h : AllPosted config history db) {t : LedgerTransaction}
    (ht : t ∈ db.ledger.transactions.rows) {o : Origin} (hkey : t.idempotencyKey = o.key) :
    PostedEarlier config history o t := by
  obtain ⟨o', hkey', hposted⟩ := h t ht
  rw [Origin.key_inj (hkey.symm.trans hkey')]
  exact hposted

/-! ## What a record points to -/

/-- The lines of a stored transaction. -/
def lines (t : LedgerTransaction) : List LedgerPostingEntry :=
  t.entries.map fun e ↦ ⟨e.accountId, e.direction, e.amountMinor⟩

/-- A record's `ledgerTransactionId` names a stored transaction that has exactly these lines. -/
def Points (ledger : Ledger) (ledgerTransactionId : Option Uuid)
    (entries : List LedgerPostingEntry) : Prop :=
  ∃ t ∈ ledger.transactions.rows, ledgerTransactionId = some t.id ∧ lines t = entries

/-- A transfer moves its amount from the source wallet to the destination wallet. -/
def TransferMatches (db : Db) (x : Transfer) : Prop :=
  ∃ source destination, OfWallet db.ledger source x.sourceWalletId .walletAvailable ∧
    OfWallet db.ledger destination x.destinationWalletId .walletAvailable ∧
    Points db.ledger x.ledgerTransactionId
      [⟨source.id, .debit, x.amountMinor⟩, ⟨destination.id, .credit, x.amountMinor⟩]

/-- A withdrawal moves its amount into the reserve of its wallet. -/
def WithdrawalMatches (db : Db) (x : Withdrawal) : Prop :=
  ∃ available reserved, OfWallet db.ledger available x.walletId .walletAvailable ∧
    OfWallet db.ledger reserved x.walletId .walletReserved ∧
    Points db.ledger x.ledgerTransactionId
      [⟨available.id, .debit, x.amountMinor⟩, ⟨reserved.id, .credit, x.amountMinor⟩]

/-- The user had the wallet of the account, in the currency, when some call was made. -/
def OfUser (history : History) (userId : Uuid) (currency : String) (a : FinancialAccount) : Prop :=
  a.purpose = some .walletAvailable ∧ ∃ moment ∈ history, ∃ w ∈ moment.1.wallets.rows,
    w.userId = userId ∧ w.currency = currency ∧ a.walletId = some w.id

/-- The member was the user. -/
def IsMember (history : History) (memberId userId : Uuid) : Prop :=
  ∃ moment ∈ history, ∃ m ∈ moment.1.ajoGroupMembers.rows, m.id = memberId ∧ m.userId = userId

/-- The account is the pool of the group. -/
def IsPool (ledger : Ledger) (groupId : Uuid) (a : FinancialAccount) : Prop :=
  a ∈ ledger.accounts.rows ∧ a.code = Ajo.poolAccountCode groupId

/-- A payout moves its amount from the pool of its group to its member's wallet. -/
def PayoutMatches (history : History) (db : Db) (x : Payout) : Prop :=
  ∃ pool account userId, IsPool db.ledger x.groupId pool ∧ account ∈ db.ledger.accounts.rows ∧
    IsMember history x.memberId userId ∧ OfUser history userId x.currency account ∧
    Points db.ledger x.ledgerTransactionId
      [⟨pool.id, .debit, x.amountMinor⟩, ⟨account.id, .credit, x.amountMinor⟩]

/-- The lines of an intent that is paid from the wallet. -/
def walletLines (handler : PaymentTarget) (x : PaymentIntent) (payer destination feeRevenue : Uuid) :
    List LedgerPostingEntry :=
  [⟨payer, .debit, x.totalMinor⟩,
    ⟨destination, .credit, if handler.holdsFee then x.totalMinor else x.amountMinor⟩] ++
  if 0 < x.feeMinor ∧ ¬ handler.holdsFee then [⟨feeRevenue, .credit, x.feeMinor⟩] else []

/-- The lines of a deposit. -/
def depositLines (x : PaymentIntent) (providerPayable available feeRevenue : Uuid) :
    List LedgerPostingEntry :=
  [⟨providerPayable, .debit, x.amountMinor⟩, ⟨available, .credit, x.amountMinor - x.feeMinor⟩] ++
  if 0 < x.feeMinor then [⟨feeRevenue, .credit, x.feeMinor⟩] else []

/-- The intent was paid from its own wallet to the account, and the fee went to the fee account. -/
def WalletPaid (config : BillConfig) (db : Db) (x : PaymentIntent) (ledgerTransactionId : Option Uuid)
    (destination : Uuid) : Prop :=
  ∃ walletId payer feeRevenue, x.walletId = some walletId ∧
    OfWallet db.ledger payer walletId .walletAvailable ∧
    OfPlatform db.ledger feeRevenue .platformFeeRevenue ∧
    Points db.ledger ledgerTransactionId
      (walletLines (targets config x.targetType) x payer.id destination feeRevenue.id)

/-- The account is the one the intent's target named when the intent was paid. -/
def TargetAccount (config : BillConfig) (history : History) (x : PaymentIntent) (destination : Uuid) :
    Prop :=
  ∃ moment ∈ history, ∃ ctx opened,
    (targets config x.targetType).creditAccount ctx moment.1 x.targetId x.currency =
      .ok (destination, opened)

/-- The lines are those of the intent's deposit into a wallet of its user. -/
def DepositLines (history : History) (db : Db) (x : PaymentIntent)
    (entries : List LedgerPostingEntry) : Prop :=
  ∃ accounts : DepositAccounts, IsDepositAccounts db.ledger accounts ∧
    OfUser history x.userId x.currency accounts.available ∧
    entries = depositLines x accounts.providerPayable.id accounts.available.id accounts.feeRevenue.id

/-- An intent that was paid points to the payment from its wallet, or to its deposit. -/
inductive IntentMatches (config : BillConfig) (history : History) (db : Db) (x : PaymentIntent) : Prop
  | wallet (destination : Uuid) (target : TargetAccount config history x destination)
      (paid : WalletPaid config db x x.ledgerTransactionId destination)
  | deposit (entries : List LedgerPostingEntry) (booked : DepositLines history db x entries)
      (points : Points db.ledger x.ledgerTransactionId entries)

/-- A contribution moves its amount into the pool of its group: from its member's wallet, or with
the fee of the intent that the member paid it by. -/
inductive ContributionMatches (config : BillConfig) (history : History) (db : Db) (x : Contribution) :
    Prop
  | direct (pool account : FinancialAccount) (userId : Uuid) (credit : IsPool db.ledger x.groupId pool)
      (mem : account ∈ db.ledger.accounts.rows) (member : IsMember history x.memberId userId)
      (payer : OfUser history userId x.currency account)
      (points : Points db.ledger x.ledgerTransactionId
        [⟨account.id, .debit, x.amountMinor⟩, ⟨pool.id, .credit, x.amountMinor⟩])
  | intent (pool : FinancialAccount) (i : PaymentIntent) (credit : IsPool db.ledger x.groupId pool)
      (stored : i ∈ db.paymentIntents.rows) (type : i.targetType = .ajoContribution)
      (target : i.targetId = some x.scheduleId) (amount : i.amountMinor = x.amountMinor)
      (member : IsMember history x.memberId i.userId)
      (paid : WalletPaid config db i x.ledgerTransactionId pool.id)

/-! ## Matching records stay so -/

/-- Accounts and transactions are only added. -/
structure Extends (ledger ledger' : Ledger) : Prop where
  accounts : ∀ a ∈ ledger.accounts.rows, a ∈ ledger'.accounts.rows
  transactions : ∀ t ∈ ledger.transactions.rows, t ∈ ledger'.transactions.rows

theorem Extends.of_opened {ledger ledger' : Ledger} (h : Opened ledger ledger') :
    Extends ledger ledger' := ⟨h.accounts, fun _ ht ↦ h.transactions ▸ ht⟩

theorem Extends.of_post {ledger mid ledger' : Ledger} {id : Uuid} {command : LedgerPostingCommand}
    {ref : LedgerReference} (hopens : Opened ledger mid)
    (hpost : mid.postWithin id command = .ok (ref, ledger')) : Extends ledger ledger' := by
  cases (postWithin_eq_ok hpost).2 with
  | replayed _ _ _ _ same =>
      rw [same]
      exact .of_opened hopens
  | appended _ created _ =>
      obtain ⟨-, -, -, haccounts, hrows⟩ := createTransaction_eq_ok created
      constructor
      · intro a ha
        rw [haccounts]
        exact hopens.accounts a ha
      · intro t ht
        rw [hrows, hopens.transactions]
        exact List.mem_append_left _ ht

theorem Effect.extends (h : Effect config db db' call) : Extends db.ledger db'.ledger := by
  rcases h.makes with hopened | ⟨_, _, _, _, _, hmakes, -⟩
  · exact .of_opened hopened
  · exact .of_post hmakes.opens hmakes.post

section Mono

variable {ledger ledger' : Ledger} {a : FinancialAccount} {purpose : FinancialAccountPurpose}
  {history' : History} (hext : Extends ledger ledger') (hdb : Extends db.ledger db'.ledger)
  (hhist : history ⊆ history')

include hext in
theorem OfWallet.mono {walletId : Uuid} (h : OfWallet ledger a walletId purpose) :
    OfWallet ledger' a walletId purpose := ⟨hext.accounts a h.mem, h.wallet_eq, h.purpose_is⟩

include hext in
theorem OfPlatform.mono (h : OfPlatform ledger a purpose) : OfPlatform ledger' a purpose :=
  ⟨hext.accounts a h.mem, h.purpose_is⟩

include hext in
theorem Points.mono {id : Option Uuid} {entries : List LedgerPostingEntry}
    (h : Points ledger id entries) : Points ledger' id entries := by
  obtain ⟨t, ht, hid, hlines⟩ := h
  exact ⟨t, hext.transactions t ht, hid, hlines⟩

include hext in
theorem IsPool.mono {groupId : Uuid} (h : IsPool ledger groupId a) : IsPool ledger' groupId a :=
  ⟨hext.accounts a h.1, h.2⟩

include hhist in
theorem OfUser.mono {userId : Uuid} {currency : String} (h : OfUser history userId currency a) :
    OfUser history' userId currency a := by
  obtain ⟨hpurpose, moment, hmoment, hw⟩ := h
  exact ⟨hpurpose, moment, hhist hmoment, hw⟩

include hhist in
theorem IsMember.mono {memberId userId : Uuid} (h : IsMember history memberId userId) :
    IsMember history' memberId userId := by
  obtain ⟨moment, hmoment, hm⟩ := h
  exact ⟨moment, hhist hmoment, hm⟩

include hdb in
theorem TransferMatches.mono {x : Transfer} (h : TransferMatches db x) : TransferMatches db' x := by
  obtain ⟨source, destination, hsource, hdestination, hpoints⟩ := h
  exact ⟨source, destination, OfWallet.mono hdb hsource, OfWallet.mono hdb hdestination,
    hpoints.mono hdb⟩

include hdb in
theorem WithdrawalMatches.mono {x : Withdrawal} (h : WithdrawalMatches db x) :
    WithdrawalMatches db' x := by
  obtain ⟨available, reserved, havailable, hreserved, hpoints⟩ := h
  exact ⟨available, reserved, OfWallet.mono hdb havailable, OfWallet.mono hdb hreserved,
    hpoints.mono hdb⟩

include hdb hhist in
theorem PayoutMatches.mono {x : Payout} (h : PayoutMatches history db x) :
    PayoutMatches history' db' x := by
  obtain ⟨pool, account, userId, hpool, hmem, hmember, huser, hpoints⟩ := h
  exact ⟨pool, account, userId, hpool.mono hdb, hdb.accounts account hmem, hmember.mono hhist,
    huser.mono hhist, hpoints.mono hdb⟩

include hdb in
theorem WalletPaid.mono {x : PaymentIntent} {id : Option Uuid} {destination : Uuid}
    (h : WalletPaid config db x id destination) : WalletPaid config db' x id destination := by
  obtain ⟨walletId, payer, feeRevenue, hwallet, hpayer, hfee, hpoints⟩ := h
  exact ⟨walletId, payer, feeRevenue, hwallet, OfWallet.mono hdb hpayer, OfPlatform.mono hdb hfee,
    hpoints.mono hdb⟩

include hdb hhist in
theorem DepositLines.mono {x : PaymentIntent} {entries : List LedgerPostingEntry}
    (h : DepositLines history db x entries) : DepositLines history' db' x entries := by
  obtain ⟨accounts, haccounts, huser, hentries⟩ := h
  exact ⟨accounts, haccounts.mono hdb.accounts, huser.mono hhist, hentries⟩

include hdb hhist in
theorem IntentMatches.mono {x : PaymentIntent} (h : IntentMatches config history db x) :
    IntentMatches config history' db' x := by
  cases h with
  | wallet destination target paid =>
      obtain ⟨moment, hmoment, htarget⟩ := target
      exact .wallet destination ⟨moment, hhist hmoment, htarget⟩ (paid.mono hdb)
  | deposit entries booked points =>
      exact .deposit entries (booked.mono hdb hhist) (points.mono hdb)

end Mono

/-! ## What a match depends on -/

/-- The intent under the same terms, for the same wallet. -/
def SameTerms (x x' : PaymentIntent) : Prop := terms x' = terms x ∧ x'.walletId = x.walletId

theorem WalletPaid.congr {x x' : PaymentIntent} (hsame : SameTerms x x') {id : Option Uuid}
    {destination : Uuid} (h : WalletPaid config db x id destination) :
    WalletPaid config db x' id destination := by
  have htype : x'.targetType = x.targetType := congrArg IntentTerms.targetType hsame.1
  have hamount : x'.amountMinor = x.amountMinor := congrArg IntentTerms.amountMinor hsame.1
  have hfee : x'.feeMinor = x.feeMinor := congrArg IntentTerms.feeMinor hsame.1
  have htotal : x'.totalMinor = x.totalMinor := congrArg IntentTerms.totalMinor hsame.1
  rw [WalletPaid, hsame.2, htype]
  unfold walletLines
  rw [hamount, hfee, htotal]
  exact h

theorem DepositLines.congr {x x' : PaymentIntent} (hsame : SameTerms x x')
    {entries : List LedgerPostingEntry} (h : DepositLines history db x entries) :
    DepositLines history db x' entries := by
  have huser : x'.userId = x.userId := congrArg IntentTerms.userId hsame.1
  have hcurrency : x'.currency = x.currency := congrArg IntentTerms.currency hsame.1
  have hamount : x'.amountMinor = x.amountMinor := congrArg IntentTerms.amountMinor hsame.1
  have hfee : x'.feeMinor = x.feeMinor := congrArg IntentTerms.feeMinor hsame.1
  rw [DepositLines, huser, hcurrency]
  unfold depositLines
  rw [hamount, hfee]
  exact h

theorem IntentMatches.congr {x x' : PaymentIntent} (hsame : SameTerms x x')
    (hid : x'.ledgerTransactionId = x.ledgerTransactionId) (h : IntentMatches config history db x) :
    IntentMatches config history db x' := by
  have htype : x'.targetType = x.targetType := congrArg IntentTerms.targetType hsame.1
  have htarget : x'.targetId = x.targetId := congrArg IntentTerms.targetId hsame.1
  have hcurrency : x'.currency = x.currency := congrArg IntentTerms.currency hsame.1
  cases h with
  | wallet destination target paid =>
      refine .wallet destination ?_ (hid ▸ paid.congr hsame)
      rw [TargetAccount, htype, htarget, hcurrency]
      exact target
  | deposit entries booked points =>
      exact .deposit entries (booked.congr hsame) (hid ▸ points)

/-! ## A new record matches -/

/-- A posting under a fresh key is stored with the lines of its command. -/
theorem points_of_post {mid ledger' : Ledger} {id : Uuid} {command : LedgerPostingCommand}
    {posting : LedgerReference} (hpost : mid.postWithin id command = .ok (posting, ledger'))
    (hfresh : ∀ t ∈ mid.transactions.rows, t.idempotencyKey ≠ command.idempotencyKey) :
    Points ledger' (some posting.id) command.entries := by
  cases (postWithin_eq_ok hpost).2 with
  | replayed existing mem key _ _ => exact absurd key (hfresh existing mem)
  | appended _ created ref_eq =>
      refine ⟨postedTransaction id command, ?_, ?_, map_numberEntries _ _ _⟩
      · rw [(createTransaction_eq_ok created).2.2.2.2]
        exact List.mem_append_right _ (List.mem_singleton_self _)
      · rw [ref_eq]
        rfl

/-- No transaction has the key of an origin without a record. -/
theorem KeysOwned.fresh (h : KeysOwned db) {o : Origin} (hnone : ¬ Owned db o) {mid : Ledger}
    (hopens : Opened db.ledger mid) : ∀ t ∈ mid.transactions.rows, t.idempotencyKey ≠ o.key := by
  intro t ht hkey
  rw [hopens.transactions] at ht
  exact hnone (h t ht o hkey)

theorem Sent.matches {ctx : Ctx} {userId : Uuid} {dto : Wallets.SendToWalletDto} {key : String}
    {source destination : Wallet} {sender receiver : FinancialAccount} {posting : LedgerReference}
    (h : Wallets.Sent ctx db db' userId dto key source destination sender receiver posting)
    (howned : KeysOwned db) :
    TransferMatches db' (Wallets.newTransfer ctx dto source destination key posting.id) := by
  have hext := Extends.of_post (.refl _) h.post
  have hnone : ¬ Owned db (.transfer key) := by
    rintro ⟨x, hx, hkey⟩
    exact h.unused x hx hkey
  exact ⟨sender, receiver, OfWallet.mono hext h.from_account, OfWallet.mono hext h.to_account,
    points_of_post h.post (howned.fresh hnone (.refl _))⟩

theorem Withdrew.matches {ctx : Ctx} {userId : Uuid} {dto : Wallets.WithdrawDto} {key : String}
    {wallet : Wallet} {bank : LinkedBankAccount} {available reserved : FinancialAccount}
    {posting : LedgerReference}
    (h : Wallets.Withdrew ctx db db' userId dto key wallet bank available reserved posting)
    (howned : KeysOwned db) :
    WithdrawalMatches db' (Wallets.newWithdrawal ctx userId dto wallet key posting.id) := by
  have hext := Extends.of_post (.refl _) h.post
  have hnone : ¬ Owned db (.withdrawal key) := by
    rintro ⟨x, hx, hkey⟩
    exact h.unused x hx hkey
  exact ⟨available, reserved, OfWallet.mono hext h.from_account, OfWallet.mono hext h.to_account,
    points_of_post h.post (howned.fresh hnone (.refl _))⟩

theorem DirectlyPaid.matches {ctx : Ctx} {userId : Uuid} {member : AjoGroupMember}
    {schedule : ContributionSchedule} {dto : Ajo.PayContributionDto} {wallet pool : FinancialAccount}
    {opened : Db} {posting : LedgerReference}
    (h : Ajo.DirectlyPaid ctx db db' userId member schedule dto wallet pool opened posting)
    (howned : KeysOwned db) (hmoment : (db, call) ∈ history) :
    ContributionMatches config history db' (Ajo.newContribution (ctx.uuid 2) member.id schedule
      dto.amountMinor (Ajo.contributionIdempotencyKey schedule.id dto.idempotencyKey) posting.id) := by
  have hext := Extends.of_post h.opens h.post
  have hpool := (Extends.of_post (.refl _) h.post).accounts pool h.pool_account.1
  have hnone : ¬ Owned db (.contribution schedule.id dto.idempotencyKey) := by
    rintro ⟨x, hx, hkey⟩
    exact h.unused x hx hkey
  have hmember : IsMember history member.id userId :=
    ⟨_, hmoment, member, h.payer.1, rfl, h.payer.2⟩
  have hpayer : OfUser history userId schedule.currency wallet :=
    ⟨h.wallet_account.purpose, _, hmoment, h.wallet_account.wallet⟩
  exact .direct pool wallet userId ⟨hpool, h.pool_account.2⟩
    (hext.accounts wallet h.wallet_account.mem) hmember hpayer
    (points_of_post h.post (howned.fresh hnone h.opens))

theorem PayoutSettled.matches {ctx : Ctx} {userId : Uuid} {r : PayoutSchedule} {slot : AjoSlot}
    {p : Payout} {recipient : AjoGroupMember} {wallet : FinancialAccount} {pool : Uuid} {opened : Db}
    {posting : LedgerReference}
    (h : Ajo.PayoutSettled ctx db userId r slot p db' recipient wallet pool opened posting db'.ledger)
    (hunused : ∀ x ∈ db.payouts.rows, x.idempotencyKey ≠ Ajo.payoutIdempotencyKey r.id)
    (howned : KeysOwned db) (hmoment : (db, call) ∈ history) : PayoutMatches history db' p := by
  obtain ⟨hopened, hopens, a, ha, rfl, hcode⟩ := Ajo.poolAccountWithin_eq_ok h.credit
  have hext := Extends.of_post (.refl _) h.post
  have haccount := Ajo.memberWalletAccount_eq_ok h.account
  have hnone : ¬ Owned db (.payout r.id) := by
    rintro ⟨x, hx, hkey⟩
    exact hunused x hx hkey
  have hrecipient := Table.prop_of_find? h.holder
  simp only [decide_eq_true_eq] at hrecipient
  have hmember : IsMember history slot.memberId recipient.userId :=
    ⟨_, hmoment, recipient, Table.mem_of_find? h.holder, hrecipient, rfl⟩
  have huser : OfUser history recipient.userId r.currency wallet := by
    refine ⟨haccount.purpose, _, hmoment, ?_⟩
    rw [hopened] at haccount
    exact haccount.wallet
  rw [h.row]
  exact ⟨a, wallet, recipient.userId, ⟨hext.accounts a ha, hcode⟩,
    hext.accounts wallet haccount.mem, hmember, huser,
    points_of_post h.post (howned.fresh hnone hopens)⟩

section Intents

variable {ctx : Ctx} {userId : Uuid} {intent : PaymentIntent} {key : String} {walletId : Uuid}
  {target : ResolvedTarget} {payer : PayerAccounts} {destination : Uuid} {opened : Db}
  {posting : LedgerReference} {settled : Db}

theorem Paid.walletPaid
    (h : Paid config ctx db db' userId intent key walletId target payer destination opened posting
      settled) (howned : KeysOwned db) :
    WalletPaid config db' intent (some posting.id) destination := by
  have hext := Extends.of_post h.opens h.post
  have hnone : ¬ Owned db (.confirmation intent.id key) := by
    rintro ⟨x, hx, hid, hst⟩
    rw [intent_eq_of_id hx h.mem hid] at hst
    exact hst h.unpaid
  have hp := h.payer_accounts
  exact ⟨walletId, payer.available, payer.feeRevenue, h.wallet,
    OfWallet.mono hext ⟨hp.available_mem, hp.available_wallet, hp.available_purpose⟩,
    OfPlatform.mono hext ⟨hp.feeRevenue_mem, hp.feeRevenue_purpose⟩,
    points_of_post h.post (howned.fresh hnone h.opens)⟩

theorem Banked.depositLines {wallet : Wallet} {accounts : DepositAccounts}
    (h : Banked ctx db db' intent wallet accounts posting) (hmoment : (db, call) ∈ history) :
    DepositLines history db' intent (depositPosting intent accounts).entries := by
  have hext := Extends.of_post (.refl _) h.deposited.post
  exact ⟨accounts, h.deposited.found.mono hext.accounts, ⟨h.deposited.found.available.2, _, hmoment,
    wallet, h.owner.1, h.owner.2.1, h.owner.2.2, h.wallet_eq⟩, rfl⟩

/-- A contribution that was recorded for an intent. -/
theorem Paid.contribution_matches
    (h : Paid config ctx db db' userId intent key walletId target payer destination opened posting
      settled) (htype : intent.targetType = .ajoContribution) (howned : KeysOwned db)
    (hmoment : (db, call) ∈ history) {member : AjoGroupMember} {schedule : ContributionSchedule}
    (hschedule : schedule ∈ opened.contributionSchedules.rows)
    (htarget : intent.targetId = some schedule.id)
    (hmember : member ∈ opened.ajoGroupMembers.rows ∧ member.userId = userId)
    (idempotencyKey : String) :
    ContributionMatches config history db' (Ajo.newContribution (ctx.uuid 2) member.id schedule
      intent.amountMinor idempotencyKey posting.id) := by
  have hext := Extends.of_post (.refl _) h.post
  rw [h.opened_eq] at hschedule hmember
  have hcredit := h.credit
  rw [htype] at hcredit
  cases hcredit with
  | platform a purpose _ account id_eq _ pool =>
      have hpool : IsPool db'.ledger schedule.groupId a :=
        ⟨hext.accounts a account.mem, pool rfl schedule hschedule htarget⟩
      refine .intent a (markSettled ctx (targets config intent.targetType) posting intent) hpool ?_
        htype htarget rfl ⟨_, hmoment, member, hmember.1, rfl, hmember.2.trans h.owner.symm⟩ ?_
      · rw [h.intents]
        exact List.mem_map.mpr ⟨intent, h.mem, if_pos rfl⟩
      · rw [id_eq]
        exact (h.walletPaid howned).congr ⟨rfl, rfl⟩

end Intents

/-! ## What a call does to an intent -/

/-- A call left an intent pointing where it pointed. -/
inductive Left (db : Db) (call : Call) : PaymentIntent → PaymentIntent → Prop
  | same (x : PaymentIntent) : Left db call x x
  | charged {x : PaymentIntent} (ctx : Ctx) (provider : PaymentProvider) (userId : Uuid)
      (method : PaymentMethod) (reference : String)
      (asked : call = .startExternal ctx provider userId x.id method) :
      Left db call x (markCharged ctx method reference x)
  | failed {x : PaymentIntent} (reason : String) (asked : call = .failIntent x.id reason) :
      Left db call x (markFailed reason x)
  | /-- It was in process, and was settled with its bill. -/
    synced {x x' : PaymentIntent} (b : BillPayment) (mem : b ∈ db.bills.payments.rows)
      (bill : b.paymentIntentId = some x.id) (processing : x.status = .processing)
      (same : SameTerms x x') (pointing : x'.ledgerTransactionId = x.ledgerTransactionId)
      (reference : x'.providerReference = x.providerReference) : Left db call x x'

theorem Left.sameTerms {x x' : PaymentIntent} (h : Left db call x x') : SameTerms x x' := by
  cases h with
  | same => exact ⟨rfl, rfl⟩
  | charged _ _ _ _ _ _ => exact ⟨rfl, rfl⟩
  | failed _ _ => exact ⟨rfl, rfl⟩
  | synced _ _ _ _ same _ _ => exact same

theorem Left.pointing {x x' : PaymentIntent} (h : Left db call x x') :
    x'.ledgerTransactionId = x.ledgerTransactionId := by
  cases h with
  | same => rfl
  | charged _ _ _ _ _ _ => rfl
  | failed _ _ => rfl
  | synced _ _ _ _ _ pointing _ => exact pointing

/-- It has succeeded before, or with its bill. -/
theorem Left.succeeded {x x' : PaymentIntent} (h : Left db call x x') (hst : x'.status = .succeeded) :
    x.status = .succeeded ∨ ∃ b ∈ db.bills.payments.rows, b.paymentIntentId = some x.id := by
  cases h with
  | same => exact .inl hst
  | charged _ _ _ _ _ _ => cases hst
  | failed _ _ => cases hst
  | synced b mem bill _ _ _ _ => exact .inr ⟨b, mem, bill⟩

/-- How a stored intent comes out of a call. -/
inductive Became (config : BillConfig) (db db' : Db) (call : Call) :
    PaymentIntent → PaymentIntent → Prop
  | left {x x' : PaymentIntent} (left : Left db call x x') : Became config db db' call x x'
  | paid {x : PaymentIntent} (ctx : Ctx) (userId : Uuid) (key : String) (walletId : Uuid)
      (target : ResolvedTarget) (payer : PayerAccounts) (destination : Uuid) (opened : Db)
      (posting : LedgerReference) (settled : Db)
      (done : Paid config ctx db db' userId x key walletId target payer destination opened posting
        settled) :
      Became config db db' call x (markSettled ctx (targets config x.targetType) posting x)
  | banked {x : PaymentIntent} (ctx : Ctx) (wallet : Wallet) (accounts : DepositAccounts)
      (posting : LedgerReference) (done : Banked ctx db db' x wallet accounts posting)
      (asked : call = .settleDeposit ctx x.id) :
      Became config db db' call x (markDeposited ctx posting x)

theorem Became.same {x x' : PaymentIntent} (h : Became config db db' call x x') : SameTerms x x' := by
  cases h with
  | left left => exact left.sameTerms
  | paid _ _ _ _ _ _ _ _ _ _ _ => exact ⟨rfl, rfl⟩
  | banked _ _ _ _ _ _ => exact ⟨rfl, rfl⟩

theorem Became.id_eq {x x' : PaymentIntent} (h : Became config db db' call x x') : x'.id = x.id :=
  congrArg IntentTerms.id h.same.1

theorem Became.pointing {x x' : PaymentIntent} (h : Became config db db' call x x')
    (hx : x.ledgerTransactionId ≠ none) : x'.ledgerTransactionId ≠ none := by
  cases h with
  | left left => exact left.pointing ▸ hx
  | paid _ _ _ _ _ _ _ _ _ _ _ => exact nofun
  | banked _ _ _ _ _ _ => exact nofun

/-- A call rewrites the stored intents, or adds one. -/
inductive Intents (config : BillConfig) (db db' : Db) (call : Call) : Prop
  | map (f : PaymentIntent → PaymentIntent)
      (rows : db'.paymentIntents.rows = db.paymentIntents.rows.map f)
      (became : ∀ x ∈ db.paymentIntents.rows, Became config db db' call x (f x))
  | insert (i : PaymentIntent) (new : i.status = .requiresConfirmation ∧ i.ledgerTransactionId = none)
      (inserted : db.paymentIntents.insert i = some db'.paymentIntents)

theorem Intents.of_eq (h : db'.paymentIntents = db.paymentIntents) : Intents config db db' call :=
  .map id (by rw [h, List.map_id]) fun x _ ↦ .left (.same x)

/-- The intents with an identifier are rewritten. -/
theorem Intents.of_map {id : Uuid} {f : PaymentIntent → PaymentIntent}
    (hrows : db'.paymentIntents.rows = db.paymentIntents.rows.map fun i ↦
      if i.id = id then f i else i)
    (hbecame : ∀ x ∈ db.paymentIntents.rows, x.id = id → Became config db db' call x (f x)) :
    Intents config db db' call := by
  refine .map _ hrows fun x hx ↦ ?_
  by_cases hid : x.id = id
  · rw [if_pos hid]
    exact hbecame x hx hid
  · rw [if_neg hid]
    exact .left (.same x)

/-- A charge was written down. -/
theorem Intents.of_charge {ctx : Ctx} {provider : PaymentProvider} {userId intentId : Uuid}
    {method : PaymentMethod} {reference : String}
    (hrows : db'.paymentIntents.rows = db.paymentIntents.rows.map fun i ↦
      if i.id = intentId then markCharged ctx method reference i else i) :
    Intents config db db' (.startExternal ctx provider userId intentId method) := by
  refine .of_map hrows fun x _ hid ↦ .left (.charged ctx provider userId method reference ?_)
  rw [hid]

theorem Intents.of_synced {payment : BillPayment} {status : PaymentIntentStatus}
    (hmem : payment ∈ db.bills.payments.rows) (h : Synced db db' payment.paymentIntentId status) :
    Intents config db db' call := by
  obtain ⟨f, hrows, hterms, -, hrest⟩ := h
  refine .map _ hrows fun x _ ↦ ?_
  split
  · next hsync =>
      obtain ⟨hpointing, hreference, hwallet⟩ := hrest x
      exact .left (.synced payment hmem hsync.1 hsync.2 ⟨hterms x, hwallet⟩ hpointing hreference)
  · exact .left (.same x)

theorem Intents.of_handled {ctx : Ctx} {paymentId : Uuid} {answer : Option ProviderBillPayment}
    (h : Handled ctx paymentId answer db db') : Intents config db db' call := by
  cases h with
  | nothing same => exact .of_eq (congrArg Db.paymentIntents same)
  | released _ _ _ mem _ _ _ _ _ intents => exact .of_synced mem intents
  | settled _ _ _ mem _ _ _ _ _ intents => exact .of_synced mem intents
  | reversed _ _ _ _ _ _ _ _ _ _ intents => exact .of_eq intents
  | uncertain _ _ _ intents => exact .of_eq intents

theorem Effect.intents (h : Effect config db db' call) : Intents config db db' call := by
  have hsame : ∀ {r : Records}, records db' = r → r.intents = db.paymentIntents →
      Intents config db db' call := fun hr hi ↦ .of_eq ((congrArg Records.intents hr).trans hi)
  cases h with
  | idle _ after => exact hsame after rfl
  | sent _ _ _ _ _ done => exact hsame done.after rfl
  | withdrew _ _ _ _ _ done => exact hsame done.after rfl
  | contributed _ _ _ _ _ _ done => exact hsame done.after rfl
  | paidOut _ _ _ _ _ _ _ _ _ _ done => exact hsame done.records rfl
  | created intent _ new insert _ => exact .insert intent ⟨new.1, new.2.2.1⟩ insert
  | paid ctx userId intent key walletId target payer destination opened posting settled done _ =>
      refine .of_map done.intents fun x hx hid ↦ ?_
      rw [intent_eq_of_id hx done.mem hid]
      exact .paid ctx userId key walletId target payer destination opened posting settled done
  | charged _ _ _ _ intents _ => exact .of_charge intents
  | banked intent wallet accounts posting done =>
      refine .of_map done.deposited.intents fun x hx hid ↦ ?_
      rw [intent_eq_of_id hx done.deposited.mem hid]
      exact .banked _ wallet accounts posting done rfl
  | @failed intentId reason same =>
      subst same
      refine .of_map (rows_failIntent db intentId reason) fun x _ hid ↦ .left (.failed reason ?_)
      rw [hid]
  | reserved _ _ _ _ done => exact hsame done.after rfl
  | answered done _ => exact .of_handled done
  | unanswered done _ _ => exact .of_handled done
  | refunded _ _ _ _ _ _ _ done => exact hsame done.after rfl
  | rewarded _ _ _ _ done => exact hsame done.after rfl
  | elsewhere change same =>
      rw [same]
      exact .of_eq (change.intents db)

/-- Every intent was there under its terms, or is new. -/
theorem Intents.cases (h : Intents config db db' call) {x' : PaymentIntent}
    (hx' : x' ∈ db'.paymentIntents.rows) :
    (∃ x ∈ db.paymentIntents.rows, Became config db db' call x x') ∨
      x'.status = .requiresConfirmation ∧ x'.ledgerTransactionId = none ∧
        ∀ y ∈ db.paymentIntents.rows, y.id ≠ x'.id := by
  cases h with
  | map f rows became =>
      rw [rows] at hx'
      obtain ⟨x, hx, rfl⟩ := List.mem_map.mp hx'
      exact .inl ⟨x, hx, became x hx⟩
  | insert i new inserted =>
      obtain ⟨hfresh, hrows⟩ := Table.insert_eq_some.mp inserted
      rw [hrows] at hx'
      rcases List.mem_append.mp hx' with hx' | hx'
      · exact .inl ⟨x', hx', .left (.same x')⟩
      · rw [List.mem_singleton.mp hx']
        exact .inr ⟨new.1, new.2, fun y hy hid ↦ hfresh y hy (.inl (.inl (.inl hid)))⟩

/-- No intent is lost. -/
theorem Intents.exists_of_mem (h : Intents config db db' call) {x : PaymentIntent}
    (hx : x ∈ db.paymentIntents.rows) : ∃ x' ∈ db'.paymentIntents.rows,
      Became config db db' call x x' := by
  cases h with
  | map f rows became =>
      rw [rows]
      exact ⟨f x, List.mem_map_of_mem hx, became x hx⟩
  | insert i _ inserted =>
      rw [Table.rows_of_insert inserted]
      exact ⟨x, List.mem_append_left _ hx, .left (.same x)⟩

/-! ## What a call records -/

/-- The rows that a call added match what it posted. -/
structure Added (config : BillConfig) (history : History) (db db' : Db) (r : Records) : Prop where
  transfers : ∀ x ∈ r.transfers.rows, x ∈ db.transfers.rows ∨ TransferMatches db' x
  withdrawals : ∀ x ∈ r.withdrawals.rows, x ∈ db.withdrawals.rows ∨ WithdrawalMatches db' x
  contributions : ∀ x ∈ r.contributions.rows,
    x ∈ db.contributions.rows ∨ ContributionMatches config history db' x
  payouts : ∀ x ∈ r.payouts.rows, x ∈ db.payouts.rows ∨ PayoutMatches history db' x
  /-- A bill belongs to the intent it belonged to, or to one that was paid. -/
  bills : ∀ b ∈ r.bills.rows, ∀ i, b.paymentIntentId = some i →
    (∃ b₀ ∈ db.bills.payments.rows, b₀.paymentIntentId = some i) ∨
      ∃ x ∈ db'.paymentIntents.rows, x.id = i ∧ x.ledgerTransactionId ≠ none

theorem Added.refl (config : BillConfig) (history : History) (db db' : Db) :
    Added config history db db' (records db) where
  transfers _ hx := .inl hx
  withdrawals _ hx := .inl hx
  contributions _ hx := .inl hx
  payouts _ hx := .inl hx
  bills b hb _ hi := .inl ⟨b, hb, hi⟩

/-- A row that was inserted. -/
theorem added_of_insert {ρ : Type} [Schema ρ] {t t' : Table ρ} {x : ρ} {P : ρ → Prop}
    (h : t.insert x = some t') (hx : P x) : ∀ y ∈ t'.rows, y ∈ t.rows ∨ P y := by
  intro y hy
  rw [Table.rows_of_insert h] at hy
  rcases List.mem_append.mp hy with hy | hy
  · exact .inl hy
  · rw [List.mem_singleton.mp hy]
    exact .inr hx

/-- The bills of an answer belong to the intents they belonged to. -/
theorem Handled.bills_of {ctx : Ctx} {paymentId : Uuid} {answer : Option ProviderBillPayment}
    (h : Handled ctx paymentId answer db db') {b : BillPayment} (hb : b ∈ db'.bills.payments.rows)
    {i : Uuid} (hi : b.paymentIntentId = some i) :
    ∃ b₀ ∈ db.bills.payments.rows, b₀.paymentIntentId = some i := by
  have hrewritten : ∀ {id status reconciliation}, Rewritten db db' id status reconciliation →
      ∃ b₀ ∈ db.bills.payments.rows, b₀.paymentIntentId = some i := by
    intro id status reconciliation hr
    rcases hr.cases hb with ⟨hold, -⟩ | ⟨b₀, hb₀, -, hterms, -⟩
    · exact ⟨b, hold, hi⟩
    · exact ⟨b₀, hb₀, (congrArg BillTerms.paymentIntentId hterms).symm.trans hi⟩
  cases h with
  | nothing same =>
      rw [same] at hb
      exact ⟨b, hb, hi⟩
  | released _ _ _ _ _ _ _ _ bills _ => exact hrewritten bills
  | settled _ _ _ _ _ _ _ _ bills _ => exact hrewritten bills
  | reversed _ _ _ _ _ _ _ _ _ bills _ => exact hrewritten bills
  | uncertain _ _ bills _ => exact hrewritten bills

/-- What a target recorded about an intent that was paid. -/
theorem Paid.added {ctx : Ctx} {userId : Uuid} {intent : PaymentIntent} {key : String}
    {walletId : Uuid} {target : ResolvedTarget} {payer : PayerAccounts} {destination : Uuid}
    {opened : Db} {posting : LedgerReference} {settled : Db}
    (h : Paid config ctx db db' userId intent key walletId target payer destination opened posting
      settled) (howned : KeysOwned db) (hmoment : (db, call) ∈ history) :
    Added config history db db' (records settled) := by
  have hopened : records { opened with ledger := db'.ledger } = records db := by
    rw [h.opened_eq]
    rfl
  obtain ⟨type, htype⟩ : ∃ type, type = intent.targetType := ⟨_, rfl⟩
  have hrecord := h.record
  rw [← htype] at hrecord
  cases hrecord with
  | elsewhere _ after =>
      rw [after, hopened]
      exact .refl config history db db'
  | contribution member schedule mem target' payer' _ rows after =>
      rw [after, hopened]
      refine { Added.refl config history db db' with contributions := fun x hx ↦ ?_ }
      have hkept : opened.contributions = db.contributions := congrArg Records.contributions hopened
      rw [show settled.contributions.rows = _ from rows, hkept] at hx
      rcases List.mem_append.mp hx with hx | hx
      · exact .inl hx
      · rw [List.mem_singleton.mp hx]
        exact .inr (h.contribution_matches htype.symm howned hmoment mem target' payer' _)
  | bill validation wallet _ _ insert after =>
      rw [after, hopened]
      refine { Added.refl config history db db' with bills := fun b hb i hi ↦ ?_ }
      rcases added_of_insert (P := fun b ↦ b.paymentIntentId = some intent.id) insert rfl b hb with
        hb | hb
      · have hkept : opened.bills.payments = db.bills.payments := congrArg Records.bills hopened
        exact .inl ⟨b, hkept ▸ hb, hi⟩
      · refine .inr ⟨markSettled ctx (targets config intent.targetType) posting intent, ?_,
          Option.some.inj (hb.symm.trans hi), nofun⟩
        rw [h.intents]
        exact List.mem_map.mpr ⟨intent, h.mem, if_pos rfl⟩

/-- Every row that a call adds matches what the call posted. -/
theorem Effect.added (h : Effect config db db' call) (ha : Apart db call) (howned : KeysOwned db)
    (hmoment : (db, call) ∈ history) : Added config history db db' (records db') := by
  cases h with
  | idle _ after =>
      rw [after]
      exact .refl config history db db'
  | sent _ _ _ _ _ done =>
      rw [done.after]
      exact { Added.refl config history db db' with
        transfers := added_of_insert done.insert (Sent.matches done howned) }
  | withdrew _ _ _ _ _ done =>
      rw [done.after]
      exact { Added.refl config history db db' with
        withdrawals := added_of_insert done.insert (Withdrew.matches done howned) }
  | contributed _ _ _ _ _ _ done =>
      rw [done.after]
      refine { Added.refl config history db db' with contributions := fun x hx ↦ ?_ }
      rw [show db'.contributions.rows = _ from done.contributions] at hx
      rcases List.mem_append.mp hx with hx | hx
      · exact .inl hx
      · rw [List.mem_singleton.mp hx]
        exact .inr (DirectlyPaid.matches done howned hmoment)
  | paidOut _ _ p _ _ _ opened _ _ unused done =>
      have hopened : opened.payouts = db.payouts := by
        rw [(Ajo.poolAccountWithin_eq_ok done.credit).1]
      rw [done.records]
      refine { Added.refl config history db db' with payouts := fun x hx ↦ ?_ }
      rw [show db'.payouts.rows = _ from done.payouts, hopened] at hx
      rcases List.mem_append.mp hx with hx | hx
      · exact .inl hx
      · rw [List.mem_singleton.mp hx]
        exact .inr (PayoutSettled.matches done unused howned hmoment)
  | created _ _ _ _ after =>
      rw [after]
      exact { Added.refl config history db db' with }
  | paid _ _ _ _ _ _ _ _ _ _ _ done _ =>
      rw [done.after]
      exact { Paid.added done howned hmoment with }
  | charged _ _ _ _ _ after =>
      rw [after]
      exact { Added.refl config history db db' with }
  | banked _ _ _ _ done =>
      rw [done.after]
      exact { Added.refl config history db db' with }
  | @failed intentId reason same =>
      subst same
      exact { Added.refl config history db _ with }
  | reserved _ _ _ _ done =>
      rw [done.after]
      refine { Added.refl config history db db' with bills := fun b hb i hi ↦ ?_ }
      rcases added_of_insert (P := fun b ↦ b.paymentIntentId = none) done.insert rfl b hb with
        hb | hb
      · exact .inl ⟨b, hb, hi⟩
      · rw [hb] at hi
        cases hi
  | answered done kept =>
      rw [show records db' = _ from kept]
      exact { Added.refl config history db db' with
        bills := fun b hb i hi ↦ .inl (Handled.bills_of done hb hi) }
  | unanswered done kept _ =>
      rw [show records db' = _ from kept]
      exact { Added.refl config history db db' with
        bills := fun b hb i hi ↦ .inl (Handled.bills_of done hb hi) }
  | refunded _ _ _ _ _ _ _ done =>
      rw [done.after]
      exact .refl config history db db'
  | rewarded _ _ _ _ done =>
      rw [done.after]
      exact .refl config history db db'
  | elsewhere change same =>
      obtain ⟨htransfers, hwithdrawals, hcontributions, hpayouts, hbills⟩ := ha
      subst same
      exact {
        transfers := fun x hx ↦ .inl (htransfers ▸ hx)
        withdrawals := fun x hx ↦ .inl (hwithdrawals ▸ hx)
        contributions := fun x hx ↦ .inl (hcontributions ▸ hx)
        payouts := fun x hx ↦ .inl (hpayouts ▸ hx)
        bills := fun b hb i hi ↦ .inl ⟨b, hbills ▸ hb, hi⟩ }

/-! ## Every record of a run -/

/-- Every record points to a transaction of its own accounts and amounts. -/
structure RecordsMatch (config : BillConfig) (history : History) (db : Db) : Prop where
  transfers : ∀ x ∈ db.transfers.rows, TransferMatches db x
  withdrawals : ∀ x ∈ db.withdrawals.rows, WithdrawalMatches db x
  contributions : ∀ x ∈ db.contributions.rows, ContributionMatches config history db x
  payouts : ∀ x ∈ db.payouts.rows, PayoutMatches history db x
  intents : ∀ x ∈ db.paymentIntents.rows, x.status = .succeeded → IntentMatches config history db x

/-- What carries the match from call to call. -/
structure Consistent (config : BillConfig) (history : History) (db : Db) : Prop
    extends RecordsMatch config history db where
  owned : KeysOwned db
  posted : AllPosted config history db
  /-- An intent that points to a transaction matches it, settled or not. -/
  pointing : ∀ x ∈ db.paymentIntents.rows, x.ledgerTransactionId ≠ none →
    IntentMatches config history db x
  succeeded : ∀ x ∈ db.paymentIntents.rows, x.status = .succeeded → x.ledgerTransactionId ≠ none
  /-- The intent of a bill was paid. -/
  bills : ∀ b ∈ db.bills.payments.rows, ∀ i, b.paymentIntentId = some i →
    ∃ x ∈ db.paymentIntents.rows, x.id = i ∧ x.ledgerTransactionId ≠ none
  /-- What is posted under the key of a deposit is the deposit. -/
  deposits : ∀ t ∈ db.ledger.transactions.rows, ∀ x ∈ db.paymentIntents.rows,
    t.idempotencyKey = depositKey x.id → DepositLines history db x (lines t)

/-- A new transaction under the key of a deposit is the deposit. -/
theorem Effect.banked_of_key (h : Effect config db db' call) {t : LedgerTransaction}
    (ht : t ∈ db'.ledger.transactions.rows) (hold : t ∉ db.ledger.transactions.rows) {i : Uuid}
    (hkey : t.idempotencyKey = depositKey i) :
    ∃ ctx intent wallet accounts posting, Banked ctx db db' intent wallet accounts posting ∧
      intent.id = i ∧ lines t = (depositPosting intent accounts).entries := by
  have hpost : ∀ {mid : Ledger} {id command posting}, Opened db.ledger mid →
      mid.postWithin id command = .ok (posting, db'.ledger) → t = postedTransaction id command := by
    intro mid id command posting hopens hpost
    cases (postWithin_eq_ok hpost).2 with
    | replayed _ _ _ _ same =>
        rw [same, hopens.transactions] at ht
        exact absurd ht hold
    | appended _ created _ =>
        rw [(createTransaction_eq_ok created).2.2.2.2, hopens.transactions] at ht
        exact List.mem_singleton.mp ((List.mem_append.mp ht).resolve_left hold)
  obtain hopened | ⟨o, mid, id, command, posting, hmakes, -⟩ := h.makes
  · rw [hopened.transactions] at ht
    exact absurd ht hold
  have ho : o = .deposit i := by
    refine Origin.key_inj (hmakes.key.symm.trans ?_)
    rw [hpost hmakes.opens hmakes.post] at hkey
    exact hkey
  have hperforms := hmakes.performs
  rw [ho] at hperforms
  -- Only the settlement of the intent posts its deposit.
  cases hperforms with
  | settleDeposit =>
      cases h with
      | idle opens _ =>
          rw [opens.transactions] at ht
          exact absurd ht hold
      | created _ ledger _ _ _ =>
          rw [ledger] at ht
          exact absurd ht hold
      | paid _ _ _ _ _ _ _ _ _ _ _ _ asked => cases asked
      | banked intent wallet accounts posting done =>
          refine ⟨_, intent, wallet, accounts, posting, done, rfl, ?_⟩
          rw [hpost (.refl _) done.deposited.post]
          exact map_numberEntries _ _ _

theorem ContributionMatches.step {x : Contribution} (h : ContributionMatches config history db x)
    (hext : Extends db.ledger db'.ledger) (hintents : Intents config db db' call) (moment : Db × Call) :
    ContributionMatches config (history ++ [moment]) db' x := by
  have hhist : history ⊆ history ++ [moment] := List.subset_append_left _ _
  cases h with
  | direct pool account userId credit mem member payer points =>
      exact .direct pool account userId (credit.mono hext) (hext.accounts account mem)
        (member.mono hhist) (payer.mono hhist) (points.mono hext)
  | intent pool i credit stored type target amount member paid =>
      obtain ⟨i', hi', hbecame⟩ := hintents.exists_of_mem stored
      have hsame := hbecame.same
      have huser : i'.userId = i.userId := congrArg IntentTerms.userId hsame.1
      exact .intent pool i' (credit.mono hext) hi'
        ((congrArg IntentTerms.targetType hsame.1).trans type)
        ((congrArg IntentTerms.targetId hsame.1).trans target)
        ((congrArg IntentTerms.amountMinor hsame.1).trans amount)
        (huser ▸ member.mono hhist) ((paid.mono hext).congr hsame)

/-- Deposits stay booked under their own keys. -/
theorem Consistent.deposits_step (h : Consistent config history db)
    (heffect : Effect config db db' call) {t : LedgerTransaction}
    (ht : t ∈ db'.ledger.transactions.rows) {x' : PaymentIntent}
    (hx' : x' ∈ db'.paymentIntents.rows) (hkey : t.idempotencyKey = depositKey x'.id) :
    DepositLines (history ++ [(db, call)]) db' x' (lines t) := by
  have hmoment : (db, call) ∈ history ++ [(db, call)] :=
    List.mem_append_right _ (List.mem_singleton_self _)
  -- A deposit has an intent, so the intent is not new.
  have hstored : (∃ y ∈ db.paymentIntents.rows, y.id = x'.id) →
      ∃ x ∈ db.paymentIntents.rows, SameTerms x x' := by
    rintro ⟨y, hy, hid⟩
    rcases heffect.intents.cases hx' with ⟨x, hx, hbecame⟩ | ⟨-, -, hnew⟩
    · exact ⟨x, hx, hbecame.same⟩
    · exact absurd hid (hnew y hy)
  by_cases hold : t ∈ db.ledger.transactions.rows
  · obtain ⟨x, hx, hsame⟩ := hstored (h.owned t hold (.deposit x'.id) hkey)
    have hid : x'.id = x.id := congrArg IntentTerms.id hsame.1
    have hlines := h.deposits t hold x hx (hkey.trans (congrArg depositKey hid))
    exact (hlines.mono heffect.extends (List.subset_append_left _ _)).congr hsame
  · obtain ⟨ctx, intent, wallet, accounts, posting, hbanked, hid, hlines⟩ :=
      heffect.banked_of_key ht hold hkey
    obtain ⟨x, hx, hsame⟩ := hstored ⟨intent, hbanked.deposited.mem, hid⟩
    have heq : intent = x :=
      intent_eq_of_id hbanked.deposited.mem hx (hid.trans (congrArg IntentTerms.id hsame.1))
    rw [hlines, heq]
    rw [heq] at hbanked
    exact (hbanked.depositLines hmoment).congr hsame

/-- Intents that point to a transaction go on matching it. -/
theorem Consistent.pointing_step (h : Consistent config history db)
    (heffect : Effect config db db' call) {x' : PaymentIntent}
    (hx' : x' ∈ db'.paymentIntents.rows) (hpoints : x'.ledgerTransactionId ≠ none) :
    IntentMatches config (history ++ [(db, call)]) db' x' := by
  have hmoment : (db, call) ∈ history ++ [(db, call)] :=
    List.mem_append_right _ (List.mem_singleton_self _)
  rcases heffect.intents.cases hx' with ⟨x, hx, hbecame⟩ | ⟨-, hnone, -⟩
  · have hdeposits := fun t ht ↦ h.deposits_step heffect (t := t) ht hx'
    cases hbecame with
    | left left =>
        have hmatch := h.pointing x hx (left.pointing ▸ hpoints)
        exact (hmatch.mono heffect.extends (List.subset_append_left _ _)).congr left.sameTerms
          left.pointing
    | paid ctx userId key walletId target payer destination opened posting settled done =>
        have hpaid : WalletPaid config db' (markSettled ctx (targets config x.targetType) posting x)
          (some posting.id) destination := (done.walletPaid h.owned).congr ⟨rfl, rfl⟩
        exact .wallet destination ⟨(db, call), hmoment, ctx, opened, done.account⟩ hpaid
    | banked ctx wallet accounts posting done _ =>
        -- The deposit may have been posted before: then it is the same deposit.
        obtain ⟨t, ht, hid, hkey⟩ := exists_key_of_postWithin done.deposited.post
        exact .deposit (lines t) (hdeposits t ht hkey) ⟨t, ht, congrArg some hid.symm, rfl⟩
  · exact absurd hnone hpoints

theorem Consistent.succeeded_step (h : Consistent config history db)
    (heffect : Effect config db db' call) {x' : PaymentIntent}
    (hx' : x' ∈ db'.paymentIntents.rows) (hst : x'.status = .succeeded) :
    x'.ledgerTransactionId ≠ none := by
  rcases heffect.intents.cases hx' with ⟨x, hx, hbecame⟩ | ⟨hnew, -⟩
  · cases hbecame with
    | left left =>
        rw [left.pointing]
        rcases left.succeeded hst with hold | ⟨b, hb, hbill⟩
        · exact h.succeeded x hx hold
        · obtain ⟨y, hy, hid, hpoints⟩ := h.bills b hb x.id hbill
          rw [← intent_eq_of_id hy hx hid]
          exact hpoints
    | paid _ _ _ _ _ _ _ _ _ _ _ => exact nofun
    | banked _ _ _ _ _ _ => exact nofun
  · rw [hnew] at hst
    cases hst

/-- Every call leaves the records matched. -/
theorem Consistent.step (h : Consistent config history db) (ha : Apart db call) :
    Consistent config (history ++ [(db, call)]) (step config db call) := by
  have howned : KeysOwned (Platform.step config db call) := h.owned.step ha
  have hposted := h.posted.step call
  have heffect := step_effect config db call
  generalize Platform.step config db call = db' at howned hposted heffect ⊢
  have hext := heffect.extends
  have hhist : history ⊆ history ++ [(db, call)] := List.subset_append_left _ _
  have hadded := heffect.added ha h.owned
    (List.mem_append_right history (List.mem_singleton_self (db, call)))
  refine ⟨⟨?transfers, ?withdrawals, ?contributions, ?payouts, ?intents⟩, howned, hposted, ?pointing,
    ?succeeded, ?bills, ?deposits⟩
  case transfers =>
    intro x hx
    exact (hadded.transfers x hx).elim (fun hold ↦ (h.transfers x hold).mono hext) id
  case withdrawals =>
    intro x hx
    exact (hadded.withdrawals x hx).elim (fun hold ↦ (h.withdrawals x hold).mono hext) id
  case contributions =>
    intro x hx
    exact (hadded.contributions x hx).elim
      (fun hold ↦ (h.contributions x hold).step hext heffect.intents _) id
  case payouts =>
    intro x hx
    exact (hadded.payouts x hx).elim (fun hold ↦ (h.payouts x hold).mono hext hhist) id
  case intents =>
    intro x hx hst
    exact h.pointing_step heffect hx (h.succeeded_step heffect hx hst)
  case pointing =>
    intro x hx hpoints
    exact h.pointing_step heffect hx hpoints
  case succeeded =>
    intro x hx hst
    exact h.succeeded_step heffect hx hst
  case bills =>
    intro b hb i hi
    rcases hadded.bills b hb i hi with ⟨b₀, hb₀, hi₀⟩ | hpaid
    · obtain ⟨x, hx, hid, hpoints⟩ := h.bills b₀ hb₀ i hi₀
      obtain ⟨x', hx', hbecame⟩ := heffect.intents.exists_of_mem hx
      exact ⟨x', hx', hbecame.id_eq.trans hid, hbecame.pointing hpoints⟩
    · exact hpaid
  case deposits =>
    intro t ht x hx hkey
    exact h.deposits_step heffect ht hx hkey

/-- Nothing was posted and nothing recorded. -/
structure Blank (db : Db) : Prop where
  transactions : db.ledger.transactions.rows = []
  transfers : db.transfers.rows = []
  withdrawals : db.withdrawals.rows = []
  contributions : db.contributions.rows = []
  payouts : db.payouts.rows = []
  intents : db.paymentIntents.rows = []
  bills : db.bills.payments.rows = []

theorem Consistent.of_blank (h : Blank db) : Consistent config [] db where
  transfers x hx := by simp [h.transfers] at hx
  withdrawals x hx := by simp [h.withdrawals] at hx
  contributions x hx := by simp [h.contributions] at hx
  payouts x hx := by simp [h.payouts] at hx
  intents x hx := by simp [h.intents] at hx
  owned t ht := by simp [h.transactions] at ht
  posted t ht := by simp [h.transactions] at ht
  pointing x hx := by simp [h.intents] at hx
  succeeded x hx := by simp [h.intents] at hx
  bills b hb := by simp [h.bills] at hb
  deposits t ht := by simp [h.transactions] at ht

/-- **Records match the ledger.**  In every run, the transaction that `postWithin` finds under the
key of a call was posted earlier in the run for the same operation and the same record, and every
record points to a transaction with exactly its accounts and amounts. -/
theorem records_match_ledger {start : Db} (h₀ : Blank start)
    (h : Traced (step config) Apart start history db) :
    (∀ call o mid id command posting, Makes db (step config db call) call o mid id command posting →
      ∀ t ∈ mid.transactions.rows, t.idempotencyKey = command.idempotencyKey →
        PostedEarlier config history o t) ∧
    RecordsMatch config history db := by
  have hall := h.invariant (I := Consistent config) (.of_blank h₀) fun _ _ _ hc ha ↦ hc.step ha
  constructor
  · intro call o mid id command posting hmakes t ht hkey
    rw [hmakes.opens.transactions] at ht
    exact hall.posted.posted_of_key ht (hkey.trans hmakes.key)
  · exact hall.toRecordsMatch

section Sample

/-- The sample's top-up is given up after all, and its deposit is settled again. -/
def sampleSettledTwice : List Call :=
  sampleCalls ++ [.failIntent (.ofNat 1000) "Late", .settleDeposit (sampleCtx 7) (.ofNat 1000)]

theorem blank_samplePlatform : Blank samplePlatform := ⟨rfl, rfl, rfl, rfl, rfl, rfl, rfl⟩

end Sample

/-- The second settlement finds the first one's posting, and the intent points to it. -/
theorem records_match_ledger_sample : ∃ history,
    (∀ call o mid id command posting,
      Makes (sampleSettledTwice.foldl (step sampleConfig) samplePlatform)
        (step sampleConfig (sampleSettledTwice.foldl (step sampleConfig) samplePlatform) call) call o
        mid id command posting →
      ∀ t ∈ mid.transactions.rows, t.idempotencyKey = command.idempotencyKey →
        PostedEarlier sampleConfig history o t) ∧
    RecordsMatch sampleConfig history (sampleSettledTwice.foldl (step sampleConfig) samplePlatform) ∧
    (sampleSettledTwice.foldl (step sampleConfig) samplePlatform).paymentIntents.rows.map (·.status) =
      [.succeeded] ∧
    (sampleSettledTwice.foldl (step sampleConfig) samplePlatform).ledger.transactions.rows.length = 3 := by
  have hrun : Reaches (step sampleConfig) Apart samplePlatform
      (sampleSettledTwice.foldl (step sampleConfig) samplePlatform) :=
    reaches_of_allAdmitted (by decide +kernel)
  obtain ⟨history, htraced⟩ := hrun.exists_traced
  obtain ⟨hreplays, hrecords⟩ := records_match_ledger blank_samplePlatform htraced
  exact ⟨history, hreplays, hrecords, by decide +kernel, by decide +kernel⟩

end AjoCloud.Platform
