import AjoCloud.Ajo.Turns
import AjoCloud.Ledger.Transfer

/-!
# Two ways to pay a contribution

A member pays a contribution directly, or by an intent that is confirmed from the wallet.  The two
services check the same things in different words; here each is brought down to what it asks of the
database, and to the same last step.
-/

namespace AjoCloud.Ajo

open Lib ServiceError Ledger Payments

variable {ctx : Ctx} {db db' : Db} {userId memberId : Uuid} {s : ContributionSchedule} {amount : Int}
  {key : String}

/-! ## The second way -/

/-- `PaymentsService.confirm` with the wallet as the method and the right PIN, for a target that
checks nothing else. -/
def confirmFromWallet (ctx : Ctx) (db : Db) (handler : PaymentTarget) (userId intentId : Uuid)
    (idempotencyKey : String) : Except ServiceError (PaymentIntent × Db) := do
  let intent ← orThrow (db.paymentIntents.find? fun i ↦ i.id = intentId ∧ i.userId = userId)
    (notFound "Payment was not found")
  if intent.status = .requiresConfirmation then do
    require (isPayable intent.status intent.expiresAt ctx.now)
      (conflict "This payment has expired. Start it again.")
    require (.wallet ∈ handler.methods)
      (unprocessable "This payment cannot be made from your wallet")
    settleFromWallet ctx db handler userId intentId idempotencyKey
  else pure (intent, db)

/-- The keys a client sends when it creates an intent and when it confirms it. -/
structure IntentKeys where
  create : String
  confirm : String

/-- A contribution paid by an intent: it is created in `opening` and confirmed in `ctx`. -/
def payByIntent (opening ctx : Ctx) (db : Db) (userId scheduleId : Uuid) (amount : Int)
    (keys : IntentKeys) : Except ServiceError (PaymentIntent × Db) := do
  let (intent, db) ← create opening db ajoContributionTarget userId ⟨some scheduleId, some amount⟩
    keys.create
  confirmFromWallet ctx db ajoContributionTarget userId intent.id keys.confirm

/-! ## What is asked of the database -/

/-- The member holds the slot that the schedule is for, and is active. -/
def Holds (db : Db) (userId : Uuid) (s : ContributionSchedule) (member : AjoGroupMember) : Prop :=
  ∃ slot, db.ajoSlots.find? (fun x ↦ x.id = s.slotId) = some slot ∧
    db.ajoGroupMembers.find? (fun m ↦ m.groupId = s.groupId ∧ m.userId = userId) = some member ∧
    member.status = .active ∧ slot.memberId = member.id

/-- The amount can be taken for the schedule. -/
structure IsDue (s : ContributionSchedule) (amount : Int) : Prop where
  collectable : ¬ (s.status = .cancelled ∨ s.status = .waived)
  positive : 0 < amount
  owed : s.amountPaidMinor + amount ≤ s.amountDueMinor

/-- The wallet can pay the amount into the group's pool. -/
structure Funded (db : Db) (userId : Uuid) (s : ContributionSchedule) (amount : Int)
    (wallet : FinancialAccount) : Prop where
  account : memberWalletAccount db userId s.currency = .ok wallet
  covered : amount ≤ db.balance wallet.id
  pool : ∀ a, db.ledger.accounts.find? (fun a ↦ a.code = poolAccountCode s.groupId) = some a →
    a.isActive = true
  currency : isCurrencyCode s.currency = true
  fits : fitsBigInt amount = true

/-- Nothing about the group, the member, the amount and the wallet stands against the payment. -/
def Payable (db : Db) (userId : Uuid) (s : ContributionSchedule) (amount : Int) : Prop :=
  (∃ member, Holds db userId s member) ∧ IsDue s amount ∧ ∃ wallet, Funded db userId s amount wallet

/-! ## The last step -/

/-- What both ways come down to: the wallet's account and the pool's are found, the money is moved
and the contribution is recorded. -/
def collect (ctx : Ctx) (db : Db) (userId memberId : Uuid) (s : ContributionSchedule) (amount : Int)
    (key : String) (command : Uuid → Uuid → LedgerPostingCommand) :
    Except ServiceError (Contribution × Db) := do
  let wallet ← memberWalletAccount db userId s.currency
  let (pool, db) ← poolAccountWithin db (ctx.uuid 1) s.groupId s.currency
  require (¬ db.balance wallet.id < amount) (unprocessable "Your wallet balance is not enough")
  let (posting, ledger) ← db.ledger.postWithin (ctx.uuid 0) (command wallet.id pool)
  recordContributionWithin ctx { db with ledger := ledger } memberId s amount key posting.id

/-- The identifiers that are drawn have not been drawn before. -/
structure FreshIds (ctx : Ctx) (db : Db) : Prop where
  transaction : ∀ t ∈ db.ledger.transactions.rows, t.id ≠ ctx.uuid 0
  account : ∀ a ∈ db.ledger.accounts.rows, a.id ≠ ctx.uuid 1
  contribution : ∀ c ∈ db.contributions.rows, c.id ≠ ctx.uuid 2
  intent : ∀ i ∈ db.paymentIntents.rows, i.ledgerTransactionId ≠ some (ctx.uuid 0)

/-- The command moves the contribution from the wallet to the pool, under a key and with a
reference. -/
structure MovesContribution (s : ContributionSchedule) (amount : Int) (ledgerKey reference : String)
    (command : Uuid → Uuid → LedgerPostingCommand) : Prop where
  transfers : ∀ wallet pool, (command wallet pool).Transfers wallet pool amount
  columns : ∀ wallet pool, (command wallet pool).FitsColumns
  currency : ∀ wallet pool, (command wallet pool).currency = s.currency
  key : ∀ wallet pool, (command wallet pool).idempotencyKey = ledgerKey
  reference : ∀ wallet pool, (command wallet pool).reference = reference

/-- A pool can be opened in any currency that is a code. -/
theorem exists_poolAccountWithin_iff {id groupId : Uuid} {currency : String}
    (hfresh : ∀ a ∈ db.ledger.accounts.rows, a.id ≠ id) (hcurrency : isCurrencyCode currency = true) :
    (∃ r, poolAccountWithin db id groupId currency = .ok r) ↔
      ∀ a, db.ledger.accounts.find? (fun a ↦ a.code = poolAccountCode groupId) = some a →
        a.isActive = true := by
  unfold poolAccountWithin
  split
  · next a ha =>
      simp only [bind_eq_ok, require_eq_ok, pure_eq_ok, exists_const]
      constructor
      · rintro ⟨r, hactive, -⟩ b hb
        rw [ha, Option.some.injEq] at hb
        exact hb ▸ hactive
      · intro h
        exact ⟨_, h a ha, rfl⟩
  · next hnone =>
      have hins : ∃ ledger, db.ledger.createAccount (newPoolAccount id groupId currency) =
          .ok ledger := by
        refine exists_createAccount_iff.mpr ⟨⟨?_, ?_, ?_⟩, ?_⟩
        · simp [fitsVarChar, newPoolAccount, poolAccountCode, ← String.length_toList]
        · simp [fitsVarChar, newPoolAccount, ← String.length_toList]
        · exact le_of_eq (length_of_isCurrencyCode hcurrency)
        · rintro a ha (heq | ⟨-, heq⟩)
          · exact hfresh a ha heq
          · exact Table.not_of_find?_eq_none hnone ha (decide_eq_true (Option.some.inj heq))
      obtain ⟨ledger, hledger⟩ := hins
      constructor
      · intro _ a ha
        exact absurd (hnone.symm.trans ha) (by simp)
      · intro _
        exact ⟨_, bind_of_eq_ok hledger⟩

section Collect

variable {ledgerKey reference : String} {command : Uuid → Uuid → LedgerPostingCommand}

/-- Opening a pool adds its account behind the others, and nothing else. -/
theorem accounts_of_poolAccountWithin {id pool : Uuid} {groupId : Uuid} {currency : String}
    (h : poolAccountWithin db id groupId currency = .ok (pool, db')) :
    ∃ added, db'.ledger.accounts.rows = db.ledger.accounts.rows ++ added := by
  unfold poolAccountWithin at h
  split at h
  · simp only [bind_eq_ok, require_eq_ok, pure_eq_ok, exists_const, Prod.mk.injEq] at h
    obtain ⟨-, -, rfl⟩ := h
    exact ⟨[], (List.append_nil _).symm⟩
  · simp only [bind_eq_ok, pure_eq_ok, Prod.mk.injEq] at h
    obtain ⟨ledger, hcreate, -, rfl⟩ := h
    exact ⟨_, (createAccount_eq_ok hcreate).2.1⟩

/-- When the last step succeeds. -/
theorem exists_collect_iff (hids : FreshIds ctx db)
    (hcommand : MovesContribution s amount ledgerKey reference command)
    (hledger : ∀ t ∈ db.ledger.transactions.rows, t.idempotencyKey ≠ ledgerKey)
    (hcontributions : ∀ c ∈ db.contributions.rows, c.idempotencyKey ≠ key) :
    (∃ r, collect ctx db userId memberId s amount key command = .ok r) ↔
      (∃ wallet, Funded db userId s amount wallet) ∧ 0 < amount ∧ fitsVarChar 128 ledgerKey ∧
        fitsVarChar 128 key ∧ ∀ t ∈ db.ledger.transactions.rows, t.reference ≠ reference := by
  -- Once both accounts are there, the posting is a transfer between them.
  have hpost : ∀ {wallet pool opened}, memberWalletAccount db userId s.currency = .ok wallet →
      poolAccountWithin db (ctx.uuid 1) s.groupId s.currency = .ok (pool, opened) →
      ((∃ r, opened.ledger.postWithin (ctx.uuid 0) (command wallet.id pool) = .ok r) ↔
        isCurrencyCode s.currency = true ∧ 0 < amount ∧ fitsBigInt amount = true ∧
          fitsVarChar 128 ledgerKey ∧
          ∀ t ∈ db.ledger.transactions.rows, t.reference ≠ reference) := by
    intro wallet pool opened hwallet hpool
    obtain ⟨-, hopened, a, ha, hid, -⟩ := poolAccountWithin_eq_ok hpool
    have hid' : ∀ t ∈ opened.ledger.transactions.rows, t.id ≠ ctx.uuid 0 :=
      hopened.transactions ▸ hids.transaction
    have htransfer := exists_postWithin_transfer_iff
      (hcommand.transfers wallet.id pool) (hcommand.columns wallet.id pool)
      ⟨wallet, hopened.accounts _ (memberWalletAccount_eq_ok hwallet).mem, rfl⟩ ⟨a, ha, hid⟩ hid'
      (hopened.transactions ▸ (hcommand.key wallet.id pool).symm ▸ hledger)
    rwa [hcommand.currency, hcommand.key, hcommand.reference, hopened.transactions] at htransfer
  simp only [collect, bind_eq_ok, require_eq_ok, exists_const, Prod.exists]
  constructor
  · rintro ⟨c, db', wallet, hwallet, pool, opened, hpool, hcovered, posting, ledger, hposted, hrec⟩
    obtain ⟨hcurrency, hpos, hfits, hkey, href⟩ := (hpost hwallet hpool).mp ⟨_, hposted⟩
    obtain ⟨-, hopened, -⟩ := poolAccountWithin_eq_ok hpool
    simp only [recordContributionWithin, bind_eq_ok, require_eq_ok, exists_const] at hrec
    refine ⟨⟨wallet, hwallet, ?_, ?_, hcurrency, hfits⟩, hpos, hkey, hrec.1.1, href⟩
    · rw [Db.balance, ← hopened.balance]
      exact not_lt.mp hcovered
    · exact (exists_poolAccountWithin_iff hids.account hcurrency).mp ⟨_, hpool⟩
  · rintro ⟨⟨wallet, hfunded⟩, hpos, hledgerKey, hkey, href⟩
    obtain ⟨⟨pool, opened⟩, hpool⟩ :=
      (exists_poolAccountWithin_iff hids.account hfunded.currency).mpr hfunded.pool
    obtain ⟨hdb, hopened, -⟩ := poolAccountWithin_eq_ok hpool
    obtain ⟨⟨posting, ledger⟩, hposted⟩ := (hpost hfunded.account hpool).mpr
      ⟨hfunded.currency, hpos, hfunded.fits, hledgerKey, href⟩
    have hclash : ∀ x ∈ opened.contributions.rows,
        ¬ Schema.Clash x (newContribution (ctx.uuid 2) memberId s amount key posting.id) := by
      rw [hdb]
      rintro x hx (heq | ⟨-, heq⟩)
      · exact hids.contribution x hx heq
      · exact hcontributions x hx (Option.some.inj heq)
    have hins : ∃ contributions, opened.contributions.insert
        (newContribution (ctx.uuid 2) memberId s amount key posting.id) = some contributions := by
      rw [Table.insert, dif_pos hclash]
      exact ⟨_, rfl⟩
    obtain ⟨contributions, hins⟩ := hins
    have hrec : ∃ c db', recordContributionWithin ctx { opened with ledger := ledger } memberId s
        amount key posting.id = .ok (c, db') := by
      rw [recordContributionWithin, require_of ⟨hkey, hfunded.fits⟩]
      exact ⟨_, _, bind_of_eq_ok (orThrow_eq_ok.mpr hins)⟩
    obtain ⟨c, db', hrec⟩ := hrec
    refine ⟨c, db', wallet, hfunded.account, pool, opened, hpool, ?_, posting, ledger, hposted, hrec⟩
    have hcovered := hfunded.covered
    rw [Db.balance, ← hopened.balance] at hcovered
    exact not_lt.mpr hcovered

/-! ## What can be seen afterwards -/

/-- What a member sees of a contribution: the schedule, the contributions made for it, the wallet
and the pool. -/
@[ext]
structure Observation where
  schedule : Option (Int × ContributionScheduleStatus)
  contributed : List Int
  wallet : Option Int
  pool : Int
deriving DecidableEq

/-- What is seen of a schedule in a database. -/
def observe (db : Db) (userId : Uuid) (s : ContributionSchedule) : Observation where
  schedule := (db.contributionSchedules.find? (·.id = s.id)).map fun x ↦
    (x.amountPaidMinor, x.status)
  contributed := (db.contributions.findMany (·.scheduleId = s.id)).map (·.amountMinor)
  wallet := (memberWalletAccount db userId s.currency).toOption.map fun a ↦ db.balance a.id
  pool := poolBalance db s.groupId

/-- What is seen of a schedule after the amount has been paid for it. -/
def observePaid (now : Timestamp) (db : Db) (userId : Uuid) (s : ContributionSchedule)
    (amount : Int) : Observation where
  schedule := some (s.amountPaidMinor + amount, contributionScheduleStatusFor s.amountDueMinor
    (s.amountPaidMinor + amount) s.dueAt now)
  contributed := (observe db userId s).contributed ++ [amount]
  wallet := (observe db userId s).wallet.map (· - amount)
  pool := (observe db userId s).pool + amount

/-- A wallet's account is found again among more accounts. -/
theorem memberWalletAccount_of_append {currency : String} {wallet : FinancialAccount}
    {added : List FinancialAccount} (hwallets : db'.wallets = db.wallets)
    (haccounts : db'.ledger.accounts.rows = db.ledger.accounts.rows ++ added)
    (h : memberWalletAccount db userId currency = .ok wallet) :
    memberWalletAccount db' userId currency = .ok wallet := by
  simp only [memberWalletAccount, bind_eq_ok, orThrow_eq_ok] at h ⊢
  obtain ⟨w, hw, haccount⟩ := h
  refine ⟨w, hwallets ▸ hw, ?_⟩
  rw [Table.find?] at haccount ⊢
  rw [haccounts, List.find?_append, haccount]
  rfl

/-- The last step, seen from outside. -/
theorem observe_collect (hs : s ∈ db.contributionSchedules.rows)
    (hcommand : MovesContribution s amount ledgerKey reference command)
    (hledger : ∀ t ∈ db.ledger.transactions.rows, t.idempotencyKey ≠ ledgerKey) {c : Contribution}
    (h : collect ctx db userId memberId s amount key command = .ok (c, db')) :
    observe db' userId s = observePaid ctx.now db userId s amount := by
  simp only [collect, bind_eq_ok, require_eq_ok, exists_const, Prod.exists] at h
  obtain ⟨wallet, hwallet, pool, opened, hpool, -, posting, ledger, hposted, hrec⟩ := h
  obtain ⟨hdb, hopened, a, ha, rfl, hcode⟩ := poolAccountWithin_eq_ok hpool
  obtain ⟨added, hadded⟩ := accounts_of_poolAccountWithin hpool
  obtain ⟨rfl, -, hrows, hafter⟩ := recordContributionWithin_eq_ok hrec
  have hw := memberWalletAccount_eq_ok hwallet
  have hne : wallet.id ≠ a.id :=
    id_ne_pool (hopened.accounts _ hw.mem) (by simp [hw.purpose]) ha hcode
  have hmoved := balance_of_transfer (hcommand.transfers wallet.id a.id) hposted
    (hopened.transactions ▸ (hcommand.key wallet.id a.id).symm ▸ hledger)
  have haccounts : ledger.accounts = opened.ledger.accounts := by
    cases (postWithin_eq_ok hposted).2 with
    | replayed _ _ _ _ same => rw [same]
    | appended _ created _ => exact (createTransaction_eq_ok created).2.2.2.1
  have hledger' : db'.ledger = ledger := by rw [hafter]
  have hschedule : (observe db' userId s).schedule =
      (observePaid ctx.now db userId s amount).schedule := by
    have hfound : db'.contributionSchedules.find? (·.id = s.id) =
        some (creditSchedule s amount ctx.now s) := by
      refine Table.find?_eq_some_of_mem _ ?_ (decide_eq_true rfl) fun x _ hx ↦
        .inl (of_decide_eq_true hx)
      rw [hafter]
      refine List.mem_map.mpr ⟨s, ?_, if_pos (decide_eq_true rfl)⟩
      rw [hdb]
      exact hs
    simp only [observe, hfound]
    rfl
  have hcontributed : (observe db' userId s).contributed =
      (observePaid ctx.now db userId s amount).contributed := by
    simp only [observe, observePaid, Table.findMany]
    rw [hrows, hdb, List.filter_append, List.map_append]
    simp [newContribution]
  have hwalletAfter : (observe db' userId s).wallet =
      (observePaid ctx.now db userId s amount).wallet := by
    have hrowsAfter : db'.ledger.accounts.rows = db.ledger.accounts.rows ++ added := by
      rw [hledger', haccounts, hadded]
    have hagain : memberWalletAccount db' userId s.currency = .ok wallet :=
      memberWalletAccount_of_append (by rw [hafter, hdb]) hrowsAfter hwallet
    simp only [observe, observePaid, hagain, hwallet, Except.toOption, Option.map_some]
    rw [Db.balance, Db.balance, hledger', hmoved, if_pos rfl, if_neg (Ne.symm hne),
      hopened.balance]
    congr 1
    ring
  have hpoolAfter : (observe db' userId s).pool = (observePaid ctx.now db userId s amount).pool := by
    have hmem : a ∈ db'.ledger.accounts.rows := by
      rw [hledger', haccounts]
      exact ha
    change db'.ledger.codeBalance _ = db.ledger.codeBalance _ + amount
    rw [codeBalance_eq hmem hcode, hledger', hmoved, if_neg hne, if_pos rfl, zero_add,
      ← hopened.codeBalance, codeBalance_eq ha hcode]
  exact Observation.ext hschedule hcontributed hwalletAfter hpoolAfter

end Collect

/-! ## Paying directly -/

theorem assertContributionAmount_eq_ok_iff {due paid : Int} {u : Unit} :
    assertContributionAmount amount due paid = .ok u ↔ 0 < amount ∧ paid + amount ≤ due := by
  constructor
  · exact assertContributionAmount_eq_ok
  · rintro ⟨hpos, hle⟩
    rw [assertContributionAmount, if_neg (by omega), if_neg (by omega), if_neg (by omega)]

/-- The schedule of an identifier is the one that has it. -/
theorem find?_schedule_eq_some_iff (hs : s ∈ db.contributionSchedules.rows)
    {x : ContributionSchedule} :
    db.contributionSchedules.find? (fun x ↦ x.id = s.id) = some x ↔ x = s := by
  have hfound : db.contributionSchedules.find? (fun x ↦ x.id = s.id) = some s :=
    Table.find?_eq_some_of_mem _ hs (decide_eq_true rfl) fun y _ hy ↦ .inl (of_decide_eq_true hy)
  rw [hfound, Option.some.injEq, eq_comm]

/-- A direct payment under a new key. -/
theorem payContribution_eq_ok_iff (hs : s ∈ db.contributionSchedules.rows)
    (hunused : ∀ c ∈ db.contributions.rows,
      c.idempotencyKey ≠ contributionIdempotencyKey s.id key) {r : Contribution × Db} :
    payContribution ctx db userId s.groupId s.id ⟨amount, key⟩ = .ok r ↔
      IsDue s amount ∧ ∃ member, Holds db userId s member ∧
        collect ctx db userId member.id s amount (contributionIdempotencyKey s.id key)
          (contributionPosting ctx userId s.groupId s amount
            (contributionIdempotencyKey s.id key)) = .ok r := by
  have hnone : db.contributions.find?
      (fun c ↦ c.idempotencyKey = contributionIdempotencyKey s.id key) = none := by
    rw [Table.find?, List.find?_eq_none]
    intro c hc heq
    exact hunused c hc (of_decide_eq_true heq)
  simp only [payContribution, payFresh, collect, bind_eq_ok, require_eq_ok, orThrow_eq_ok,
    mapError_eq_ok, exists_const, Prod.exists, hnone, find?_schedule_eq_some_iff hs]
  constructor
  · rintro ⟨_, rfl, -, slot, hslot, member, hmember, hactive, hholds, hstatus, _, hamount, hrest⟩
    obtain ⟨hpos, hle⟩ := assertContributionAmount_eq_ok hamount
    exact ⟨⟨hstatus, hpos, hle⟩, member, ⟨slot, hslot, hmember, hactive, hholds⟩, hrest⟩
  · rintro ⟨hdue, member, ⟨slot, hslot, hmember, hactive, hholds⟩, hrest⟩
    exact ⟨s, rfl, rfl, slot, hslot, member, hmember, hactive, hholds, hdue.collectable, (),
      assertContributionAmount_eq_ok_iff.mpr ⟨hdue.positive, hdue.owed⟩, hrest⟩

/-! ## Paying by an intent -/

/-- The group and the cycle that a schedule refers to are there. -/
structure Linked (db : Db) (s : ContributionSchedule) : Prop where
  group : ∃ g ∈ db.ajoGroups.rows, g.id = s.groupId
  cycle : ∃ c ∈ db.ajoCycles.rows, c.id = s.cycleId

/-- A schedule that is marked as paid owes nothing. -/
def PaidUp (s : ContributionSchedule) : Prop := s.status = .paid → s.amountDueMinor ≤ s.amountPaidMinor

theorem partialAmount_eq_ok_iff {outstanding taken : Int} :
    partialAmount outstanding (some amount) = .ok taken ↔
      0 < amount ∧ amount ≤ outstanding ∧ taken = amount := by
  constructor
  · intro h
    obtain ⟨hpos, hle, heq⟩ := partialAmount_eq_ok h
    rw [heq amount rfl] at hpos hle
    exact ⟨hpos, hle, heq amount rfl⟩
  · rintro ⟨hpos, hle, rfl⟩
    simp only [partialAmount]
    rw [if_neg (by omega), if_neg (by omega), if_neg (by omega)]

/-- The schedule as a payment sees it, with the names of its group and its round. -/
def owedBy (db : Db) (s : ContributionSchedule) (memberId : Uuid) : Owed where
  schedule := s
  memberId := memberId
  groupName := (db.ajoGroups.find? fun g ↦ g.id = s.groupId).elim "" (·.name)
  sequence := (db.ajoCycles.find? fun c ↦ c.id = s.cycleId).elim 0 (·.sequence)

/-- What the payment of a schedule is called. -/
def labelOf (db : Db) (s : ContributionSchedule) : String :=
  contributionLabel (owedBy db s s.slotId).groupName (owedBy db s s.slotId).sequence

theorem owed_eq_ok_iff (hs : s ∈ db.contributionSchedules.rows) (hlinked : Linked db s) {o : Owed} :
    owed db userId (some s.id) = .ok o ↔
      ∃ member, Holds db userId s member ∧ o = owedBy db s member.id := by
  obtain ⟨⟨g, hg, hgid⟩, c, hc, hcid⟩ := hlinked
  have hgroup : db.ajoGroups.find? (fun g ↦ g.id = s.groupId) = some g :=
    Table.find?_eq_some_of_mem _ hg (decide_eq_true hgid) fun x _ hx ↦
      .inl ((of_decide_eq_true hx).trans hgid.symm)
  have hcycle : db.ajoCycles.find? (fun c ↦ c.id = s.cycleId) = some c :=
    Table.find?_eq_some_of_mem _ hc (decide_eq_true hcid) fun x _ hx ↦
      .inl ((of_decide_eq_true hx).trans hcid.symm)
  simp only [owed, owedBy, bind_eq_ok, orThrow_eq_ok, Option.some.injEq, exists_eq_left',
    find?_schedule_eq_some_iff hs, exists_eq_left, hgroup, hcycle, require_eq_ok, pure_eq_ok,
    exists_const, Option.elim_some]
  constructor
  · rintro ⟨slot, hslot, member, hmember, ⟨hactive, hholds⟩, rfl⟩
    exact ⟨member, ⟨slot, hslot, hmember, hactive, hholds⟩, rfl⟩
  · rintro ⟨member, ⟨slot, hslot, hmember, hactive, hholds⟩, rfl⟩
    exact ⟨slot, hslot, member, hmember, ⟨hactive, hholds⟩, rfl⟩

theorem resolveContribution_eq_ok_iff (hs : s ∈ db.contributionSchedules.rows)
    (hlinked : Linked db s) (hpaid : PaidUp s) {target : ResolvedTarget} :
    resolveContribution db userId (some s.id) (some amount) = .ok target ↔
      IsDue s amount ∧ (∃ member, Holds db userId s member) ∧
        target = ⟨amount, s.currency, labelOf db s⟩ := by
  simp only [resolveContribution, bind_eq_ok, require_eq_ok, mapError_eq_ok, pure_eq_ok,
    exists_const, owed_eq_ok_iff hs hlinked, partialAmount_eq_ok_iff]
  constructor
  · rintro ⟨_, ⟨member, hholds, rfl⟩, hstatus, -, _, ⟨hpos, hle, rfl⟩, rfl⟩
    exact ⟨⟨hstatus, hpos, by simp only [owedBy] at hle; omega⟩, ⟨member, hholds⟩, rfl⟩
  · rintro ⟨hdue, ⟨member, hholds⟩, rfl⟩
    have hunpaid : s.status ≠ .paid := by
      intro heq
      have hle := hpaid heq
      have hpos := hdue.positive
      have howed := hdue.owed
      omega
    have howed := hdue.owed
    exact ⟨_, ⟨member, hholds, rfl⟩, hdue.collectable, hunpaid, amount,
      ⟨hdue.positive, by simp only [owedBy]; omega, rfl⟩, rfl⟩

/-- The intent that is created for the payment. -/
def contributionIntent (opening : Ctx) (db : Db) (userId : Uuid) (s : ContributionSchedule)
    (amount : Int) (key : String) : PaymentIntent :=
  newIntent opening db ajoContributionTarget userId (some s.id) key
    ⟨amount, s.currency, labelOf db s⟩ 0

/-- The intent is the first of the client's under its key, and under its identifier. -/
structure NewIntent (opening : Ctx) (db : Db) (userId : Uuid) (key : String) : Prop where
  id : ∀ i ∈ db.paymentIntents.rows, i.id ≠ opening.uuid 0
  key : ∀ i ∈ db.paymentIntents.rows, ¬ (i.userId = userId ∧ i.idempotencyKey = key)

/-- Creating the intent. -/
theorem create_contribution_iff {opening : Ctx} (hs : s ∈ db.contributionSchedules.rows)
    (hlinked : Linked db s) (hpaid : PaidUp s) (hnew : NewIntent opening db userId key)
    {intent : PaymentIntent} :
    create opening db ajoContributionTarget userId ⟨some s.id, some amount⟩ key =
        .ok (intent, db') ↔
      IsDue s amount ∧ (∃ member, Holds db userId s member) ∧ fitsVarChar 128 key ∧
        fitsVarChar 3 s.currency ∧ fitsBigInt amount = true ∧
        intent = contributionIntent opening db userId s amount key ∧
        ∃ intents, db.paymentIntents.insert intent = some intents ∧
          db' = { db with paymentIntents := intents } := by
  have hnone : db.paymentIntents.find? (fun i ↦ i.userId = userId ∧ i.idempotencyKey = key) =
      none := by
    rw [Table.find?, List.find?_eq_none]
    intro i hi heq
    exact hnew.key i hi (of_decide_eq_true heq)
  have hfits : intentFits (contributionIntent opening db userId s amount key) = true ↔
      fitsVarChar 128 key ∧ fitsVarChar 3 s.currency ∧ fitsBigInt amount = true := by
    simp [intentFits, contributionIntent, newIntent, totalFor, fitsBigInt, and_assoc]
  simp only [create, hnone, createFresh, bind_eq_ok, require_eq_ok, orThrow_eq_ok, pure_eq_ok,
    exists_const, Prod.mk.injEq]
  constructor
  · rintro ⟨-, target, htarget, -, fee, hfee, hintent, intents, hins, rfl, rfl⟩
    obtain ⟨hdue, hholds, rfl⟩ := (resolveContribution_eq_ok_iff hs hlinked hpaid).mp htarget
    cases hfee
    obtain ⟨hkey, hcurrency, hamount⟩ := hfits.mp hintent
    exact ⟨hdue, hholds, hkey, hcurrency, hamount, rfl, intents, hins, rfl⟩
  · rintro ⟨hdue, hholds, hkey, hcurrency, hamount, rfl, intents, hins, rfl⟩
    refine ⟨fun h ↦ absurd h.2 (by decide), _, (resolveContribution_eq_ok_iff hs hlinked hpaid).mpr
      ⟨hdue, hholds, rfl⟩, decide_eq_true hdue.positive, 0, rfl, ?_, intents, hins, rfl, rfl⟩
    exact hfits.mpr ⟨hkey, hcurrency, hamount⟩

/-- The posting of a payment without a fee, from an account to another. -/
def intentPosting (userId : Uuid) (intent : PaymentIntent) (key description : String)
    (wallet pool : Uuid) : LedgerPostingCommand where
  idempotencyKey := intentKey intent.id key
  reference := "PAY-" ++ intent.id.shortCode
  description := sliceTo 500 description
  currency := intent.currency
  initiatedByUserId := some userId
  correlationId := some intent.id.toString
  entries := [⟨wallet, .debit, intent.amountMinor⟩, ⟨pool, .credit, intent.amountMinor⟩]

/-- The key a contribution that was paid by an intent is recorded under. -/
def intentContributionKey (s : ContributionSchedule) (intentId : Uuid) : String :=
  contributionIdempotencyKey s.id ("intent:" ++ intentId.toString)

/-- The intent is for the amount and the schedule, to be paid from the user's wallet. -/
structure IntentFor (db : Db) (userId : Uuid) (s : ContributionSchedule) (amount : Int)
    (intent : PaymentIntent) : Prop where
  targetId : intent.targetId = some s.id
  amountMinor : intent.amountMinor = amount
  feeMinor : intent.feeMinor = 0
  totalMinor : intent.totalMinor = amount
  currency : intent.currency = s.currency
  walletId : intent.walletId =
    (db.wallets.find? fun w ↦ w.userId = userId ∧ w.currency = s.currency).map (·.id)

theorem contributionIntent_intentFor {opening : Ctx} :
    IntentFor db userId s amount (contributionIntent opening db userId s amount key) :=
  ⟨rfl, rfl, rfl, add_zero amount, rfl, rfl⟩

/-- The account that fees go to is configured. -/
def FeesConfigured (db : Db) (currency : String) : Prop :=
  ∃ a, db.ledger.accounts.find? (fun a ↦ a.walletId = none ∧
    a.purpose = some .platformFeeRevenue ∧ a.currency = currency ∧ a.isActive) = some a

/-- The last step, as an intent takes it. -/
def collectByIntent (ctx : Ctx) (db : Db) (userId memberId : Uuid) (s : ContributionSchedule)
    (amount : Int) (intent : PaymentIntent) (key : String) :
    Except ServiceError (Contribution × Db) :=
  collect ctx db userId memberId s amount (intentContributionKey s intent.id)
    (intentPosting userId intent key (labelOf db s))

section Settle

variable {intent : PaymentIntent} {member : AjoGroupMember}

/-- The intent's accounts are the ones a direct payment finds. -/
theorem accounts_iff (hintent : IntentFor db userId s amount intent)
    (hfees : FeesConfigured db s.currency) {wallet : FinancialAccount} :
    memberWalletAccount db userId s.currency = .ok wallet ↔
      ∃ walletId fees, intent.walletId = some walletId ∧
        Payments.accounts db walletId intent.currency = .ok ⟨wallet, fees⟩ := by
  obtain ⟨fees, hfees⟩ := hfees
  simp only [memberWalletAccount, Payments.accounts, bind_eq_ok, orThrow_eq_ok, pure_eq_ok,
    hintent.walletId, hintent.currency, Option.map_eq_some_iff, PayerAccounts.mk.injEq, hfees]
  constructor
  · rintro ⟨w, hw, haccount⟩
    exact ⟨w.id, fees, ⟨w, hw, rfl⟩, wallet, haccount, fees, rfl, rfl, rfl⟩
  · rintro ⟨_, _, ⟨w, hw, rfl⟩, _, haccount, _, -, rfl, -⟩
    exact ⟨w, hw, haccount⟩

theorem walletPosting_eq (hintent : IntentFor db userId s amount intent) {payer : PayerAccounts}
    {pool : Uuid} {description : String} :
    walletPosting ajoContributionTarget userId intent key description payer pool =
      intentPosting userId intent key description payer.available.id pool := by
  simp only [walletPosting, intentPosting, hintent.totalMinor, hintent.amountMinor, hintent.feeMinor]
  rfl

theorem Holds.unique {member' : AjoGroupMember} (h : Holds db userId s member)
    (h' : Holds db userId s member') : member = member' := by
  obtain ⟨-, -, hm, -, -⟩ := h
  obtain ⟨-, -, hm', -, -⟩ := h'
  exact Option.some.inj (hm.symm.trans hm')

/-- Recording the payment of an intent is recording the member's contribution. -/
theorem settleContribution_eq_ok_iff (hs : s ∈ db.contributionSchedules.rows)
    (hlinked : Linked db s) (hholds : Holds db userId s member)
    (hintent : IntentFor db userId s amount intent) {ledger : Ledger} {posting : LedgerReference} :
    settleContribution ctx { db with ledger := ledger } (settledPayment userId intent posting) =
        .ok db' ↔
      ∃ c, recordContributionWithin ctx { db with ledger := ledger } member.id s amount
        (intentContributionKey s intent.id) posting.id = .ok (c, db') := by
  have howed : ∀ o, owed { db with ledger := ledger } userId intent.targetId = .ok o ↔
      o = owedBy db s member.id := by
    intro o
    rw [hintent.targetId]
    change owed db userId (some s.id) = .ok o ↔ _
    rw [owed_eq_ok_iff hs hlinked]
    constructor
    · rintro ⟨member', hholds', rfl⟩
      rw [hholds.unique hholds']
    · rintro rfl
      exact ⟨member, hholds, rfl⟩
  simp only [settleContribution, settledPayment, bind_eq_ok, pure_eq_ok, Prod.exists, howed,
    exists_eq_left, hintent.amountMinor, exists_eq_right]
  rfl

/-- A transaction that no other intent names can be written on the intent. -/
theorem exists_update_markSettled {intents : Table PaymentIntent} {posting : LedgerReference}
    (h : ∀ i ∈ intents.rows, i.ledgerTransactionId ≠ some posting.id) (id : Uuid) :
    ∃ updated, intents.update (fun i ↦ i.id = id) (markSettled ctx ajoContributionTarget posting) =
      some updated := by
  refine intents.exists_update_of _ _ fun a ha b hb hab ↦ ?_
  by_cases hida : a.id = id
  · by_cases hidb : b.id = id
    · exact absurd (.inl (.inl (.inl (hida.trans hidb.symm)))) hab
    · rw [if_pos (decide_eq_true hida), if_neg (by simpa using hidb)]
      rintro (hclash | ⟨-, hledger⟩)
      · exact hab (.inl hclash)
      · exact h b hb hledger.symm
  · rw [if_neg (by simpa using hida)]
    by_cases hidb : b.id = id
    · rw [if_pos (decide_eq_true hidb)]
      rintro (hclash | ⟨-, hledger⟩)
      · exact hab (.inl hclash)
      · exact h a ha hledger
    · rw [if_neg (by simpa using hidb)]
      exact hab

/-- Settling the intent takes the last step, and marks the intent. -/
theorem settlePending_eq_ok (hs : s ∈ db.contributionSchedules.rows) (hlinked : Linked db s)
    (hpaid : PaidUp s) (hholds : Holds db userId s member)
    (hfees : FeesConfigured db s.currency) (hintent : IntentFor db userId s amount intent)
    {r : PaymentIntent}
    (h : settlePending ctx db ajoContributionTarget userId intent key = .ok (r, db')) :
    ∃ c after, collectByIntent ctx db userId member.id s amount intent key = .ok (c, after) ∧
      db' = { after with paymentIntents := db'.paymentIntents } := by
  simp only [settlePending, bind_eq_ok, require_eq_ok, orThrow_eq_ok, pure_eq_ok, exists_const,
    Prod.exists, Prod.mk.injEq, canPayFromWallet, decide_eq_true_eq] at h
  obtain ⟨walletId, hwalletId, target, hresolve, -, payer, hpayer, pool, opened, hcredit, hcovered,
    posting, ledger, hpost, settled, hsettle, _, -, -, rfl⟩ := h
  have htarget : target = ⟨amount, s.currency, labelOf db s⟩ := by
    have hresolve' : resolveContribution db userId (some s.id) (some amount) = .ok target := by
      rw [← hintent.targetId, ← hintent.amountMinor]
      exact hresolve
    exact ((resolveContribution_eq_ok_iff hs hlinked hpaid).mp hresolve').2.2
  have hwallet : memberWalletAccount db userId s.currency = .ok payer.available :=
    (accounts_iff hintent hfees).mpr ⟨walletId, payer.feeRevenue, hwalletId, hpayer⟩
  have hpool : poolAccountWithin db (ctx.uuid 1) s.groupId s.currency = .ok (pool, opened) := by
    rw [← hintent.currency]
    exact creditPool_eq_ok hs (hintent.targetId ▸ hcredit)
  obtain ⟨hdb, -⟩ := poolAccountWithin_eq_ok hpool
  have hopened : { opened with ledger := ledger } = { db with ledger := ledger } := by rw [hdb]
  rw [hopened] at hsettle
  obtain ⟨c, hrec⟩ := (settleContribution_eq_ok_iff hs hlinked hholds hintent).mp hsettle
  rw [← hopened] at hrec
  rw [walletPosting_eq hintent, htarget] at hpost
  refine ⟨c, settled, ?_, rfl⟩
  simp only [collectByIntent, collect, bind_eq_ok, require_eq_ok, exists_const, Prod.exists]
  exact ⟨payer.available, hwallet, pool, opened, hpool, not_lt.mpr (hintent.totalMinor ▸ hcovered),
    posting, ledger, hpost, hrec⟩

theorem exists_settlePending (hs : s ∈ db.contributionSchedules.rows) (hlinked : Linked db s)
    (hpaid : PaidUp s) (hdue : IsDue s amount) (hholds : Holds db userId s member)
    (hfees : FeesConfigured db s.currency) (hintent : IntentFor db userId s amount intent)
    (hids : FreshIds ctx db)
    (hledger : ∀ t ∈ db.ledger.transactions.rows, t.idempotencyKey ≠ intentKey intent.id key)
    (h : ∃ r, collectByIntent ctx db userId member.id s amount intent key = .ok r) :
    ∃ r, settlePending ctx db ajoContributionTarget userId intent key = .ok r := by
  simp only [collectByIntent, collect, bind_eq_ok, require_eq_ok, exists_const, Prod.exists] at h
  obtain ⟨c, after, wallet, hwallet, pool, opened, hpool, hcovered, posting, ledger, hpost,
    hrec⟩ := h
  obtain ⟨walletId, fees, hwalletId, hpayer⟩ := (accounts_iff hintent hfees).mp hwallet
  obtain ⟨hdb, hopened, -⟩ := poolAccountWithin_eq_ok hpool
  have hresolve : ajoContributionTarget.resolve ctx db userId intent.targetId
      (storedRequest ajoContributionTarget intent.amountMinor) =
        .ok ⟨amount, s.currency, labelOf db s⟩ := by
    rw [hintent.targetId, hintent.amountMinor]
    exact (resolveContribution_eq_ok_iff hs hlinked hpaid).mpr ⟨hdue, ⟨member, hholds⟩, rfl⟩
  have hcredit : ajoContributionTarget.creditAccount ctx db intent.targetId intent.currency =
      .ok (pool, opened) := by
    rw [hintent.targetId, hintent.currency]
    simp only [ajoContributionTarget, creditPool, bind_eq_ok, orThrow_eq_ok, Option.some.injEq,
      exists_eq_left']
    exact ⟨s, (find?_schedule_eq_some_iff hs).mpr rfl, hpool⟩
  have hsettle : ajoContributionTarget.settle ctx { opened with ledger := ledger }
      (settledPayment userId intent posting) = .ok after := by
    have hopened : { opened with ledger := ledger } = { db with ledger := ledger } := by rw [hdb]
    rw [hopened] at hrec ⊢
    exact (settleContribution_eq_ok_iff hs hlinked hholds hintent).mpr ⟨c, hrec⟩
  have hunnamed : ∀ i ∈ after.paymentIntents.rows, i.ledgerTransactionId ≠ some posting.id := by
    have hintents : after.paymentIntents = db.paymentIntents := by
      rw [(recordContributionWithin_eq_ok hrec).2.2.2, hdb]
    have hposting : posting.id = ctx.uuid 0 := by
      cases (postWithin_eq_ok hpost).2 with
      | replayed existing mem hkey _ _ =>
          exact absurd hkey (hledger existing (hopened.transactions ▸ mem))
      | appended _ _ answer => rw [answer]
    rw [hintents, hposting]
    exact hids.intent
  obtain ⟨intents, hupdate⟩ := exists_update_markSettled hunnamed intent.id
  simp only [settlePending, bind_eq_ok, require_eq_ok, orThrow_eq_ok, pure_eq_ok, exists_const,
    Prod.exists, canPayFromWallet, decide_eq_true_eq]
  refine ⟨_, _, walletId, hwalletId, _, hresolve, hintent.amountMinor.symm, ⟨wallet, fees⟩, hpayer,
    pool, opened, hcredit, ?_, posting, ledger, ?_, after, hsettle, intents, hupdate, rfl⟩
  · rw [hintent.totalMinor]
    exact not_lt.mp hcovered
  · rw [walletPosting_eq hintent]
    exact hpost

end Settle

/-! ## How long the texts are -/

/-- How much room a key with an identifier in it leaves. -/
theorem fits_keyed_iff {head : String} {n : Nat} (hhead : head.length = n) {id : Uuid} :
    fitsVarChar 128 (head ++ id.toString ++ (":" ++ key)) ↔ n + 37 + key.length ≤ 128 := by
  have hcolon : ":".length = 1 := by decide +kernel
  rw [fitsVarChar, String.length_append, String.length_append, String.length_append, Uuid.length_toString,
    hhead, hcolon]
  omega

theorem fits_contributionIdempotencyKey_iff {id : Uuid} :
    fitsVarChar 128 (contributionIdempotencyKey id key) ↔ key.length ≤ 74 := by
  refine (fits_keyed_iff (n := 17) (by decide +kernel)).trans ?_
  omega

theorem fits_intentContributionKey {id : Uuid} : fitsVarChar 128 (intentContributionKey s id) := by
  have hhead : "intent:".length = 7 := by decide +kernel
  rw [intentContributionKey, fits_contributionIdempotencyKey_iff, String.length_append, Uuid.length_toString,
    hhead]
  decide

theorem fits_intentKey_iff {id : Uuid} : fitsVarChar 128 (intentKey id key) ↔ key.length ≤ 76 := by
  refine (fits_keyed_iff (n := 15) (by decide +kernel)).trans ?_
  omega

theorem contributionPosting_moves :
    MovesContribution s amount key ("AJO-CONTRIB-" ++ (ctx.uuid 3).toString)
      (contributionPosting ctx userId s.groupId s amount key) where
  transfers := fun _ _ ↦ rfl
  columns := fun _ _ ↦
    { reference := by simp [fitsVarChar, contributionPosting, ← String.length_toList]
      description := by simp [fitsVarChar, contributionPosting, ← String.length_toList]
      correlationId := by simp [fitsVarChar, contributionPosting, ← String.length_toList] }
  currency := fun _ _ ↦ rfl
  key := fun _ _ ↦ rfl
  reference := fun _ _ ↦ rfl

theorem intentPosting_moves {intent : PaymentIntent} {description : String}
    (hintent : IntentFor db userId s amount intent) :
    MovesContribution s amount (intentKey intent.id key) ("PAY-" ++ intent.id.shortCode)
      (intentPosting userId intent key description) where
  transfers := fun _ _ ↦ by
    simp only [LedgerPostingCommand.Transfers, intentPosting, hintent.amountMinor]
  columns := fun _ _ ↦
    { reference := fitsVarChar_append_shortCode (by decide +kernel) _
      description := by
        rw [fitsVarChar, intentPosting, sliceTo, ← String.length_toList, String.toList_ofList]
        exact length_takeUnits_le 500 _
      correlationId := by simp [fitsVarChar, intentPosting, ← String.length_toList] }
  currency := fun _ _ ↦ hintent.currency
  key := fun _ _ ↦ rfl
  reference := fun _ _ ↦ rfl

/-! ## Both ways together -/

section Agreement

variable {opening confirming : Ctx} {keys : IntentKeys}

/-- The payment is a new one: its keys were not used before, and neither were the identifiers that
are drawn for it.  The intent is confirmed before it expires, at the time of the direct payment. -/
structure NewPayment (ctx opening confirming : Ctx) (db : Db) (userId : Uuid)
    (s : ContributionSchedule) (key : String) (keys : IntentKeys) : Prop where
  ids : FreshIds ctx db
  reference : ∀ t ∈ db.ledger.transactions.rows,
    t.reference ≠ "AJO-CONTRIB-" ++ (ctx.uuid 3).toString
  key : ∀ c ∈ db.contributions.rows, c.idempotencyKey ≠ contributionIdempotencyKey s.id key
  intentIds : FreshIds confirming db
  intent : NewIntent opening db userId keys.create
  intentKey : ∀ c ∈ db.contributions.rows,
    c.idempotencyKey ≠ intentContributionKey s (opening.uuid 0)
  clock : confirming.now = ctx.now
  unexpired : ctx.now < opening.now + INTENT_TTL_MS

/-- No transaction of the ledger has the reference that the intent's will have. -/
def ReferenceFree (db : Db) (intentId : Uuid) : Prop :=
  ∀ t ∈ db.ledger.transactions.rows, t.reference ≠ "PAY-" ++ intentId.shortCode

instance (db : Db) (intentId : Uuid) : Decidable (ReferenceFree db intentId) :=
  inferInstanceAs (Decidable (∀ t ∈ db.ledger.transactions.rows, _ ≠ _))

/-- Neither key is in the ledger: what is in the ledger has a contribution or an intent behind it. -/
theorem contributionKey_unused (hkeyed : WellKeyed db)
    (hnew : NewPayment ctx opening confirming db userId s key keys) :
    ∀ t ∈ db.ledger.transactions.rows, t.idempotencyKey ≠ contributionIdempotencyKey s.id key := by
  intro t ht heq
  obtain ⟨c, hc, hck⟩ := (hkeyed t ht).contribution s.id key heq
  exact hnew.key c hc (hck.trans heq)

theorem intentKey_unused (hkeyed : WellKeyed db)
    (hnew : NewPayment ctx opening confirming db userId s key keys) :
    ∀ t ∈ db.ledger.transactions.rows,
      t.idempotencyKey ≠ intentKey (opening.uuid 0) keys.confirm := by
  intro t ht heq
  obtain ⟨x, hx, hid, -⟩ := (hkeyed t ht).intent (opening.uuid 0) keys.confirm heq
  exact hnew.intent.id x hx hid

/-- The identifiers are still unused once the intent is there. -/
theorem freshIds_opened (hnew : NewPayment ctx opening confirming db userId s key keys)
    {intents : Table PaymentIntent} {intent : PaymentIntent}
    (hintent : intent = contributionIntent opening db userId s amount keys.create)
    (hins : db.paymentIntents.insert intent = some intents) :
    FreshIds confirming { db with paymentIntents := intents } := by
  refine ⟨hnew.intentIds.transaction, hnew.intentIds.account, hnew.intentIds.contribution, ?_⟩
  intro i hi
  rw [Table.rows_of_insert hins, List.mem_append, List.mem_singleton] at hi
  rcases hi with hi | rfl
  · exact hnew.intentIds.intent i hi
  · rw [hintent]
    exact nofun

/-- A direct payment succeeds when nothing stands against it and its key fits the column. -/
theorem exists_payContribution_iff (hkeyed : WellKeyed db) (hs : s ∈ db.contributionSchedules.rows)
    (hnew : NewPayment ctx opening confirming db userId s key keys) :
    (∃ r, payContribution ctx db userId s.groupId s.id ⟨amount, key⟩ = .ok r) ↔
      Payable db userId s amount ∧ key.length ≤ 74 := by
  have hcollect : ∀ member : AjoGroupMember, (∃ r, collect ctx db userId member.id s amount
      (contributionIdempotencyKey s.id key) (contributionPosting ctx userId s.groupId s amount
        (contributionIdempotencyKey s.id key)) = .ok r) ↔ _ := fun _ ↦
    exists_collect_iff hnew.ids contributionPosting_moves (contributionKey_unused hkeyed hnew)
      hnew.key
  simp only [payContribution_eq_ok_iff hs hnew.key]
  constructor
  · rintro ⟨r, hdue, member, hholds, hok⟩
    obtain ⟨hfunded, -, hfits, -⟩ := (hcollect member).mp ⟨r, hok⟩
    exact ⟨⟨⟨member, hholds⟩, hdue, hfunded⟩, fits_contributionIdempotencyKey_iff.mp hfits⟩
  · rintro ⟨⟨⟨member, hholds⟩, hdue, hfunded⟩, hlength⟩
    have hfits : fitsVarChar 128 (contributionIdempotencyKey s.id key) :=
      fits_contributionIdempotencyKey_iff.mpr hlength
    obtain ⟨r, hr⟩ := (hcollect member).mpr
      ⟨hfunded, hdue.positive, hfits, hfits, hnew.reference⟩
    exact ⟨r, hdue, member, hholds, hr⟩

/-- Confirming an intent that was just created is settling it. -/
theorem confirmFromWallet_eq (hnew : NewPayment ctx opening confirming db userId s key keys)
    {intents : Table PaymentIntent} {intent : PaymentIntent}
    (hintent : intent = contributionIntent opening db userId s amount keys.create)
    (hins : db.paymentIntents.insert intent = some intents) :
    confirmFromWallet confirming { db with paymentIntents := intents } ajoContributionTarget userId
        intent.id keys.confirm =
      settlePending confirming { db with paymentIntents := intents } ajoContributionTarget userId
        intent keys.confirm := by
  have hfound : intents.find? (fun i ↦ i.id = intent.id ∧ i.userId = userId) = some intent := by
    refine intents.find?_eq_some_of_mem (Table.mem_of_insert hins) ?_ fun x _ hx ↦ ?_
    · exact decide_eq_true ⟨rfl, by rw [hintent]; rfl⟩
    · exact .inl (.inl (.inl (of_decide_eq_true hx).1))
  have hstatus : intent.status = .requiresConfirmation := by
    rw [hintent]
    rfl
  have hpayable : isPayable intent.status intent.expiresAt confirming.now = true := by
    rw [hstatus, hnew.clock, hintent]
    exact decide_eq_true hnew.unexpired
  have hmethod : PaymentMethod.wallet ∈ ajoContributionTarget.methods := List.mem_singleton_self _
  rw [confirmFromWallet]
  refine (bind_of_eq_ok (orThrow_eq_ok.mpr hfound)).trans ?_
  rw [if_pos hstatus, require_of hpayable, require_of hmethod]
  change settleFromWallet confirming _ _ userId intent.id keys.confirm = _
  rw [settleFromWallet]
  refine (bind_of_eq_ok (orThrow_eq_ok.mpr hfound)).trans ?_
  rw [if_pos hstatus]

/-- A payment by an intent: the last step is taken on the database with the new intent. -/
theorem payByIntent_eq_ok (hs : s ∈ db.contributionSchedules.rows) (hlinked : Linked db s)
    (hpaid : PaidUp s) (hfees : FeesConfigured db s.currency)
    (hnew : NewPayment ctx opening confirming db userId s key keys) {i : PaymentIntent}
    (h : payByIntent opening confirming db userId s.id amount keys = .ok (i, db')) :
    IsDue s amount ∧ fitsVarChar 128 keys.create ∧ ∃ intents member c after,
      db.paymentIntents.insert (contributionIntent opening db userId s amount keys.create) =
        some intents ∧ Holds db userId s member ∧
      collectByIntent confirming { db with paymentIntents := intents } userId member.id s amount
        (contributionIntent opening db userId s amount keys.create) keys.confirm =
          .ok (c, after) ∧
      db' = { after with paymentIntents := db'.paymentIntents } := by
  simp only [payByIntent, bind_eq_ok, Prod.exists,
    create_contribution_iff hs hlinked hpaid hnew.intent] at h
  obtain ⟨_, _, ⟨hdue, ⟨member, hholds⟩, hcreate, -, -, rfl, intents, hins, rfl⟩, h⟩ := h
  rw [confirmFromWallet_eq hnew rfl hins] at h
  have hsettled : ∃ c after, collectByIntent confirming { db with paymentIntents := intents } userId
      member.id s amount (contributionIntent opening db userId s amount keys.create) keys.confirm =
        .ok (c, after) ∧ db' = { after with paymentIntents := db'.paymentIntents } := by
    refine settlePending_eq_ok ?_ ?_ hpaid ?_ ?_ ?_ h
    · exact hs
    · exact ⟨hlinked.group, hlinked.cycle⟩
    · exact hholds
    · exact hfees
    · exact contributionIntent_intentFor
  obtain ⟨c, after, hcollect, hafter⟩ := hsettled
  exact ⟨hdue, hcreate, intents, member, c, after, hins, hholds, hcollect, hafter⟩

/-- When the last step of an intent succeeds. -/
theorem exists_collectByIntent_iff (hkeyed : WellKeyed db)
    (hnew : NewPayment ctx opening confirming db userId s key keys)
    {intents : Table PaymentIntent} {intent : PaymentIntent}
    (hintent : intent = contributionIntent opening db userId s amount keys.create)
    (hins : db.paymentIntents.insert intent = some intents) :
    (∃ r, collectByIntent confirming { db with paymentIntents := intents } userId memberId s amount
        intent keys.confirm = .ok r) ↔
      (∃ wallet, Funded db userId s amount wallet) ∧ 0 < amount ∧ keys.confirm.length ≤ 76 ∧
        ReferenceFree db (opening.uuid 0) := by
  have hid : intent.id = opening.uuid 0 := by
    rw [hintent]
    rfl
  have hledger : ∀ t ∈ db.ledger.transactions.rows,
      t.idempotencyKey ≠ intentKey intent.id keys.confirm := by
    rw [hid]
    exact intentKey_unused hkeyed hnew
  have hmoves : MovesContribution s amount (intentKey intent.id keys.confirm)
      ("PAY-" ++ intent.id.shortCode) (intentPosting userId intent keys.confirm
        (labelOf { db with paymentIntents := intents } s)) := by
    have hfor : IntentFor db userId s amount intent := by
      rw [hintent]
      exact contributionIntent_intentFor
    exact intentPosting_moves hfor
  have hcontributions : ∀ c ∈ db.contributions.rows,
      c.idempotencyKey ≠ intentContributionKey s intent.id := by
    rw [hid]
    exact hnew.intentKey
  rw [collectByIntent, exists_collect_iff (freshIds_opened hnew hintent hins) hmoves
    hledger hcontributions, fits_intentKey_iff,
    hid]
  constructor
  · rintro ⟨⟨wallet, hfunded⟩, hpos, hlength, -, href⟩
    obtain ⟨haccount, hcovered, hpool, hcurrency, hfits⟩ := hfunded
    exact ⟨⟨wallet, haccount, hcovered, hpool, hcurrency, hfits⟩, hpos, hlength, href⟩
  · rintro ⟨⟨wallet, hfunded⟩, hpos, hlength, href⟩
    obtain ⟨haccount, hcovered, hpool, hcurrency, hfits⟩ := hfunded
    exact ⟨⟨wallet, haccount, hcovered, hpool, hcurrency, hfits⟩, hpos, hlength,
      fits_intentContributionKey, href⟩

/-- A payment by an intent succeeds when nothing stands against it, its keys fit their columns, and
its reference is free. -/
theorem exists_payByIntent_iff (hkeyed : WellKeyed db) (hs : s ∈ db.contributionSchedules.rows)
    (hlinked : Linked db s) (hpaid : PaidUp s) (hfees : FeesConfigured db s.currency)
    (hnew : NewPayment ctx opening confirming db userId s key keys) :
    (∃ r, payByIntent opening confirming db userId s.id amount keys = .ok r) ↔
      Payable db userId s amount ∧ keys.create.length ≤ 128 ∧ keys.confirm.length ≤ 76 ∧
        ReferenceFree db (opening.uuid 0) := by
  constructor
  · rintro ⟨⟨i, db'⟩, h⟩
    obtain ⟨hdue, hcreate, intents, member, c, after, hins, hholds, hcollect, -⟩ :=
      payByIntent_eq_ok hs hlinked hpaid hfees hnew h
    obtain ⟨hfunded, -, hconfirm, href⟩ :=
      (exists_collectByIntent_iff hkeyed hnew rfl hins).mp ⟨_, hcollect⟩
    exact ⟨⟨⟨member, hholds⟩, hdue, hfunded⟩, hcreate, hconfirm, href⟩
  · rintro ⟨⟨⟨member, hholds⟩, hdue, wallet, hfunded⟩, hcreate, hconfirm, href⟩
    have hclash : ∀ i ∈ db.paymentIntents.rows, ¬ Schema.Clash i
        (contributionIntent opening db userId s amount keys.create) := by
      rintro i hi (((hid | ⟨-, hkey⟩) | ⟨hsome, hreference⟩) | ⟨hsome, hledger⟩)
      · exact hnew.intent.id i hi hid
      · exact hnew.intent.key i hi (Prod.mk.injEq .. ▸ Option.some.inj hkey)
      · rw [hreference] at hsome
        cases hsome
      · rw [hledger] at hsome
        cases hsome
    obtain ⟨intents, hins⟩ : ∃ intents, db.paymentIntents.insert
        (contributionIntent opening db userId s amount keys.create) = some intents := by
      rw [Table.insert, dif_pos hclash]
      exact ⟨_, rfl⟩
    have hcreated : create opening db ajoContributionTarget userId ⟨some s.id, some amount⟩
        keys.create = .ok (_, { db with paymentIntents := intents }) :=
      (create_contribution_iff hs hlinked hpaid hnew.intent).mpr ⟨hdue, ⟨member, hholds⟩, hcreate,
        le_of_eq (length_of_isCurrencyCode hfunded.currency), hfunded.fits, rfl, intents, hins, rfl⟩
    have hsettled : ∃ r, settlePending confirming { db with paymentIntents := intents }
        ajoContributionTarget userId (contributionIntent opening db userId s amount keys.create)
        keys.confirm = .ok r := by
      have hunused := intentKey_unused hkeyed hnew
      have hcollect : ∃ r, collectByIntent confirming { db with paymentIntents := intents } userId
          member.id s amount (contributionIntent opening db userId s amount keys.create)
          keys.confirm = .ok r := (exists_collectByIntent_iff hkeyed hnew rfl hins).mpr
        ⟨⟨wallet, hfunded⟩, hdue.positive, hconfirm, href⟩
      refine exists_settlePending ?_ ?_ hpaid hdue ?_ ?_ ?_ ?_ ?_ hcollect
      · exact hs
      · exact ⟨hlinked.group, hlinked.cycle⟩
      · exact hholds
      · exact hfees
      · exact contributionIntent_intentFor
      · exact freshIds_opened hnew rfl hins
      · exact hunused
    obtain ⟨r, hr⟩ := hsettled
    refine ⟨r, ?_⟩
    rw [payByIntent]
    exact (bind_of_eq_ok hcreated).trans ((confirmFromWallet_eq hnew rfl hins).trans hr)

/-- Seen from outside, both payments leave the same. -/
theorem observe_payContribution (hkeyed : WellKeyed db) (hs : s ∈ db.contributionSchedules.rows)
    (hnew : NewPayment ctx opening confirming db userId s key keys) {c : Contribution}
    (h : payContribution ctx db userId s.groupId s.id ⟨amount, key⟩ = .ok (c, db')) :
    observe db' userId s = observePaid ctx.now db userId s amount := by
  obtain ⟨-, member, -, hcollect⟩ := (payContribution_eq_ok_iff hs hnew.key).mp h
  exact observe_collect hs contributionPosting_moves (contributionKey_unused hkeyed hnew) hcollect

theorem observe_payByIntent (hkeyed : WellKeyed db) (hs : s ∈ db.contributionSchedules.rows)
    (hlinked : Linked db s) (hpaid : PaidUp s) (hfees : FeesConfigured db s.currency)
    (hnew : NewPayment ctx opening confirming db userId s key keys) {i : PaymentIntent}
    (h : payByIntent opening confirming db userId s.id amount keys = .ok (i, db')) :
    observe db' userId s = observePaid ctx.now db userId s amount := by
  obtain ⟨-, -, intents, member, c, after, hins, -, hcollect, hafter⟩ :=
    payByIntent_eq_ok hs hlinked hpaid hfees hnew h
  have hunused := intentKey_unused hkeyed hnew
  have hobserved : observe after userId s =
      observePaid confirming.now { db with paymentIntents := intents } userId s amount := by
    refine observe_collect ?_ (intentPosting_moves contributionIntent_intentFor) ?_ hcollect
    · exact hs
    · exact hunused
  rw [hafter, ← hnew.clock]
  exact hobserved

end Agreement

/-! ## In every state of a group -/

/-- What every call keeps: the ledger's keys are backed, schedules refer to a group and a cycle, and
those that are marked as paid are. -/
structure Kept (db : Db) : Prop where
  keyed : WellKeyed db
  linked : ∀ s ∈ db.contributionSchedules.rows, Linked db s
  paidUp : ∀ s ∈ db.contributionSchedules.rows, PaidUp s

/-- Rewriting schedules in place keeps it, when what is then marked as paid is paid. -/
theorem Kept.of_map (h : Kept db) (hkeyed : WellKeyed db')
    (hgroups : ∀ g ∈ db.ajoGroups.rows, ∃ g' ∈ db'.ajoGroups.rows, g'.id = g.id)
    (hcycles : db'.ajoCycles = db.ajoCycles) {f : ContributionSchedule → ContributionSchedule}
    (hschedules : db'.contributionSchedules.rows = db.contributionSchedules.rows.map f)
    (hf : ∀ s ∈ db.contributionSchedules.rows,
      (f s).groupId = s.groupId ∧ (f s).cycleId = s.cycleId ∧ PaidUp (f s)) : Kept db' := by
  refine ⟨hkeyed, fun x hx ↦ ?_, fun x hx ↦ ?_⟩
  · rw [hschedules, List.mem_map] at hx
    obtain ⟨s, hs, rfl⟩ := hx
    obtain ⟨⟨g, hg, hid⟩, hcycle⟩ := h.linked s hs
    obtain ⟨g', hg', hid'⟩ := hgroups g hg
    refine ⟨⟨g', hg', ?_⟩, ?_⟩
    · rw [hid', hid, (hf s hs).1]
    · rw [hcycles, (hf s hs).2.1]
      exact hcycle
  · rw [hschedules, List.mem_map] at hx
    obtain ⟨s, hs, rfl⟩ := hx
    exact (hf s hs).2.2

theorem Kept.of_same (h : Kept db) (hkeyed : WellKeyed db')
    (hgroups : ∀ g ∈ db.ajoGroups.rows, ∃ g' ∈ db'.ajoGroups.rows, g'.id = g.id)
    (hcycles : db'.ajoCycles = db.ajoCycles)
    (hschedules : db'.contributionSchedules = db.contributionSchedules) : Kept db' :=
  h.of_map hkeyed hgroups hcycles (hschedules ▸ (List.map_id _).symm)
    fun s hs ↦ ⟨rfl, rfl, h.paidUp s hs⟩

theorem kept_step (h : Kept db) (call : Call) : Kept (step db call) := by
  obtain ⟨heffect, hkeeps, hlogged⟩ := step_outcome h.keyed call
  have hkeyed := h.keyed.of_logged hkeeps hlogged
  cases heffect with
  | idle hbooks _ =>
      have hgroups : (step db call).ajoGroups = db.ajoGroups := congrArg Books.ajoGroups hbooks
      refine h.of_same hkeyed (fun g hg ↦ ⟨g, ?_, rfl⟩) (congrArg Books.ajoCycles hbooks)
        (congrArg Books.contributionSchedules hbooks)
      rw [hgroups]
      exact hg
  | contributed s amount c now hc =>
      have hgroups : (step db call).ajoGroups = db.ajoGroups := congrArg Books.ajoGroups hc.books
      have hschedules : (step db call).contributionSchedules.rows =
          db.contributionSchedules.rows.map fun x ↦
            if decide (x.id = s.id) = true then creditSchedule s amount now x else x :=
        congrArg (fun b ↦ b.contributionSchedules.rows) hc.books
      refine h.of_map hkeyed (fun g hg ↦ ⟨g, ?_, rfl⟩) (congrArg Books.ajoCycles hc.books) hschedules
        fun x hx ↦ ?_
      · rw [hgroups]
        exact hg
      · split
        · next heq =>
            refine ⟨rfl, rfl, fun hpaid ↦ ?_⟩
            have hxs : x = s := schedule_eq_of_id hx hc.mem (of_decide_eq_true heq)
            subst hxs
            have hpaid' : contributionScheduleStatusFor x.amountDueMinor
              (x.amountPaidMinor + amount) x.dueAt now = .paid := hpaid
            rw [contributionScheduleStatusFor] at hpaid'
            split at hpaid'
            · next hge => exact hge
            · split at hpaid'
              · cases hpaid'
              · split at hpaid'
                · cases hpaid'
                · cases hpaid'
        · exact ⟨rfl, rfl, h.paidUp x hx⟩
  | paidOut r p hp _ =>
      have hgroups : (step db call).ajoGroups = db.ajoGroups := congrArg Books.ajoGroups hp.books
      refine h.of_same hkeyed (fun g hg ↦ ⟨g, ?_, rfl⟩) (congrArg Books.ajoCycles hp.books)
        (congrArg Books.contributionSchedules hp.books)
      rw [hgroups]
      exact hg
  | held id hheld _ =>
      rw [hheld] at hkeyed ⊢
      exact h.of_same hkeyed (fun g hg ↦ ⟨g, hg, rfl⟩) rfl rfl
  | swapped w ctx hw _ =>
      have hgroups : (step db call).ajoGroups.rows = db.ajoGroups.rows.map fun g ↦
          if decide (g.id = w.groupId) = true then
            { g with scheduleVersion := w.previousScheduleVersion + 1 } else g :=
        congrArg (fun b ↦ b.ajoGroups.rows) hw.books
      refine h.of_same hkeyed (fun g hg ↦ ?_) (congrArg Books.ajoCycles hw.books)
        (congrArg Books.contributionSchedules hw.books)
      rw [hgroups]
      refine ⟨_, List.mem_map_of_mem hg, ?_⟩
      split
      · rfl
      · rfl
  | assigned id writeOff hassigned _ =>
      rw [hassigned] at hkeyed ⊢
      refine h.of_map hkeyed (fun g hg ↦ ⟨g, hg, rfl⟩) rfl rfl fun x hx ↦ ?_
      split
      · refine ⟨rfl, rfl, fun hpaid ↦ ?_⟩
        cases writeOff with
        | waived => cases hpaid
        | cancelled => cases hpaid
      · exact ⟨rfl, rfl, h.paidUp x hx⟩

section Agreement

variable {opening confirming : Ctx} {keys : IntentKeys}

/-- The two ways to pay agree: one succeeds when the other does, and then they leave the same schedule,
contribution, wallet and pool. -/
structure PathsAgree (ctx opening confirming : Ctx) (db : Db) (userId : Uuid)
    (s : ContributionSchedule) (amount : Int) (key : String) (keys : IntentKeys) : Prop where
  succeed : (∃ r, payContribution ctx db userId s.groupId s.id ⟨amount, key⟩ = .ok r) ↔
    ∃ r, payByIntent opening confirming db userId s.id amount keys = .ok r
  leave : ∀ c i direct byIntent,
    payContribution ctx db userId s.groupId s.id ⟨amount, key⟩ = .ok (c, direct) →
    payByIntent opening confirming db userId s.id amount keys = .ok (i, byIntent) →
    observe direct userId s = observe byIntent userId s

/-- In every state of a group, for every member, schedule and amount: what the two ways leave is
always the same.  Whether they succeed is the same unless the payment is one that could be made and
only one of the two ways can name it: the caller's key is too long for a contribution, a key is too
long for an intent, or the eight digits that an intent is referred to by are taken. -/
theorem contribution_paths_agree_iff {start : Db} (hstart : Kept start)
    (hrun : Reaches step anyCall start db) (hs : s ∈ db.contributionSchedules.rows)
    (hfees : FeesConfigured db s.currency)
    (hnew : NewPayment ctx opening confirming db userId s key keys) :
    PathsAgree ctx opening confirming db userId s amount key keys ↔
      (Payable db userId s amount → (key.length ≤ 74 ↔ keys.create.length ≤ 128 ∧
        keys.confirm.length ≤ 76 ∧ ReferenceFree db (opening.uuid 0))) := by
  have hkept : Kept db := hrun.invariant hstart fun _ call h _ ↦ kept_step h call
  have hlinked := hkept.linked s hs
  have hpaid := hkept.paidUp s hs
  constructor
  · intro hagree hpayable
    have hsucceed := hagree.succeed
    rw [exists_payContribution_iff hkept.keyed hs hnew,
      exists_payByIntent_iff hkept.keyed hs hlinked hpaid hfees hnew, and_congr_right_iff] at hsucceed
    exact hsucceed hpayable
  · intro hcond
    refine ⟨?_, fun c i direct byIntent hc hi ↦ ?_⟩
    · rw [exists_payContribution_iff hkept.keyed hs hnew,
        exists_payByIntent_iff hkept.keyed hs hlinked hpaid hfees hnew, and_congr_right_iff]
      exact hcond
    · rw [observe_payContribution hkept.keyed hs hnew hc,
        observe_payByIntent hkept.keyed hs hlinked hpaid hfees hnew hi]

end Agreement

/-! ### Two members -/

section Sample

/-- The same instant with other identifiers. -/
def sampleDraw (n : Nat) : Ctx := ⟨9000, fun k ↦ .ofNat (1000 * n + k)⟩

/-- The keys of an intent. -/
def sampleKeys : IntentKeys := ⟨"create-key", "confirm-key"⟩

/-- The first member has paid the first round by an intent. -/
def samplePaidByIntent : Db :=
  [.createIntent (sampleCtx 1) (.ofNat 1) ⟨some (.ofNat 63), some 100⟩ "create-key",
    .settleIntent (sampleCtx 2) (.ofNat 1) (.ofNat 1000) "confirm-key"].foldl step sampleGroup

theorem sampleGroup_kept : Kept sampleGroup where
  keyed := sampleGroup_keyed
  linked := by
    have hlinked : ∀ s ∈ sampleGroup.contributionSchedules.rows,
        (∃ g ∈ sampleGroup.ajoGroups.rows, g.id = s.groupId) ∧
          ∃ c ∈ sampleGroup.ajoCycles.rows, c.id = s.cycleId := by
      decide +kernel
    intro s hs
    exact ⟨(hlinked s hs).1, (hlinked s hs).2⟩
  paidUp := by
    have hpending : ∀ s ∈ sampleGroup.contributionSchedules.rows, s.status = .pending := by
      decide +kernel
    intro s hs hpaid
    rw [hpending s hs] at hpaid
    cases hpaid

theorem sampleGroup_fees : FeesConfigured sampleGroup "NGN" :=
  Option.isSome_iff_exists.mp (by decide +kernel)

theorem sampleGroup_newPayment :
    NewPayment (sampleDraw 5) (sampleCtx 3) (sampleDraw 4) sampleGroup (.ofNat 1)
      (sampleContribution 1 1) "direct-key" sampleKeys where
  ids := ⟨by decide +kernel, by decide +kernel, by decide +kernel, by decide +kernel⟩
  reference := by decide +kernel
  key := by decide +kernel
  intentIds := ⟨by decide +kernel, by decide +kernel, by decide +kernel, by decide +kernel⟩
  intent := ⟨by decide +kernel, by decide +kernel⟩
  intentKey := by decide +kernel
  clock := rfl
  unexpired := by decide

theorem contribution_paths_agree_sample :
    (payContribution (sampleDraw 5) sampleGroup (.ofNat 1) (.ofNat 30) (.ofNat 63)
        ⟨100, "direct-key"⟩).isOk = true ∧
      PathsAgree (sampleDraw 5) (sampleCtx 3) (sampleDraw 4) sampleGroup (.ofNat 1)
        (sampleContribution 1 1) 100 "direct-key" sampleKeys := by
  refine ⟨by decide +kernel, (contribution_paths_agree_iff sampleGroup_kept (.refl _) ?_ ?_
    sampleGroup_newPayment).mpr fun _ ↦ ?_⟩
  · decide +kernel
  · exact sampleGroup_fees
  · decide +kernel

/-- The second member can pay the first round directly, but not by an intent whose identifier begins
like that of the first member's. -/
theorem intent_reference_taken :
    ¬ ∀ start : Db, Kept start → ∀ db, Reaches step anyCall start db →
      ∀ s ∈ db.contributionSchedules.rows, FeesConfigured db s.currency →
      ∀ ctx opening confirming userId amount key keys,
        NewPayment ctx opening confirming db userId s key keys →
        PathsAgree ctx opening confirming db userId s amount key keys := by
  intro h
  have hrun : Reaches step anyCall sampleGroup samplePaidByIntent := reaches_foldl step _ _
  have hnew : NewPayment (sampleDraw 5) (sampleCtx 3) (sampleDraw 4) samplePaidByIntent (.ofNat 2)
      (sampleContribution 1 2) "direct-key" sampleKeys :=
    { ids := ⟨by decide +kernel, by decide +kernel, by decide +kernel, by decide +kernel⟩
      reference := by decide +kernel
      key := by decide +kernel
      intentIds := ⟨by decide +kernel, by decide +kernel, by decide +kernel, by decide +kernel⟩
      intent := ⟨by decide +kernel, by decide +kernel⟩
      intentKey := by decide +kernel
      clock := rfl
      unexpired := by decide }
  have hfees : FeesConfigured samplePaidByIntent "NGN" :=
    Option.isSome_iff_exists.mp (by decide +kernel)
  have hagree := h sampleGroup sampleGroup_kept samplePaidByIntent hrun (sampleContribution 1 2)
    (by decide +kernel) hfees (sampleDraw 5) (sampleCtx 3) (sampleDraw 4) (.ofNat 2) 100
    "direct-key" sampleKeys hnew
  have hdirect : (payContribution (sampleDraw 5) samplePaidByIntent (.ofNat 2) (.ofNat 30)
      (.ofNat 64) ⟨100, "direct-key"⟩).isOk = true := by decide +kernel
  have hrefused : (payByIntent (sampleCtx 3) (sampleDraw 4) samplePaidByIntent (.ofNat 2)
      (.ofNat 64) 100 sampleKeys).isOk = false := by decide +kernel
  obtain ⟨r, hr⟩ := hagree.succeed.mp (exists_eq_ok_iff.mpr hdirect)
  have hok := exists_eq_ok_iff.mp ⟨r, hr⟩
  exact absurd (hok.symm.trans hrefused) (by decide)

end Sample

end AjoCloud.Ajo
