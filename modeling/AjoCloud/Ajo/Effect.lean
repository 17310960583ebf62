import AjoCloud.Ajo.Books
import AjoCloud.Payments.Inversion

/-!
# Inverting the operations

One lemma per operation: from the fact that it returned, what it did to the books, to the pools and
to the ledger's keys.
-/

namespace AjoCloud.Ajo

open Lib Ledger Payments

/-! ## Effects -/

/-- A contribution of `amount` was recorded against the schedule `s`. -/
structure Contributed (db db' : Db) (s : ContributionSchedule) (amount : Int)
    (c : Contribution) (now : Timestamp) : Prop where
  mem : s ∈ db.contributionSchedules.rows
  collectable : s.status ≠ .waived ∧ s.status ≠ .cancelled
  pos : 0 < amount
  le : s.amountPaidMinor + amount ≤ s.amountDueMinor
  row : c.groupId = s.groupId ∧ c.scheduleId = s.id ∧ c.amountMinor = amount ∧
    c.status = .succeeded
  fresh : ∀ x ∈ db.contributions.rows, ¬ Schema.Clash x c
  contributions : db'.contributions.rows = db.contributions.rows ++ [c]
  books : books db' =
    { books db with
      contributions := db'.contributions
      contributionSchedules := db.contributionSchedules.modify (fun x ↦ x.id = s.id)
        (creditSchedule s amount now) fun h ↦ h }
  pools : ∀ g, poolBalance db' g = poolBalance db g + if g = s.groupId then amount else 0

/-- The payout `p` was made for the row `r`. -/
structure PaidOut (db db' : Db) (r : PayoutSchedule) (p : Payout) : Prop where
  mem : r ∈ db.payoutSchedules.rows
  executable : canExecutePayout r.status = true
  collected : isCycleFullyCollected
    (db.contributionSchedules.findMany fun s ↦ s.cycleId = r.cycleId) = true
  covered : r.amountDueMinor ≤ poolBalance db r.groupId
  pos : 0 < r.amountDueMinor
  row : p.groupId = r.groupId ∧ p.scheduleId = r.id ∧ p.slotId = r.slotId ∧
    p.amountMinor = r.amountDueMinor ∧ p.status = .succeeded ∧
    p.idempotencyKey = payoutIdempotencyKey r.id
  fresh : ∀ x ∈ db.payouts.rows, ¬ Schema.Clash x p
  payouts : db'.payouts.rows = db.payouts.rows ++ [p]
  books : books db' =
    { books db with
      payouts := db'.payouts
      payoutSchedules := db.payoutSchedules.modify (fun x ↦ x.id = r.id) (markPaid r) fun h ↦ h }
  pools : ∀ g, poolBalance db' g =
    poolBalance db g - if g = r.groupId then r.amountDueMinor else 0

/-- The swap `w` was executed: the rows of the group's version were copied into the next. -/
structure Swapped (db db' : Db) (w : SwapRequest) (ctx : Ctx) : Prop where
  group : ∃ row ∈ db.ajoGroups.rows, row.id = w.groupId ∧
    row.scheduleVersion = w.previousScheduleVersion
  payoutSchedules : db'.payoutSchedules.rows = db.payoutSchedules.rows ++ nextRows ctx w 0
    ((versionRows db w.groupId w.previousScheduleVersion).insertionSort
      fun a b ↦ a.dueAt ≤ b.dueAt)
  books : books db' =
    { books db with
      payoutSchedules := db'.payoutSchedules
      ajoGroups := db.ajoGroups.modify (fun g ↦ g.id = w.groupId)
        (fun g ↦ { g with scheduleVersion := w.previousScheduleVersion + 1 }) fun h ↦ h
      executedSwaps := insert (w.groupId, w.previousScheduleVersion) (executedSwaps db) }
  ledger : db'.ledger = db.ledger
  intents : db'.paymentIntents = db.paymentIntents

/-- What a call did to the books. -/
inductive Effect (call : Call) (db db' : Db) : Prop
  | /-- The books were left alone. -/
    idle (books : books db' = books db) (pools : ∀ g, poolBalance db' g = poolBalance db g)
  | /-- A contribution was recorded. -/
    contributed (s : ContributionSchedule) (amount : Int) (c : Contribution) (now : Timestamp)
      (h : Contributed db db' s amount c now)
  | /-- A payout was made. -/
    paidOut (r : PayoutSchedule) (p : Payout) (h : PaidOut db db' r p)
      (named : call.payoutRow = some r.id)
  | /-- A payout that was not yet payable was held. -/
    held (id : Uuid) (h : db' = holdPayout db id)
      (executable : ∀ r ∈ db.payoutSchedules.rows, r.id = id → canExecutePayout r.status = true)
  | /-- A swap was executed. -/
    swapped (w : SwapRequest) (ctx : Ctx) (h : Swapped db db' w ctx) (swap : call.isSwap = true)
  | /-- A status was assigned. -/
    assigned (id : Uuid) (writeOff : WriteOff) (h : db' = assignStatus db id writeOff)
      (decided : call.isWriteOff = true)

/-! ## Accounts -/

/-- The account `a` is where the user's wallet in the currency holds its money. -/
structure IsWalletAccount (db : Db) (userId : Uuid) (currency : String) (a : FinancialAccount) :
    Prop where
  mem : a ∈ db.ledger.accounts.rows
  purpose : a.purpose = some .walletAvailable
  currency_eq : a.currency = currency
  active : a.isActive = true
  wallet : ∃ w ∈ db.wallets.rows, w.userId = userId ∧ w.currency = currency ∧
    a.walletId = some w.id

theorem memberWalletAccount_eq_ok {db : Db} {userId : Uuid} {currency : String}
    {a : FinancialAccount} (h : memberWalletAccount db userId currency = .ok a) :
    IsWalletAccount db userId currency a := by
  simp only [memberWalletAccount, bind_eq_ok, orThrow_eq_ok] at h
  obtain ⟨w, hw, ha⟩ := h
  have hwp := Table.prop_of_find? hw
  have hap := Table.prop_of_find? ha
  simp only [decide_eq_true_eq] at hwp hap
  exact ⟨Table.mem_of_find? ha, hap.2.1, hap.2.2.1, hap.2.2.2,
    w, Table.mem_of_find? hw, hwp.1, hwp.2, hap.1⟩

/-- `poolAccountWithin` opens the pool's account if it has to, and hands it back. -/
theorem poolAccountWithin_eq_ok {db db' : Db} {id g pool : Uuid} {currency : String}
    (h : poolAccountWithin db id g currency = .ok (pool, db')) :
    db' = { db with ledger := db'.ledger } ∧ Opened db.ledger db'.ledger ∧
      ∃ a ∈ db'.ledger.accounts.rows, a.id = pool ∧ a.code = poolAccountCode g := by
  unfold poolAccountWithin at h
  split at h
  · next a ha =>
      simp only [bind_eq_ok, require_eq_ok, pure_eq_ok, exists_const, Prod.mk.injEq] at h
      obtain ⟨-, rfl, rfl⟩ := h
      exact ⟨rfl, .refl _, a, Table.mem_of_find? ha, rfl, by simpa using Table.prop_of_find? ha⟩
  · simp only [bind_eq_ok, pure_eq_ok, Prod.mk.injEq] at h
    obtain ⟨ledger, hcreate, rfl, rfl⟩ := h
    refine ⟨rfl, opened_of_createAccount hcreate, newPoolAccount id g currency, ?_, rfl, rfl⟩
    rw [(createAccount_eq_ok hcreate).2.1]
    exact List.mem_append_right _ (List.mem_singleton_self _)

/-- An account behind a pool's code is a pool. -/
theorem purpose_of_poolAccountCode {a : FinancialAccount} {g : Uuid}
    (h : a.code = poolAccountCode g) : a.purpose = some .ajoGroupPool :=
  purpose_of_codePurpose (h ▸ codePurpose_poolAccountCode g)

/-- The pools of the groups. -/
theorem family_pool : Family poolAccountCode .ajoGroupPool :=
  ⟨poolAccountCode_inj, codePurpose_poolAccountCode⟩

/-- An account with another purpose is not the pool. -/
theorem id_ne_pool {ledger : Ledger} {a pool : FinancialAccount} {g : Uuid}
    (ha : a ∈ ledger.accounts.rows) (hpurpose : a.purpose ≠ some .ajoGroupPool)
    (hpool : pool ∈ ledger.accounts.rows) (hcode : pool.code = poolAccountCode g) :
    a.id ≠ pool.id := by
  intro hid
  rw [account_eq_of_id ha hpool hid] at hpurpose
  exact hpurpose (purpose_of_poolAccountCode hcode)

/-! ## Contributions -/

theorem recordContributionWithin_eq_ok {ctx : Ctx} {db db' : Db} {memberId ledgerId : Uuid}
    {s : ContributionSchedule} {amount : Int} {key : String} {c : Contribution}
    (h : recordContributionWithin ctx db memberId s amount key ledgerId = .ok (c, db')) :
    c = newContribution (ctx.uuid 2) memberId s amount key ledgerId ∧
      (∀ x ∈ db.contributions.rows, ¬ Schema.Clash x c) ∧
      db'.contributions.rows = db.contributions.rows ++ [c] ∧
      db' = { db with
        contributions := db'.contributions
        contributionSchedules := db.contributionSchedules.modify (fun x ↦ x.id = s.id)
          (creditSchedule s amount ctx.now) fun h ↦ h } := by
  simp only [recordContributionWithin, bind_eq_ok, require_eq_ok, orThrow_eq_ok, pure_eq_ok,
    exists_const, Prod.mk.injEq] at h
  obtain ⟨-, contributions, hins, rfl, rfl⟩ := h
  obtain ⟨hfresh, hrows⟩ := Table.insert_eq_some.mp hins
  exact ⟨rfl, hfresh, hrows, rfl⟩

/-- A direct contribution under an unused key was posted and recorded. -/
theorem payFresh_effect {ctx : Ctx} {db db' : Db} {userId memberId : Uuid}
    {s : ContributionSchedule} {amount : Int} {k : String} {c : Contribution}
    (hkeyed : WellKeyed db) (hs : s ∈ db.contributionSchedules.rows)
    (hfresh : ∀ x ∈ db.contributions.rows, x.idempotencyKey ≠ contributionIdempotencyKey s.id k)
    (h : payFresh ctx db userId s.groupId memberId s amount (contributionIdempotencyKey s.id k)
      = .ok (c, db')) :
    Contributed db db' s amount c ctx.now ∧ Keeps db db' ∧ Logged db db' := by
  simp only [payFresh, bind_eq_ok, require_eq_ok, mapError_eq_ok, exists_const, Prod.exists] at h
  obtain ⟨hst, _, hamount, wallet, hwallet, pool, db₁, hpool, -, ref, ledger, hpost, hrec⟩ := h
  obtain ⟨hpos, hle⟩ := assertContributionAmount_eq_ok hamount
  obtain ⟨hdb₁, hopened, a, ha, rfl, hcode⟩ := poolAccountWithin_eq_ok hpool
  obtain ⟨rfl, hcfresh, hrows, hdb'⟩ := recordContributionWithin_eq_ok hrec
  rw [hdb₁] at hcfresh hrows hdb'
  have hw := memberWalletAccount_eq_ok hwallet
  have hwpurpose : wallet.purpose ≠ some .ajoGroupPool := by simp [hw.purpose]
  have hwmem := hopened.accounts wallet hw.mem
  -- A key with no contribution behind it is not in the ledger, so the posting is no replay.
  cases (postWithin_eq_ok hpost).2 with
  | replayed existing hmem hkey _ _ =>
      rw [hopened.transactions] at hmem
      obtain ⟨x, hx, hxk⟩ := (hkeyed existing hmem).contribution s.id k hkey
      exact absurd (hxk.trans hkey) (hfresh x hx)
  | appended _ created _ =>
      have htx := (createTransaction_eq_ok created).2.2.2.2
      refine ⟨⟨hs, ⟨fun e ↦ hst (.inr e), fun e ↦ hst (.inl e)⟩, hpos, hle, ⟨rfl, rfl, rfl, rfl⟩,
        hcfresh, hrows, ?_, ?_⟩, ?_, ?_⟩
      · rw [hdb']
        rfl
      · intro g
        have hpools := family_pool.codeBalance_posting created ha hcode (by
          intro e he
          simp only [contributionPosting, List.mem_cons, List.not_mem_nil, or_false] at he
          rcases he with rfl | rfl
          · exact .inr ⟨wallet, hwmem, rfl, hwpurpose⟩
          · exact .inl rfl) g
        have hne := id_ne_pool hwmem hwpurpose ha hcode
        simp only [contributionPosting, LedgerPostingCommand.legs, List.map_cons, List.map_nil,
          LedgerPostingEntry.leg, Journal.net_cons, hne, if_false, if_true, zero_add,
          Journal.net_nil, add_zero, EntryDirection.signed_credit] at hpools
        rw [poolBalance, hdb', hpools, hopened.codeBalance]
        rfl
      · exact .of_append [_] [] [] hrows (by rw [hdb', List.append_nil])
          (by rw [hdb', List.append_nil])
      · refine .one (postedTransaction (ctx.uuid 0) _) (by rw [hdb', ← hopened.transactions]; exact htx)
          (backed_contributionKey (c := newContribution (ctx.uuid 2) memberId s amount
            (contributionIdempotencyKey s.id k) ref.id) ?_ rfl)
        rw [hrows]
        exact List.mem_append_right _ (List.mem_singleton_self _)

variable {call : Call}

/-- What a call amounts to: an effect on the books, with the ledger's keys still backed. -/
structure Outcome (call : Call) (db db' : Db) : Prop where
  effect : Effect call db db'
  keeps : Keeps db db'
  logged : Logged db db'

/-- A call that writes neither the books nor the ledger, and takes no intent away. -/
theorem Outcome.idle {db db' : Db} (hb : books db' = books db) (hl : db'.ledger = db.ledger)
    (xs : List PaymentIntent)
    (hx : db'.paymentIntents.rows = db.paymentIntents.rows ++ xs) : Outcome call db db' where
  effect := .idle hb fun g ↦ by rw [poolBalance, poolBalance, hl]
  keeps := by
    have hc : db'.contributions = db.contributions := congrArg Books.contributions hb
    have hp : db'.payouts = db.payouts := congrArg Books.payouts hb
    exact .of_append [] [] xs (by rw [hc, List.append_nil]) (by rw [hp, List.append_nil]) hx
  logged := .none (by rw [hl])

theorem Outcome.refl (call : Call) (db : Db) : Outcome call db db := .idle rfl rfl [] (List.append_nil _).symm

/-- `payContribution` either answered with an earlier contribution or recorded a new one. -/
theorem payContribution_outcome {ctx : Ctx} {db db' : Db} {userId g scheduleId : Uuid}
    {dto : PayContributionDto} {c : Contribution} (hkeyed : WellKeyed db)
    (h : payContribution ctx db userId g scheduleId dto = .ok (c, db')) : Outcome call db db' := by
  simp only [payContribution, bind_eq_ok, require_eq_ok, orThrow_eq_ok, exists_const] at h
  obtain ⟨s, hs, rfl, slot, -, member, -, -, -, h⟩ := h
  have hid : s.id = scheduleId := by simpa using Table.prop_of_find? hs
  subst hid
  split at h
  · rw [pure_eq_ok, Prod.mk.injEq] at h
    exact h.2 ▸ .refl call db
  · next hnone =>
      obtain ⟨hc, hkeeps, hlogged⟩ := payFresh_effect hkeyed (Table.mem_of_find? hs)
        (fun x hx ↦ by simpa using Table.not_of_find?_eq_none hnone hx) h
      exact ⟨.contributed s _ c _ hc, hkeeps, hlogged⟩

/-! ## Contributions through intents -/

/-- The schedule that is owed is the one the target names. -/
theorem owed_eq_ok {db : Db} {userId : Uuid} {scheduleId : Option Uuid} {o : Owed}
    (h : owed db userId scheduleId = .ok o) :
    scheduleId = some o.schedule.id ∧ o.schedule ∈ db.contributionSchedules.rows := by
  simp only [owed, bind_eq_ok, require_eq_ok, orThrow_eq_ok, pure_eq_ok, exists_const] at h
  obtain ⟨id, rfl, s, hs, slot, -, group, -, cycle, -, member, -, -, rfl⟩ := h
  have hid : s.id = id := by simpa using Table.prop_of_find? hs
  exact ⟨by rw [hid], Table.mem_of_find? hs⟩

/-- A stored intent resolves again only while what it asks for is still owed. -/
theorem resolveContribution_eq_ok {db : Db} {userId : Uuid} {scheduleId : Option Uuid}
    {requested : Option Int} {t : ResolvedTarget}
    (h : resolveContribution db userId scheduleId requested = .ok t) :
    ∃ o, owed db userId scheduleId = .ok o ∧
      (o.schedule.status ≠ .waived ∧ o.schedule.status ≠ .cancelled) ∧ 0 < t.amountMinor ∧
      o.schedule.amountPaidMinor + t.amountMinor ≤ o.schedule.amountDueMinor := by
  simp only [resolveContribution, bind_eq_ok, require_eq_ok, mapError_eq_ok, pure_eq_ok,
    exists_const] at h
  obtain ⟨o, ho, hst, -, amount, hamount, rfl⟩ := h
  obtain ⟨hpos, hle, -⟩ := partialAmount_eq_ok hamount
  exact ⟨o, ho, ⟨fun e ↦ hst (.inr e), fun e ↦ hst (.inl e)⟩, hpos, by simp only; omega⟩

theorem schedule_eq_of_id {db : Db} {s s' : ContributionSchedule}
    (hs : s ∈ db.contributionSchedules.rows) (hs' : s' ∈ db.contributionSchedules.rows)
    (h : s.id = s'.id) : s = s' := db.contributionSchedules.eq_of_clash hs hs' (.inl h)

/-- The payment is credited to the pool of the schedule's group. -/
theorem creditPool_eq_ok {ctx : Ctx} {db db' : Db} {s : ContributionSchedule} {currency : String}
    {pool : Uuid} (hs : s ∈ db.contributionSchedules.rows)
    (h : creditPool ctx db (some s.id) currency = .ok (pool, db')) :
    poolAccountWithin db (ctx.uuid 1) s.groupId currency = .ok (pool, db') := by
  simp only [creditPool, bind_eq_ok, orThrow_eq_ok, Option.some.injEq, exists_eq_left'] at h
  obtain ⟨s', hfind, h⟩ := h
  have hid : s'.id = s.id := by simpa using Table.prop_of_find? hfind
  rwa [schedule_eq_of_id (Table.mem_of_find? hfind) hs hid] at h

/-- The payment is recorded against the schedule the intent names. -/
theorem settleContribution_eq_ok {ctx : Ctx} {db db' : Db} {payment : SettledPayment}
    {s : ContributionSchedule} (h : settleContribution ctx db payment = .ok db')
    (hs : s ∈ db.contributionSchedules.rows) (htarget : payment.targetId = some s.id) :
    ∃ memberId c, recordContributionWithin ctx db memberId s payment.amountMinor
      (contributionIdempotencyKey s.id ("intent:" ++ payment.intentId.toString))
      payment.ledgerTransactionId = .ok (c, db') := by
  simp only [settleContribution, bind_eq_ok, pure_eq_ok, Prod.exists] at h
  obtain ⟨o, ho, c, db'', hrec, rfl⟩ := h
  obtain ⟨hid, hmem⟩ := owed_eq_ok ho
  rw [htarget, Option.some.injEq] at hid
  rw [← schedule_eq_of_id hs hmem hid] at hrec
  exact ⟨o.memberId, c, hrec⟩

/-- A wallet settlement of a contribution intent that was awaiting confirmation. -/
theorem walletSettled_outcome {ctx : Ctx} {db db' opened settled : Db} {userId destination : Uuid}
    {intent : PaymentIntent} {key : String} {target : ResolvedTarget} {payer : PayerAccounts}
    {posting : LedgerReference} {ledger : Ledger} (hkeyed : WellKeyed db)
    (hmem : intent ∈ db.paymentIntents.rows) (hst : intent.status = .requiresConfirmation)
    (h : WalletSettled ctx db ajoContributionTarget userId intent key db' target payer destination
      opened posting ledger settled) : Outcome call db db' := by
  obtain ⟨o, ho, hcollectable, hpos, hle⟩ := resolveContribution_eq_ok h.resolve
  obtain ⟨htarget, hs⟩ := owed_eq_ok ho
  have hcredit : creditPool ctx db (some o.schedule.id) intent.currency =
      .ok (destination, opened) := htarget ▸ h.credit
  obtain ⟨hopenedDb, hopened, a, ha, rfl, hcode⟩ :=
    poolAccountWithin_eq_ok (creditPool_eq_ok hs hcredit)
  obtain ⟨memberId, c, hrec⟩ := settleContribution_eq_ok h.settle (hopenedDb ▸ hs) htarget
  obtain ⟨hc, hcfresh, hrows, hsettled⟩ := recordContributionWithin_eq_ok hrec
  obtain ⟨walletId, hpayer⟩ := h.paidBy
  rw [hopenedDb] at hcfresh hrows hsettled
  have hdb' := h.after
  have hintents := h.intents
  rw [hsettled] at hdb' hintents
  have hcontributions : db'.contributions = settled.contributions := by rw [h.after]
  rw [← hcontributions] at hrows
  -- An intent's key in the ledger would belong to an intent that is past confirmation.
  cases (postWithin_eq_ok h.post).2 with
  | replayed existing hex hk _ _ =>
      rw [hopened.transactions] at hex
      obtain ⟨x, hx, hid, hxst⟩ := (hkeyed existing hex).intent intent.id key hk
      exact absurd (db.paymentIntents.eq_of_clash hx hmem (.inl (.inl (.inl hid))) ▸ hst) hxst
  | appended _ created _ =>
      have htx := (createTransaction_eq_ok created).2.2.2.2
      rw [hopened.transactions] at htx
      refine ⟨.contributed o.schedule intent.amountMinor c ctx.now
        ⟨hs, hcollectable, h.amount ▸ hpos, h.amount ▸ hle, ?_, hcfresh, hrows, ?_, ?_⟩,
        ⟨?_, ?_, ?_⟩, ?_⟩
      · rw [hc]
        exact ⟨rfl, rfl, rfl, rfl⟩
      · rw [hcontributions, hdb']
        rfl
      · intro g
        have hpools := codeBalance_walletPosting family_pool (by simp) (by simp) hpayer hopened created
          ha hcode g
        rw [poolBalance, hdb', hpools, hopened.codeBalance]
        rfl
      · intro x hx
        rw [hrows]
        exact List.mem_append_left _ hx
      · intro p hp
        rw [hdb']
        exact hp
      · intro x hx hxst
        exact intents_of_settled hintents hx (.inl hxst)
      · obtain ⟨x, hx, hid, hxst⟩ := intents_of_settled hintents hmem (.inr rfl)
        refine .one (postedTransaction (ctx.uuid 0) _) (by rw [hdb']; exact htx) ?_
        have hbacked := backed_intentKey (k := key) hx hxst
        rwa [hid] at hbacked

theorem settleIntent_outcome {ctx : Ctx} {db db' : Db} {userId intentId : Uuid} {key : String}
    {r : PaymentIntent} (hkeyed : WellKeyed db)
    (h : settleIntent ctx db userId intentId key = .ok (r, db')) : Outcome call db db' := by
  simp only [settleIntent, bind_eq_ok, require_eq_ok, exists_const] at h
  obtain ⟨_, -, -, h⟩ := h
  obtain ⟨intent, hmem, -, -, ⟨-, rfl⟩ | ⟨hst, _, _, _, _, _, _, _, hsettled⟩⟩ :=
    settleFromWallet_eq_ok h
  · exact .refl call _
  · exact walletSettled_outcome hkeyed hmem hst hsettled

/-- Creating an intent writes nothing but the intent. -/
theorem create_outcome {ctx : Ctx} {db db' : Db} {handler : PaymentTarget} {userId : Uuid}
    {dto : CreateIntentDto} {key : String} {r : PaymentIntent}
    (h : create ctx db handler userId dto key = .ok (r, db')) : Outcome call db db' := by
  obtain ⟨xs, hrows, hdb'⟩ := (create_eq_ok h).append
  exact .idle (by rw [hdb']; rfl) (by rw [hdb']) xs hrows

end AjoCloud.Ajo
