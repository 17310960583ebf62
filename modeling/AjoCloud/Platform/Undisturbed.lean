import AjoCloud.Ledger.Alike
import AjoCloud.Platform.Beside

/-!
# Settlements go their way

A settlement that went through, or failed, would do the same in any database that lies beside: it finds
the same intent, the same accounts with the same balances and the same target, and its rows clash with
none that others have written.
-/

namespace AjoCloud.Platform

open Lib Ledger Payments

variable {config : Bills.BillConfig} {own : Settlement} {mine : Uuid → Prop} {db db' : Db}
  {ledger ledger' : Ledger}

/-! ## Accounts -/

/-- An account is found as before if it is sought by a wallet or for a purpose that targets do not open
accounts for. -/
theorem LedgerBeside.find?_account (h : LedgerBeside own ledger ledger') {p : FinancialAccount → Bool}
    (hp : ∀ a, p a = true → a.walletId = none →
      a.purpose ≠ some .ajoGroupPool ∧ a.purpose ≠ some .foodProgrammeEscrow) :
    ledger'.accounts.find? p = ledger.accounts.find? p := by
  refine h.accounts.find?_eq fun a ha ↦ Bool.eq_false_iff.mpr fun hpa ↦ ?_
  obtain ⟨hpool, hescrow⟩ := hp a hpa ha.walletId
  rcases ha.purpose with hpurpose | hpurpose
  · exact hpool hpurpose
  · exact hescrow hpurpose

theorem accounts_beside (h : LedgerBeside own db.ledger db'.ledger) (walletId : Uuid) (currency : String) :
    Payments.accounts db' walletId currency = Payments.accounts db walletId currency := by
  rw [Payments.accounts, Payments.accounts, h.find?_account, h.find?_account]
  · intro a ha _
    simp only [decide_eq_true_eq] at ha
    simp [ha.2.1]
  · intro a ha hnone
    simp [hnone] at ha

theorem accountsFor_beside (hwallets : db'.wallets = db.wallets)
    (h : LedgerBeside own db.ledger db'.ledger) (userId : Uuid) (currency : String) :
    accountsFor db' userId currency = accountsFor db userId currency := by
  have havailable : ∀ walletId,
      db'.ledger.accounts.find? (fun a ↦ a.walletId = some walletId ∧
        a.purpose = some .walletAvailable) =
      db.ledger.accounts.find? (fun a ↦ a.walletId = some walletId ∧
        a.purpose = some .walletAvailable) := fun walletId ↦
    h.find?_account fun a ha hnone ↦ by simp [hnone] at ha
  rw [accountsFor, accountsFor, hwallets]
  simp only [havailable]
  rw [h.find?_account, h.find?_account]
  all_goals
    intro a ha _
    simp only [decide_eq_true_eq] at ha
    simp [ha.1]

/-- The payer's balance is what it was. -/
theorem LedgerBeside.balance_eq (h : LedgerBeside own ledger ledger') {a : FinancialAccount}
    (ha : a ∈ ledger.accounts.rows) (hwallet : a.walletId = own.intent.walletId)
    (hpurpose : a.purpose = some .walletAvailable) :
    ledger'.accountBalanceWithin a.id = ledger.accountBalanceWithin a.id := by
  obtain ⟨new, hrows, hnew⟩ := h.transactions
  have hzero : sumWhere new (fun t ↦ t.status = .posted) (·.net a.id) = 0 := by
    rw [sumWhere]
    refine List.sum_eq_zero fun x hx ↦ ?_
    obtain ⟨t, ht, rfl⟩ := List.mem_map.mp hx
    exact (hnew t (List.mem_of_mem_filter ht)).spares a ha hwallet hpurpose
  rw [accountBalanceWithin_eq, accountBalanceWithin_eq, hrows, sumWhere_append, hzero, add_zero]

/-! ## The account to credit -/

/-- An escrow can be opened in any currency that is a code. -/
theorem exists_escrowAccountWithin_iff {id programmeId : Uuid} {currency : String}
    (hfresh : ∀ a ∈ db.ledger.accounts.rows, a.id ≠ id) (hcurrency : isCurrencyCode currency = true) :
    (∃ r, Food.escrowAccountWithin db id programmeId currency = .ok r) ↔
      ∀ a, db.ledger.accounts.find? (fun a ↦ a.code = Food.escrowAccountCode programmeId) = some a →
        a.isActive = true := by
  unfold Food.escrowAccountWithin
  split
  · next a ha =>
      simp only [bind_eq_ok, require_eq_ok, pure_eq_ok, exists_const]
      constructor
      · rintro ⟨r, hactive, -⟩ b hb
        rw [ha, Option.some.injEq] at hb
        exact hb ▸ hactive
      · intro h
        exact ⟨_, h a ha, rfl⟩
  · next hnone =>
      have hins : ∃ ledger, db.ledger.createAccount (Food.newEscrowAccount id programmeId currency) =
          .ok ledger := by
        refine exists_createAccount_iff.mpr ⟨⟨?_, ?_, ?_⟩, ?_⟩
        · simp [fitsVarChar, Food.newEscrowAccount, Food.escrowAccountCode, ← String.length_toList]
        · simp [fitsVarChar, Food.newEscrowAccount, ← String.length_toList]
        · exact le_of_eq (length_of_isCurrencyCode hcurrency)
        · rintro a ha (heq | ⟨-, heq⟩)
          · exact hfresh a ha heq
          · exact Table.not_of_find?_eq_none hnone ha (decide_eq_true (Option.some.inj heq))
      obtain ⟨ledger, hledger⟩ := hins
      constructor
      · intro _ a ha
        exact absurd (hnone.symm.trans ha) (by simp)
      · intro _
        exact ⟨_, bind_of_eq_ok hledger⟩

/-- Whatever account has a code is active, or was before, as others open active accounts only. -/
theorem LedgerBeside.active_iff (h : LedgerBeside own ledger ledger') (code : String) :
    (∀ a, ledger'.accounts.find? (fun a ↦ a.code = code) = some a → a.isActive = true) ↔
      ∀ a, ledger.accounts.find? (fun a ↦ a.code = code) = some a → a.isActive = true := by
  rcases h.accounts.find?_cases (p := fun a ↦ a.code = code) with heq | ⟨hnone, a, ha, hopened⟩
  · rw [heq]
  · rw [hnone, ha]
    refine iff_of_true (fun b hb ↦ ?_) nofun
    exact Option.some.inj hb ▸ hopened.active

theorem LedgerBeside.fresh (h : LedgerBeside own ledger ledger')
    (hfresh : ∀ a ∈ ledger.accounts.rows, ¬ own.Drawn a.id) :
    ∀ a ∈ ledger'.accounts.rows, ¬ own.Drawn a.id := fun _ ha ↦
  (h.accounts.cases ha).elim (hfresh _) (·.undrawn)

/-- The account to credit is found, or can be opened, as before. -/
theorem agree_creditAccount (hrows : RowsBeside own mine db db')
    (h : LedgerBeside own db.ledger db'.ledger)
    (hfresh : ∀ a ∈ db.ledger.accounts.rows, ¬ own.Drawn a.id) (type : PaymentTargetType)
    (targetId : Option Uuid) {currency : String} (hcurrency : isCurrencyCode currency = true) :
    Agree ((targets config type).creditAccount own.ctx db' targetId currency)
      ((targets config type).creditAccount own.ctx db targetId currency) := by
  have hdrawn : ∀ a ∈ db.ledger.accounts.rows, a.id ≠ own.ctx.uuid 1 := fun a ha heq ↦
    hfresh a ha ⟨1, heq.symm⟩
  have hdrawn' : ∀ a ∈ db'.ledger.accounts.rows, a.id ≠ own.ctx.uuid 1 := fun a ha heq ↦
    h.fresh hfresh a ha ⟨1, heq.symm⟩
  have hwallets : db'.wallets = db.wallets := by rw [hrows.after]
  have hprovider : Agree (providerPayableAccount db' currency) (providerPayableAccount db currency) := by
    rw [providerPayableAccount, providerPayableAccount, h.find?_account]
    · exact .bind_same (fun _ ↦ Iff.rfl) fun _ _ ↦ .of_ok _ _
    · intro a ha _
      simp only [decide_eq_true_eq] at ha
      simp [ha.2.1]
  cases type with
  | akawoPoolDue => exact hprovider
  | walletTopup => exact hprovider
  | foodSubscription =>
      refine .bind_same (fun _ ↦ Iff.rfl) fun id _ ↦ ?_
      rcases hrows.subscriptions.find?_cases (p := fun s ↦ s.id = id) fun s s' hk ↦ by rw [hk.id_eq] with
        ⟨hnone, hnone'⟩ | ⟨s, s', -, hk, hs, hs'⟩
      · rw [hnone, hnone']
        exact .bind_same (fun _ ↦ Iff.rfl) fun _ hok ↦ absurd (orThrow_eq_ok.mp hok) (by simp)
      · rw [hs, hs']
        change Agree (Food.escrowAccountWithin db' _ s'.groupId _)
          (Food.escrowAccountWithin db _ s.groupId _)
        rw [Agree, exists_escrowAccountWithin_iff hdrawn hcurrency,
          exists_escrowAccountWithin_iff hdrawn' hcurrency, hk.groupId_eq, h.active_iff]
  | ajoContribution =>
      refine .bind_same (fun _ ↦ Iff.rfl) fun id _ ↦ ?_
      rcases hrows.schedules.find?_cases (p := fun s ↦ s.id = id) fun s s' hk ↦ by rw [hk.id_eq] with
        ⟨hnone, hnone'⟩ | ⟨s, s', -, hk, hs, hs'⟩
      · rw [hnone, hnone']
        exact .bind_same (fun _ ↦ Iff.rfl) fun _ hok ↦ absurd (orThrow_eq_ok.mp hok) (by simp)
      · rw [hs, hs']
        change Agree (Ajo.poolAccountWithin db' _ s'.groupId _) (Ajo.poolAccountWithin db _ s.groupId _)
        rw [Agree, Ajo.exists_poolAccountWithin_iff hdrawn hcurrency,
          Ajo.exists_poolAccountWithin_iff hdrawn' hcurrency, hk.groupId_eq, h.active_iff]
  | billPayment =>
      have hvalidations : db'.bills.validations = db.bills.validations := by rw [hrows.after]
      change Agree (Bills.reservedAccountForIntent db' _ _) (Bills.reservedAccountForIntent db _ _)
      rw [Bills.reservedAccountForIntent, Bills.reservedAccountForIntent, hvalidations, hwallets]
      refine .bind_same (fun _ ↦ Iff.rfl) fun id _ ↦ .bind_same (fun _ ↦ Iff.rfl) fun v _ ↦ ?_
      rw [h.find?_account]
      · exact .bind_same (fun _ ↦ Iff.rfl) fun _ _ ↦ .of_ok _ _
      · intro a ha _
        simp only [decide_eq_true_eq] at ha
        simp [ha.1]

/-! ## The target -/

theorem agree_insertRow {ρ : Type} [Schema ρ] {P : ρ → Prop} {t t' : Table ρ} {row : ρ}
    (h : Table.Grown P t t') (hrow : ∀ r, P r → ¬ Schema.Clash r row) :
    Agree (insertRow t' row) (insertRow t row) := .orThrow (h.exists_insert_iff hrow)

theorem agree_updateRow {ρ : Type} [Schema ρ] {R : ρ → ρ → Prop} {t t' : Table ρ} {p : ρ → Bool}
    {g : ρ → ρ} (h : Table.Redone R t t') (hp : ∀ r r', R r r' → p r' = p r)
    (hsame : ∀ r ∈ t.rows, ∀ r', R r r' → p r = true → r' = r)
    (hsingle : ∀ a ∈ t.rows, ∀ b ∈ t.rows, p a = true → p b = true → a = b)
    (hclash : ∀ a ∈ t.rows, p a = true → ∀ b ∈ t.rows, p b = false → ∀ b', R b b' →
      (Schema.Clash (g a) b' ↔ Schema.Clash (g a) b)) :
    Agree (updateRow t' p g) (updateRow t p g) := by
  rw [updateRow, updateRow, h.find?_eq hp hsame]
  exact .bind_same (fun _ ↦ Iff.rfl) fun _ _ ↦ .orThrow (h.exists_update_iff hp hsame hsingle hclash)

/-- The due is marked as before, if it is the payer's. -/
theorem agree_settleDue (h : RowsBeside own mine db db') {payment : SettledPayment}
    (hmine : mine payment.ledgerTransactionId) {target : ResolvedTarget}
    (hresolve : resolveDue db own.userId payment.targetId = .ok target) :
    Agree (settleDue own.ctx db' payment) (settleDue own.ctx db payment) := by
  obtain ⟨id, d, m, htarget, hd, hm, huser, -⟩ := member_of_resolveDue hresolve
  have hdid : d.id = id := by simpa using Table.prop_of_find? hd
  have hunique : ∀ e ∈ db.akawo.dues.rows, e.id = id → e = d := fun e he heid ↦
    db.akawo.dues.eq_of_clash he (Table.mem_of_find? hd) (.inl (.inl (heid.trans hdid.symm)))
  rw [settleDue, settleDue, htarget]
  refine .bind (agree_updateRow h.dues (fun d d' hk ↦ ?_) (fun e he e' hk heid ↦ ?_)
    (fun a ha b hb ha' hb' ↦ ?_) fun a ha ha' b hb hb' b' hk ↦ ?_) fun _ _ _ _ ↦ .of_ok _ _
  · rw [hk.id_eq]
  · have heq := hunique e he (of_decide_eq_true heid)
    exact hk.same m (heq ▸ hm) huser
  · rw [hunique a ha (of_decide_eq_true ha'), hunique b hb (of_decide_eq_true hb')]
  · simp only [Schema.Clash, hk.id_eq, hk.poolId_eq, hk.memberId_eq]
    rw [eq_comm (b := b'.ledgerTransactionId), hk.pointing _ hmine, eq_comm (b := b.ledgerTransactionId)]

/-- The contribution is recorded as before. -/
theorem agree_settleContribution (h : RowsBeside own mine db db') {payment : SettledPayment}
    (huser : payment.userId = own.userId) (hintent : payment.intentId = own.intent.id) :
    Agree (Ajo.settleContribution own.ctx db' payment) (Ajo.settleContribution own.ctx db payment) := by
  rw [Ajo.settleContribution, Ajo.settleContribution, huser]
  refine .bind_same (fun _ ↦ owed_beside h) fun o _ ↦ .bind ?_ fun _ _ _ _ ↦ .of_ok _ _
  refine .bind_same (fun _ ↦ Iff.rfl) fun _ _ ↦ .bind (.orThrow ?_) fun _ _ _ _ ↦ .of_ok _ _
  refine h.contributions.exists_insert_iff fun c hc ↦ ?_
  rintro (heq | ⟨-, heq⟩)
  · exact hc.undrawn ⟨2, heq.symm⟩
  · exact hc.key _ (hintent ▸ Option.some.inj heq)

/-- The subscription is credited as before. -/
theorem agree_settleSubscription (h : RowsBeside own mine db db') {payment : SettledPayment}
    (huser : payment.userId = own.userId) :
    Agree (Food.settleSubscription own.ctx db' payment) (Food.settleSubscription own.ctx db payment) := by
  rw [Food.settleSubscription, Food.settleSubscription, huser]
  refine .bind_same (fun _ ↦ owned_beside h) fun e he ↦ ?_
  obtain ⟨id, -, hs, hown⟩ := user_of_owned he
  have hunique : ∀ s ∈ db.food.subscriptions.rows, s.id = e.subscription.id → s = e.subscription :=
    fun s hs' hid ↦ db.food.subscriptions.eq_of_clash hs' (Table.mem_of_find? hs) (.inl hid)
  refine .bind_same (fun _ ↦ Iff.rfl) fun _ _ ↦ .bind_same (fun _ ↦ Iff.rfl) fun _ _ ↦ ?_
  refine .bind (agree_updateRow h.subscriptions (fun s s' hk ↦ ?_) (fun s hs' s' hk hid ↦ ?_)
    (fun a ha b hb ha' hb' ↦ ?_) fun a ha ha' b hb hb' b' hk ↦ ?_) fun _ _ _ _ ↦ .of_ok _ _
  · rw [hk.id_eq]
  · have heq := hunique s hs' (of_decide_eq_true hid)
    exact hk.same (heq ▸ hown)
  · rw [hunique a ha (of_decide_eq_true ha'), hunique b hb (of_decide_eq_true hb')]
  · simp only [Schema.Clash, hk.id_eq, hk.groupId_eq, hk.userId_eq, hk.packageId_eq]

/-- The bill is recorded as before. -/
theorem agree_recordIntentPayment (h : RowsBeside own mine db db') {payment : SettledPayment}
    (huser : payment.userId = own.userId) :
    Agree (Bills.recordIntentPayment config own.ctx db' payment)
      (Bills.recordIntentPayment config own.ctx db payment) := by
  have hvalidations : db'.bills.validations = db.bills.validations := by rw [h.after]
  have hwallets : db'.wallets = db.wallets := by rw [h.after]
  have hfee : Fees.activeDefinition db' .billPayment own.ctx.now =
      Fees.activeDefinition db .billPayment own.ctx.now := by
    rw [h.after]
    rfl
  rw [Bills.recordIntentPayment, Bills.recordIntentPayment, hvalidations, hwallets, hfee]
  refine .bind_same (fun _ ↦ Iff.rfl) fun id _ ↦ .bind_same (fun _ ↦ Iff.rfl) fun v _ ↦
    .bind_same (fun _ ↦ Iff.rfl) fun w _ ↦ .bind_same (fun _ ↦ Iff.rfl) fun _ _ ↦ .bind ?_ fun _ _ _ _ ↦
    .bind ?_ fun _ _ _ _ ↦ .bind ?_ fun _ _ _ _ ↦ .of_ok _ _
  · refine agree_insertRow h.bills fun b hb ↦ ?_
    rintro ((heq | ⟨-, heq⟩) | ⟨-, heq⟩)
    · exact hb.undrawn ⟨2, heq.symm⟩
    · exact hb.reference (Option.some.inj heq)
    · exact hb.userId ((Prod.mk.inj (Option.some.inj heq)).1.trans huser)
  · cases Fees.activeDefinition db .billPayment own.ctx.now with
    | none => exact .of_ok _ _
    | some definition => exact agree_insertRow h.assessments fun a ha heq ↦ ha ⟨4, heq.symm⟩
  · refine agree_insertRow h.attempts fun a ha ↦ ?_
    rintro (heq | ⟨-, heq⟩)
    · exact ha.undrawn ⟨5, heq.symm⟩
    · exact ha.bill ⟨2, (Prod.mk.inj (Option.some.inj heq)).1.symm⟩

/-- A target that was worth paying records the payment as before. -/
theorem agree_settle (h : RowsBeside own mine db db') {type : PaymentTargetType}
    {payment : SettledPayment} (huser : payment.userId = own.userId)
    (hintent : payment.intentId = own.intent.id) (hmine : mine payment.ledgerTransactionId)
    {requested : Option Int} {target : ResolvedTarget}
    (hresolve : (targets config type).resolve own.ctx db own.userId payment.targetId requested =
      .ok target) :
    Agree ((targets config type).settle own.ctx db' payment)
      ((targets config type).settle own.ctx db payment) := by
  cases type with
  | akawoPoolDue => exact agree_settleDue h hmine hresolve
  | ajoContribution => exact agree_settleContribution h huser hintent
  | foodSubscription => exact agree_settleSubscription h huser
  | walletTopup => exact .of_ok _ _
  | billPayment => exact agree_recordIntentPayment h huser

/-! ## The intent -/

/-- The intent itself is found as before. -/
theorem RowsBeside.find?_intent (h : RowsBeside own mine db db')
    (hmem : own.intent ∈ db.paymentIntents.rows) {p : PaymentIntent → Bool}
    (hp : ∀ i i', i'.id = i.id → i'.userId = i.userId → p i' = p i)
    (hid : ∀ i, p i = true → i.id = own.intent.id) :
    db'.paymentIntents.find? p = db.paymentIntents.find? p := by
  refine h.intents.find?_eq (fun i i' hk ↦ hp i i' hk.id_eq hk.userId_eq) fun i hi i' hk hpi ↦ ?_
  have heq := db.paymentIntents.eq_of_clash hi hmem (.inl (.inl (.inl (hid i hpi))))
  exact hk.same (heq ▸ rfl)

/-- The intent can be marked as before. -/
theorem RowsBeside.exists_mark_iff (h : RowsBeside own mine db db')
    (hmem : own.intent ∈ db.paymentIntents.rows) {mark : PaymentIntent → PaymentIntent} {id : Uuid}
    (hmine : mine id) (hmark : MarksPosted mark id) :
    (∃ u, db'.paymentIntents.update (fun i ↦ i.id = own.intent.id) mark = some u) ↔
      ∃ u, db.paymentIntents.update (fun i ↦ i.id = own.intent.id) mark = some u := by
  have hunique : ∀ i ∈ db.paymentIntents.rows, i.id = own.intent.id → i = own.intent := fun i hi hid ↦
    db.paymentIntents.eq_of_clash hi hmem (.inl (.inl (.inl hid)))
  refine h.intents.exists_update_iff (fun i i' hk ↦ ?_) (fun i hi i' hk hid ↦ ?_)
    (fun a ha b hb ha' hb' ↦ ?_) fun a ha ha' b hb hb' b' hk ↦ ?_
  · rw [hk.id_eq]
  · have heq := hunique i hi (of_decide_eq_true hid)
    exact hk.same (heq ▸ rfl)
  · rw [hunique a ha (of_decide_eq_true ha'), hunique b hb (of_decide_eq_true hb')]
  · simp only [Schema.Clash, hk.id_eq, hk.userId_eq, hk.key_eq, hk.providerReference_eq, hmark.posted]
    rw [eq_comm (b := b'.ledgerTransactionId), hk.pointing _ hmine, eq_comm (b := b.ledgerTransactionId)]

/-! ## The posting -/

variable {ref : LedgerReference} {command : LedgerPostingCommand}

/-- The transaction of the settlement is its own. -/
theorem mine_of_postWithin (h : ledger.postWithin (own.ctx.uuid 0) command = .ok (ref, ledger'))
    (hkey : command.idempotencyKey = own.ledgerKey) : own.Mine ledger ref.id := by
  rw [id_of_postWithin h, hkey]
  cases hfind : ledger.byKey own.ledgerKey with
  | none => exact .inl ⟨0, rfl⟩
  | some t =>
      obtain ⟨ht, htkey⟩ := byKey_eq_some hfind
      exact .inr ⟨t, ht, rfl, htkey⟩

/-- The posting of the settlement is taken as before, and stands for the same transaction. -/
theorem LedgerBeside.agree_postWithin (h : LedgerBeside own ledger ledger')
    {opened opened' : Ledger} (hopened : opened.transactions = ledger.transactions)
    (hopened' : opened'.transactions = ledger'.transactions) {command' : LedgerPostingCommand}
    (halike : command.Alike command') (hkey : command.idempotencyKey = own.ledgerKey)
    (hreference : command.reference = own.reference)
    (haccounts : ∀ e ∈ command.entries, ∃ a ∈ opened.accounts.rows, a.id = e.accountId)
    (haccounts' : ∀ e ∈ command'.entries, ∃ a ∈ opened'.accounts.rows, a.id = e.accountId) :
    Agree (opened'.postWithin (own.ctx.uuid 0) command') (opened.postWithin (own.ctx.uuid 0) command) := by
  refine Ledger.agree_postWithin (P := OtherTransaction own ledger) ?_ (fun t ht ↦ hkey ▸ ht.key)
    (fun t ht ↦ ⟨fun heq ↦ ht.undrawn ⟨0, heq.symm⟩, hreference ▸ ht.reference⟩) halike haccounts
    haccounts'
  rw [hopened, hopened']
  exact h.transactions

theorem LedgerBeside.id_eq (h : LedgerBeside own ledger ledger') {opened opened' stored stored' : Ledger}
    (hopened : opened.transactions = ledger.transactions)
    (hopened' : opened'.transactions = ledger'.transactions) {command' : LedgerPostingCommand}
    (hkey : command.idempotencyKey = own.ledgerKey) (hkey' : command'.idempotencyKey = own.ledgerKey)
    {ref' : LedgerReference}
    (hpost : opened.postWithin (own.ctx.uuid 0) command = .ok (ref, stored))
    (hpost' : opened'.postWithin (own.ctx.uuid 0) command' = .ok (ref', stored')) :
    ref'.id = ref.id := by
  have hsame : opened'.byKey own.ledgerKey = opened.byKey own.ledgerKey := by
    refine byKey_grown (P := OtherTransaction own ledger) ?_ fun t ht ↦ ht.key
    rw [hopened, hopened']
    exact h.transactions
  rw [id_of_postWithin hpost, id_of_postWithin hpost', hkey, hkey', hsame]

/-- All accounts a wallet settlement posts to exist. -/
theorem exists_account_of_walletPosting {handler : PaymentTarget} {userId : Uuid} {intent : PaymentIntent}
    {key description : String} {payer : PayerAccounts} {destination : Uuid}
    (havailable : payer.available ∈ ledger.accounts.rows)
    (hfee : payer.feeRevenue ∈ ledger.accounts.rows)
    (hdestination : ∃ a ∈ ledger.accounts.rows, a.id = destination) :
    ∀ e ∈ (walletPosting handler userId intent key description payer destination).entries,
      ∃ a ∈ ledger.accounts.rows, a.id = e.accountId := by
  intro e he
  rcases mem_entries_walletPosting he with heq | heq | heq
  · exact ⟨_, havailable, heq.symm⟩
  · exact heq ▸ hdestination
  · exact ⟨_, hfee, heq.symm⟩

theorem Credited.exists_account {targetId : Option Uuid} {currency : String} {destination : Uuid}
    {type : PaymentTargetType} (h : Credited db targetId currency ledger destination type) :
    ∃ a ∈ ledger.accounts.rows, a.id = destination := by
  cases h with
  | platform a _ _ account id_eq => exact ⟨a, account.mem, id_eq⟩
  | reserve a _ _ _ _ _ account id_eq => exact ⟨a, account.mem, id_eq⟩

/-- The accounts of a posting are no matter of its key, its reference or its sums. -/
theorem alike_walletPosting (handler : PaymentTarget) (userId : Uuid) (intent : PaymentIntent)
    (key description : String) (payer : PayerAccounts) (destination destination' : Uuid) :
    (walletPosting handler userId intent key description payer destination).Alike
      (walletPosting handler userId intent key description payer destination') :=
  ⟨rfl, rfl, rfl, rfl, rfl, by simp only [walletPosting, List.cons_append, List.map_cons]⟩

/-! ## The settlement -/

/-- Only intents in a currency that is a code are settled. -/
theorem currency_of_settlePending {ctx : Ctx} {handler : PaymentTarget} {userId : Uuid}
    {intent : PaymentIntent} {key : String} {r : PaymentIntent × Db}
    (h : settlePending ctx db handler userId intent key = .ok r) :
    isCurrencyCode intent.currency = true := by
  simp only [settlePending, bind_eq_ok, Prod.exists] at h
  obtain ⟨_, -, _, -, _, -, _, -, _, _, -, _, -, _, _, hpost, -⟩ := h
  exact (postWithin_eq_ok hpost).1.currency

section Settle

variable (hmem : own.intent ∈ db.paymentIntents.rows)
  (hfresh : ∀ a ∈ db.ledger.accounts.rows, ¬ own.Drawn a.id) (h : Beside own db db')

include hmem hfresh h

/-- Confirming the intent from the wallet goes as before. -/
theorem agree_settlePending {key : String} (hway : own.way = .wallet key) :
    Agree (settlePending own.ctx db' (targets config own.intent.targetType) own.userId own.intent key)
      (settlePending own.ctx db (targets config own.intent.targetType) own.userId own.intent key) := by
  by_cases hcurrency : isCurrencyCode own.intent.currency = true
  swap
  · exact iff_of_false (fun ⟨_, hok⟩ ↦ hcurrency (currency_of_settlePending hok))
      fun ⟨_, hok⟩ ↦ hcurrency (currency_of_settlePending hok)
  rw [settlePending, settlePending]
  refine .bind_same (fun _ ↦ Iff.rfl) fun walletId hwallet ↦ .bind_same
    (fun _ ↦ resolve_beside h.rows config _ _) fun target hresolve ↦ .bind_same (fun _ ↦ Iff.rfl)
    fun _ _ ↦ .bind_same (fun _ ↦ by rw [accounts_beside h.ledger]) fun payer hpayer ↦
    .bind (agree_creditAccount h.rows h.ledger hfresh _ _ hcurrency) ?_
  rintro ⟨destination', opened'⟩ ⟨destination, opened⟩ hcredit' hcredit
  obtain ⟨hopened, hopens, hcredited⟩ := creditAccount_eq_ok hcredit
  obtain ⟨hopened', hopens', hcredited'⟩ := creditAccount_eq_ok hcredit'
  have hpays := accounts_eq_ok hpayer
  have hbalance : opened'.balance payer.available.id = opened.balance payer.available.id := by
    rw [Db.balance, Db.balance, hopens.balance, hopens'.balance]
    refine h.ledger.balance_eq hpays.available_mem ?_ hpays.available_purpose
    exact hpays.available_wallet.trans (orThrow_eq_ok.mp hwallet).symm
  have hkey : ∀ account, (walletPosting (targets config own.intent.targetType) own.userId own.intent
      key target.description payer account).idempotencyKey = own.ledgerKey := by
    rw [Settlement.ledgerKey, hway]
    exact fun _ ↦ rfl
  have hreference : (walletPosting (targets config own.intent.targetType) own.userId own.intent key
      target.description payer destination).reference = own.reference := by
    rw [Settlement.reference, hway]
    rfl
  refine .bind_same (fun _ ↦ by rw [hbalance]) fun _ _ ↦ .bind (h.ledger.agree_postWithin
    hopens.transactions hopens'.transactions (alike_walletPosting ..) (hkey _) hreference
    (exists_account_of_walletPosting (hopens.accounts _ hpays.available_mem)
      (hopens.accounts _ hpays.feeRevenue_mem) hcredited.exists_account)
    (exists_account_of_walletPosting
      (hopens'.accounts _ (h.ledger.accounts.mem hpays.available_mem))
      (hopens'.accounts _ (h.ledger.accounts.mem hpays.feeRevenue_mem)) hcredited'.exists_account)) ?_
  rintro ⟨posting', ledger'⟩ ⟨posting, ledger⟩ hpost' hpost
  have hid := h.ledger.id_eq hopens.transactions hopens'.transactions (hkey _) (hkey _) hpost hpost'
  have hmine : own.Mine db.ledger posting.id := by
    refine (mine_of_postWithin hpost (hkey _)).imp_right ?_
    rw [hopens.transactions]
    exact id
  have hpayment : settledPayment own.userId own.intent posting' =
      settledPayment own.userId own.intent posting := by
    rw [settledPayment, settledPayment, hid]
  have hmark : markSettled own.ctx (targets config own.intent.targetType) posting' =
      markSettled own.ctx (targets config own.intent.targetType) posting := by
    unfold markSettled
    rw [hid]
  have hrows : RowsBeside own (own.Mine db.ledger) { opened with ledger := ledger }
      { opened' with ledger := ledger' } := by
    rw [hopened, hopened']
    exact h.rows.withLedger ledger ledger'
  have hcost : (targets config own.intent.targetType).resolve own.ctx { opened with ledger := ledger }
      own.userId own.intent.targetId
      (storedRequest (targets config own.intent.targetType) own.intent.amountMinor) = .ok target := by
    rw [hopened, resolve_withLedger, resolve_withLedger, hresolve]
  dsimp only
  rw [hpayment, hmark]
  refine .bind (agree_settle hrows rfl rfl hmine hcost) fun settled' settled hsettle' hsettle ↦
    .bind (.orThrow ?_) fun _ _ _ _ ↦ .of_ok _ _
  have hintents : settled.paymentIntents = db.paymentIntents := by
    rw [((lawful_targets config _).settle hsettle).2, hopened]
  have hintents' : settled'.paymentIntents = db'.paymentIntents := by
    rw [((lawful_targets config _).settle hsettle').2, hopened']
  rw [hintents, hintents']
  exact h.rows.exists_mark_iff hmem hmine (marksPosted_markSettled ..)

theorem agree_settleFromWallet {key : String} (hway : own.way = .wallet key) :
    Agree (settleFromWallet own.ctx db' (targets config own.intent.targetType) own.userId own.intent.id
        key)
      (settleFromWallet own.ctx db (targets config own.intent.targetType) own.userId own.intent.id
        key) := by
  rw [settleFromWallet, settleFromWallet, h.rows.find?_intent hmem]
  · refine .bind_same (fun _ ↦ Iff.rfl) fun i hi ↦ ?_
    have hfind := orThrow_eq_ok.mp hi
    have hp := Table.prop_of_find? hfind
    simp only [decide_eq_true_eq] at hp
    rw [db.paymentIntents.eq_of_clash (Table.mem_of_find? hfind) hmem (.inl (.inl (.inl hp.1)))]
    split
    · exact agree_settlePending hmem hfresh h hway
    · exact .of_ok _ _
  · intro i i' hid huser
    rw [hid, huser]
  · intro i hi
    simp only [decide_eq_true_eq] at hi
    exact hi.1

omit hfresh

/-- Depositing what was collected goes as before. -/
theorem agree_postDeposit (hway : own.way = .deposit) :
    Agree (postDeposit own.ctx db' own.intent) (postDeposit own.ctx db own.intent) := by
  have hwallets : db'.wallets = db.wallets := by rw [h.rows.after]
  rw [postDeposit, postDeposit, accountsFor_beside hwallets h.ledger]
  refine .bind_same (fun _ ↦ Iff.rfl) fun accounts haccounts ↦ ?_
  have hfound := accountsFor_eq_ok haccounts
  have hkey : (depositPosting own.intent accounts).idempotencyKey = own.ledgerKey := by
    rw [Settlement.ledgerKey, hway]
    rfl
  have hreference : (depositPosting own.intent accounts).reference = own.reference := by
    rw [Settlement.reference, hway]
    rfl
  refine .bind (h.ledger.agree_postWithin rfl rfl (.refl _) hkey hreference
    (exists_account_of_depositPosting hfound)
    (exists_account_of_depositPosting (hfound.mono fun _ ↦ h.ledger.accounts.mem))) ?_
  rintro ⟨posting', ledger'⟩ ⟨posting, ledger⟩ hpost' hpost
  have hid := h.ledger.id_eq rfl rfl hkey hkey hpost hpost'
  have hmark : markDeposited own.ctx posting' = markDeposited own.ctx posting := by
    unfold markDeposited
    rw [hid]
  dsimp only
  rw [hmark, updateRow, updateRow, h.rows.find?_intent hmem]
  · refine .bind (.bind_same (fun _ ↦ Iff.rfl) fun _ _ ↦ .orThrow ?_) fun _ _ _ _ ↦ .of_ok _ _
    exact h.rows.exists_mark_iff hmem (mine_of_postWithin hpost hkey) (marksPosted_markDeposited ..)
  · intro i i' hid _
    rw [hid]
  · intro i hi
    exact of_decide_eq_true hi

theorem agree_settleDeposit (hway : own.way = .deposit) :
    Agree (settleDeposit own.ctx db' own.intent.id) (settleDeposit own.ctx db own.intent.id) := by
  have hfind : db.paymentIntents.find? (fun i ↦ i.id = own.intent.id) = some own.intent :=
    db.paymentIntents.find?_eq_some_of_mem hmem (decide_eq_true rfl) fun i _ hi ↦
      .inl (.inl (.inl (of_decide_eq_true hi)))
  have hfind' : db'.paymentIntents.find? (fun i ↦ i.id = own.intent.id) = some own.intent := by
    rw [h.rows.find?_intent hmem, hfind]
    · intro i i' hid _
      rw [hid]
    · intro i hi
      exact of_decide_eq_true hi
  simp only [settleDeposit, hfind, hfind']
  split
  · exact .of_ok _ _
  · exact agree_postDeposit hmem h hway

end Settle

/-- **A settlement goes through in a database that lies beside just when it does in the first.** -/
theorem succeeds_beside (hmem : own.intent ∈ db.paymentIntents.rows)
    (hfresh : ∀ a ∈ db.ledger.accounts.rows, ¬ own.Drawn a.id) (h : Beside own db db') :
    own.Succeeds config db' ↔ own.Succeeds config db := by
  unfold Settlement.Succeeds
  cases hway : own.way with
  | wallet key => exact agree_settleFromWallet hmem hfresh h hway
  | deposit => exact agree_settleDeposit hmem h hway

end AjoCloud.Platform
