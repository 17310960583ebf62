import AjoCloud.Payments.Basic
import AjoCloud.Ledger.Accounts

/-!
# What the payment service did

For each operation of `PaymentsService`, what it did when it returned.
-/

namespace AjoCloud.Payments

open Lib Ledger Fees

variable {ctx : Ctx} {db db' : Db} {handler : PaymentTarget} {userId : Uuid}

/-! ## Creating an intent -/

/-- `create` stored nothing, or one intent for what the target resolved to. -/
inductive Created (ctx : Ctx) (db : Db) (handler : PaymentTarget) (userId : Uuid)
    (dto : CreateIntentDto) (key : String) (intent : PaymentIntent) (db' : Db) : Prop
  | /-- The key was there already. -/
    replayed (mem : intent ∈ db.paymentIntents.rows)
      (used : intent.userId = userId ∧ intent.idempotencyKey = key) (same : db' = db)
  | /-- The intent is new. -/
    stored (target : ResolvedTarget) (fee : Int) (paymentIntents : Table PaymentIntent)
      (resolve : handler.resolve ctx db userId dto.targetId dto.amountMinor = .ok target)
      (fee_eq : feeFor db handler target.amountMinor ctx.now = .ok fee)
      (intent_eq : intent = newIntent ctx db handler userId dto.targetId key target fee)
      (insert : db.paymentIntents.insert intent = some paymentIntents)
      (after : db' = { db with paymentIntents := paymentIntents })

theorem create_eq_ok {dto : CreateIntentDto} {key : String} {intent : PaymentIntent}
    (h : create ctx db handler userId dto key = .ok (intent, db')) :
    Created ctx db handler userId dto key intent db' := by
  unfold create at h
  split at h
  · next existing hex =>
      cases h
      have hused := Table.prop_of_find? hex
      simp only [decide_eq_true_eq] at hused
      exact .replayed (Table.mem_of_find? hex) hused rfl
  · simp only [createFresh, bind_eq_ok, require_eq_ok, orThrow_eq_ok, pure_eq_ok, exists_const,
      Prod.mk.injEq] at h
    obtain ⟨-, target, htarget, -, fee, hfee, -, intents, hins, rfl, rfl⟩ := h
    exact .stored target fee intents htarget hfee rfl hins rfl

/-- `create` only adds intents. -/
theorem Created.append {dto : CreateIntentDto} {key : String} {intent : PaymentIntent}
    (h : Created ctx db handler userId dto key intent db') :
    ∃ xs, db'.paymentIntents.rows = db.paymentIntents.rows ++ xs ∧
      db' = { db with paymentIntents := db'.paymentIntents } := by
  cases h with
  | replayed _ _ same =>
      subst same
      exact ⟨[], (List.append_nil _).symm, rfl⟩
  | stored _ _ intents _ _ _ hins after =>
      subst after
      exact ⟨[intent], Table.rows_of_insert hins, rfl⟩

/-! ## Settling from the wallet -/

/-- The accounts a wallet payment leaves from and pays its fee to. -/
structure IsPayer (db : Db) (walletId : Uuid) (currency : String) (payer : PayerAccounts) :
    Prop where
  available_mem : payer.available ∈ db.ledger.accounts.rows
  available_wallet : payer.available.walletId = some walletId
  available_purpose : payer.available.purpose = some .walletAvailable
  available_currency : payer.available.currency = currency
  feeRevenue_mem : payer.feeRevenue ∈ db.ledger.accounts.rows
  feeRevenue_purpose : payer.feeRevenue.purpose = some .platformFeeRevenue

theorem accounts_eq_ok {walletId : Uuid} {currency : String} {payer : PayerAccounts}
    (h : accounts db walletId currency = .ok payer) : IsPayer db walletId currency payer := by
  simp only [accounts, bind_eq_ok, orThrow_eq_ok, pure_eq_ok] at h
  obtain ⟨available, havail, fee, hfee, rfl⟩ := h
  have hap := Table.prop_of_find? havail
  have hfp := Table.prop_of_find? hfee
  simp only [decide_eq_true_eq] at hap hfp
  exact ⟨Table.mem_of_find? havail, hap.1, hap.2.1, hap.2.2.1, Table.mem_of_find? hfee, hfp.2.1⟩

/-- A settled intent is past confirmation. -/
theorem markSettled_status (ctx : Ctx) (handler : PaymentTarget) (posting : LedgerReference)
    (intent : PaymentIntent) :
    (markSettled ctx handler posting intent).status ≠ .requiresConfirmation := by
  simp only [markSettled]
  split
  · exact nofun
  · exact nofun

/-- The steps of a wallet settlement that went through. -/
structure WalletSettled (ctx : Ctx) (db : Db) (handler : PaymentTarget) (userId : Uuid)
    (intent : PaymentIntent) (key : String) (db' : Db) (target : ResolvedTarget)
    (payer : PayerAccounts) (destination : Uuid) (opened : Db) (posting : LedgerReference)
    (ledger : Ledger) (settled : Db) : Prop where
  resolve : handler.resolve ctx db userId intent.targetId
    (storedRequest handler intent.amountMinor) = .ok target
  amount : target.amountMinor = intent.amountMinor
  paidBy : ∃ walletId, IsPayer db walletId intent.currency payer
  credit : handler.creditAccount ctx db intent.targetId intent.currency = .ok (destination, opened)
  covered : intent.totalMinor ≤ opened.balance payer.available.id
  post : opened.ledger.postWithin (ctx.uuid 0)
    (walletPosting handler userId intent key target.description payer destination) =
      .ok (posting, ledger)
  settle : handler.settle ctx { opened with ledger := ledger }
    (settledPayment userId intent posting) = .ok settled
  intents : db'.paymentIntents.rows = settled.paymentIntents.rows.map fun i ↦
    if i.id = intent.id then markSettled ctx handler posting i else i
  after : db' = { settled with paymentIntents := db'.paymentIntents }

/-- `settleFromWallet` answered with an intent that is past confirmation, or settled it. -/
theorem settleFromWallet_eq_ok {intentId : Uuid} {key : String} {r : PaymentIntent}
    (h : settleFromWallet ctx db handler userId intentId key = .ok (r, db')) :
    ∃ intent ∈ db.paymentIntents.rows, intent.id = intentId ∧ intent.userId = userId ∧
      ((intent.status ≠ .requiresConfirmation ∧ db' = db) ∨
        (intent.status = .requiresConfirmation ∧
          ∃ target payer destination opened posting ledger settled,
            WalletSettled ctx db handler userId intent key db' target payer destination opened
              posting ledger settled)) := by
  rw [settleFromWallet, orThrow_bind_eq_ok] at h
  obtain ⟨intent, hfind, h⟩ := h
  have hp := Table.prop_of_find? hfind
  simp only [decide_eq_true_eq] at hp
  refine ⟨intent, Table.mem_of_find? hfind, hp.1, hp.2, ?_⟩
  split at h
  · next hst =>
      simp only [settlePending, bind_eq_ok, require_eq_ok, orThrow_eq_ok, pure_eq_ok, exists_const,
        Prod.exists, Prod.mk.injEq, canPayFromWallet, decide_eq_true_eq] at h
      obtain ⟨walletId, -, target, hresolve, hamount, payer, hpayer, destination, opened, hcredit,
        hcovered, posting, ledger, hpost, settled, hsettle, intents, hupdate, -, rfl⟩ := h
      refine .inr ⟨hst, target, payer, destination, opened, posting, ledger, settled, hresolve,
        hamount, ⟨walletId, accounts_eq_ok hpayer⟩, hcredit, hcovered, hpost, hsettle, ?_, rfl⟩
      rw [Table.rows_of_update hupdate]
      simp only [decide_eq_true_eq]
  · next hst =>
      rw [pure_eq_ok, Prod.mk.injEq] at h
      exact .inl ⟨hst, h.2.symm⟩

/-- The accounts a wallet settlement posts to. -/
theorem mem_entries_walletPosting {intent : PaymentIntent} {key description : String}
    {payer : PayerAccounts} {destination : Uuid} {e : LedgerPostingEntry}
    (h : e ∈ (walletPosting handler userId intent key description payer destination).entries) :
    e.accountId = payer.available.id ∨ e.accountId = destination ∨
      e.accountId = payer.feeRevenue.id := by
  simp only [walletPosting, List.cons_append, List.nil_append, List.mem_cons] at h
  rcases h with rfl | rfl | h
  · exact .inl rfl
  · exact .inr (.inl rfl)
  · split at h
    · rw [List.mem_singleton] at h
      exact .inr (.inr (h ▸ rfl))
    · cases h

/-- What a wallet settlement brings to its destination. -/
theorem net_walletPosting {intent : PaymentIntent} {key description : String}
    {payer : PayerAccounts} {destination : Uuid} (ha : payer.available.id ≠ destination)
    (hf : payer.feeRevenue.id ≠ destination) :
    Journal.net (walletPosting handler userId intent key description payer destination).legs
      destination = if handler.holdsFee then intent.totalMinor else intent.amountMinor := by
  -- The fee line, if there is one, goes to another account.
  have hextra : Journal.net (List.map (fun e : LedgerPostingEntry ↦ e.leg)
      (if 0 < intent.feeMinor ∧ ¬ handler.holdsFee then
        [⟨payer.feeRevenue.id, .credit, intent.feeMinor⟩] else [])) destination = 0 := by
    split
    · simp [LedgerPostingEntry.leg, Journal.net_cons, hf]
    · rfl
  simp only [walletPosting, LedgerPostingCommand.legs, List.cons_append, List.nil_append,
    List.map_cons, Journal.net_cons, hextra]
  simp only [LedgerPostingEntry.leg, ha, if_false, if_true, zero_add, add_zero,
    EntryDirection.signed_credit]

/-- A wallet settlement that is credited to one account of a family moves no other account of the
family. -/
theorem codeBalance_walletPosting {code : Uuid → String} {p : FinancialAccountPurpose}
    (hf : Family code p) (havailable : p ≠ .walletAvailable) (hrevenue : p ≠ .platformFeeRevenue)
    {id walletId g : Uuid} {currency key description : String} {payer : PayerAccounts}
    {intent : PaymentIntent} {ledger ledger' : Ledger} {a : FinancialAccount}
    (hpayer : IsPayer db walletId currency payer) (hopened : Opened db.ledger ledger)
    (h : ledger.createTransaction (postedTransaction id
      (walletPosting handler userId intent key description payer a.id)) = .ok ledger')
    (ha : a ∈ ledger.accounts.rows) (hcode : a.code = code g) (g' : Uuid) :
    ledger'.codeBalance (code g') = ledger.codeBalance (code g') +
      if g' = g then (if handler.holdsFee then intent.totalMinor else intent.amountMinor) else 0 := by
  have hpurpose : a.purpose = some p := purpose_of_codePurpose (hcode ▸ hf.codePurpose g)
  have havail := hopened.accounts _ hpayer.available_mem
  have hfee := hopened.accounts _ hpayer.feeRevenue_mem
  have havail' : payer.available.purpose ≠ some p := by
    rw [hpayer.available_purpose]
    exact fun e ↦ havailable (Option.some.inj e).symm
  have hfee' : payer.feeRevenue.purpose ≠ some p := by
    rw [hpayer.feeRevenue_purpose]
    exact fun e ↦ hrevenue (Option.some.inj e).symm
  rw [hf.codeBalance_posting h ha hcode fun e he ↦ ?_, net_walletPosting
    (id_ne_of_purpose havail ha (hpurpose ▸ havail')) (id_ne_of_purpose hfee ha (hpurpose ▸ hfee'))]
  rcases mem_entries_walletPosting he with he | he | he
  · exact .inr ⟨_, havail, he.symm, havail'⟩
  · exact .inl he
  · exact .inr ⟨_, hfee, he.symm, hfee'⟩

/-- Settling an intent leaves the intents that are past confirmation there. -/
theorem intents_of_settled {posting : LedgerReference}
    {intents intents' : List PaymentIntent} {intent : PaymentIntent}
    (h : intents' = intents.map fun i ↦
      if i.id = intent.id then markSettled ctx handler posting i else i)
    {x : PaymentIntent} (hx : x ∈ intents)
    (hst : x.status ≠ .requiresConfirmation ∨ x.id = intent.id) :
    ∃ x' ∈ intents', x'.id = x.id ∧ x'.status ≠ .requiresConfirmation := by
  refine ⟨_, h ▸ List.mem_map_of_mem hx, ?_⟩
  split
  · exact ⟨rfl, markSettled_status ctx handler posting x⟩
  · next hne => exact ⟨rfl, hst.resolve_right hne⟩

/-- Whatever was posted for an intent, the intent is past confirmation. -/
def IntentsPosted (db : Db) : Prop :=
  ∀ t ∈ db.ledger.transactions.rows, ∀ id key, t.idempotencyKey = intentKey id key →
    ∃ i ∈ db.paymentIntents.rows, i.id = id ∧ i.status ≠ .requiresConfirmation

theorem IntentsPosted.congr (h : IntentsPosted db) (hledger : db'.ledger = db.ledger)
    (hintents : db'.paymentIntents = db.paymentIntents) : IntentsPosted db' := by
  intro t ht
  rw [hledger] at ht
  rw [hintents]
  exact h t ht

/-- Nothing was posted for any intent. -/
theorem intentsPosted_of_unposted (h : ∀ t ∈ db.ledger.transactions.rows,
    ¬ "payment-intent:".toList.isPrefixOf t.idempotencyKey.toList = true) : IntentsPosted db := by
  intro t ht i k hk
  refine absurd ?_ (h t ht)
  rw [hk, intentKey, String.append_assoc]
  exact isPrefixOf_append _ _

/-- New intents leave those that are past confirmation there. -/
theorem IntentsPosted.append (h : IntentsPosted db) (hledger : db'.ledger = db.ledger)
    {xs : List PaymentIntent} (hintents : db'.paymentIntents.rows = db.paymentIntents.rows ++ xs) :
    IntentsPosted db' := by
  intro t ht i k hk
  rw [hledger] at ht
  obtain ⟨x, hx, hid, hst⟩ := h t ht i k hk
  exact ⟨x, hintents ▸ List.mem_append_left _ hx, hid, hst⟩

/-- The settlement of an intent that was awaiting confirmation posted a transaction of its own. -/
theorem WalletSettled.posted {intent : PaymentIntent} {key : String} {target : ResolvedTarget}
    {payer : PayerAccounts} {destination : Uuid} {opened settled : Db} {posting : LedgerReference}
    {ledger : Ledger}
    (h : WalletSettled ctx db handler userId intent key db' target payer destination opened posting
      ledger settled) (hposted : IntentsPosted db) (hmem : intent ∈ db.paymentIntents.rows)
    (hst : intent.status = .requiresConfirmation) (hopened : Opened db.ledger opened.ledger)
    (hledger : settled.ledger = ledger) (hintents : settled.paymentIntents = db.paymentIntents) :
    posting.id = ctx.uuid 0 ∧
      opened.ledger.createTransaction (postedTransaction (ctx.uuid 0)
        (walletPosting handler userId intent key target.description payer destination)) =
          .ok ledger ∧
      db'.ledger.transactions.rows = db.ledger.transactions.rows ++ [postedTransaction (ctx.uuid 0)
        (walletPosting handler userId intent key target.description payer destination)] ∧
      IntentsPosted db' := by
  have hdb' := h.after
  -- An intent's key in the ledger would belong to an intent that is past confirmation.
  cases (postWithin_eq_ok h.post).2 with
  | replayed existing hex hk _ _ =>
      rw [hopened.transactions] at hex
      obtain ⟨i, hi, hiid, hist⟩ := hposted existing hex intent.id key hk
      exact absurd (db.paymentIntents.eq_of_clash hi hmem (.inl (.inl (.inl hiid))) ▸ hst) hist
  | appended _ created ref_eq =>
      have htx := (createTransaction_eq_ok created).2.2.2.2
      rw [hopened.transactions, ← hledger] at htx
      have htx' : db'.ledger.transactions.rows = db.ledger.transactions.rows ++
          [postedTransaction (ctx.uuid 0) (walletPosting handler userId intent key
            target.description payer destination)] := by
        rw [hdb']
        exact htx
      refine ⟨by rw [ref_eq], created, htx', fun t ht i k hk ↦ ?_⟩
      have hrows := h.intents
      rw [hintents] at hrows
      rw [htx', List.mem_append, List.mem_singleton] at ht
      rcases ht with ht | rfl
      · obtain ⟨x, hx, hxid, hxst⟩ := hposted t ht i k hk
        obtain ⟨x', hx', hid', hst'⟩ := intents_of_settled hrows hx (.inl hxst)
        exact ⟨x', hx', hid'.trans hxid, hst'⟩
      · obtain ⟨x', hx', hid', hst'⟩ := intents_of_settled hrows hmem (.inr rfl)
        exact ⟨x', hx', hid'.trans (intentKey_inj hk), hst'⟩

end AjoCloud.Payments
