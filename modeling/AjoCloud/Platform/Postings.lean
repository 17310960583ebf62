import AjoCloud.Platform.Keys

/-!
# What a call posts, and for which record

A call makes one posting at most.  `Makes` says under which origin, and `Owned` that the record of
the origin is stored by the end of the call; no later call takes it away, so that every key of the
ledger has its record in every state.
-/

namespace AjoCloud.Platform

open Lib Ledger Payments Bills

/-- The operation and the record that a call posts for. -/
inductive Performs (db : Db) : Call → Origin → Prop
  | send {ctx : Ctx} {userId : Uuid} {dto : Wallets.SendToWalletDto} {key : String} :
      Performs db (.send ctx userId dto key) (.transfer key)
  | withdraw {ctx : Ctx} {userId : Uuid} {dto : Wallets.WithdrawDto} {key : String} :
      Performs db (.withdraw ctx userId dto key) (.withdrawal key)
  | payContribution {ctx : Ctx} {userId g scheduleId : Uuid} {dto : Ajo.PayContributionDto} :
      Performs db (.ajo (.payContribution ctx userId g scheduleId dto))
        (.contribution scheduleId dto.idempotencyKey)
  | executePayout {ctx : Ctx} {userId g id : Uuid} :
      Performs db (.ajo (.executePayout ctx userId g id)) (.payout id)
  | settleIntent {ctx : Ctx} {userId intentId : Uuid} {key : String} :
      Performs db (.ajo (.settleIntent ctx userId intentId key)) (.confirmation intentId key)
  | settleFromWallet {ctx : Ctx} {userId intentId : Uuid} {key : String} :
      Performs db (.settleFromWallet ctx userId intentId key) (.confirmation intentId key)
  | settleDeposit {ctx : Ctx} {intentId : Uuid} :
      Performs db (.settleDeposit ctx intentId) (.deposit intentId)
  | reserveBill {ctx : Ctx} {validation : BillCustomerValidation} {userId : Uuid}
      {key hash : String} {dto : CreateBillPaymentDto} :
      Performs db (.reserveBill ctx validation userId key hash dto) (.bill .reserve (ctx.uuid 2))
  | applyProviderResult {ctx : Ctx} {paymentId userId : Uuid} {result : ProviderBillPayment}
      (event : BillEvent) (answers : event ≠ .reserve) :
      Performs db (.applyProviderResult ctx paymentId userId result) (.bill event paymentId)
  | cancelSubscription {ctx : Ctx} {userId programmeId : Uuid} (subscription : FoodSubscription)
      (enrolled : subscription ∈ db.food.subscriptions.rows ∧ subscription.userId = userId) :
      Performs db (.cancelSubscription ctx userId programmeId)
        (.refund subscription.id (subscription.paidAt.getD 0))
  | award {ctx : Ctx} {input : Referrals.DepositSettled} {referral : Referral}
      {campaign : Referrals.CampaignTerms} :
      Performs db (.award ctx input referral campaign) (.reward referral.id campaign.version)

/-- The posting a call made: on the ledger with the accounts it opened, under the key of its
origin. -/
structure Makes (db db' : Db) (call : Call) (o : Origin) (mid : Ledger) (id : Uuid)
    (command : LedgerPostingCommand) (posting : LedgerReference) : Prop where
  performs : Performs db call o
  opens : Opened db.ledger mid
  key : command.idempotencyKey = o.key
  post : mid.postWithin id command = .ok (posting, db'.ledger)

/-- The record of the origin is stored. -/
def Owned (db : Db) : Origin → Prop
  | .transfer key => ∃ x ∈ db.transfers.rows, x.idempotencyKey = key
  | .withdrawal key => ∃ x ∈ db.withdrawals.rows, x.idempotencyKey = key
  | .contribution scheduleId callerKey => ∃ x ∈ db.contributions.rows,
      x.idempotencyKey = Ajo.contributionIdempotencyKey scheduleId callerKey
  | .payout id => ∃ x ∈ db.payouts.rows, x.idempotencyKey = Ajo.payoutIdempotencyKey id
  | .confirmation intentId _ => ∃ x ∈ db.paymentIntents.rows, x.id = intentId ∧
      x.status ≠ .requiresConfirmation
  | .deposit intentId => ∃ x ∈ db.paymentIntents.rows, x.id = intentId
  | .bill _ paymentId => ∃ x ∈ db.bills.payments.rows, x.id = paymentId
  | .refund _ _ | .reward _ _ => True

variable {config : BillConfig} {db db' : Db} {call : Call}

/-! ## Every posting has an origin -/

/-- The key of a bill's reserve, as `create` writes it. -/
theorem key_reserve (id : Uuid) : "bill-reserve:" ++ id.toString = (Origin.bill .reserve id).key := by
  rw [Origin.key_eq]
  exact congrArg ("bill-reserve:" ++ ·) String.append_empty.symm

theorem Handled.makes {ctx : Ctx} {paymentId : Uuid} {answer : Option ProviderBillPayment}
    (h : Handled ctx paymentId answer db db') :
    db'.ledger = db.ledger ∨ ∃ event id command posting, event ≠ BillEvent.reserve ∧
      command.idempotencyKey = (Origin.bill event paymentId).key ∧
      db.ledger.postWithin id command = .ok (posting, db'.ledger) ∧
      ∃ x ∈ db'.bills.payments.rows, x.id = paymentId := by
  have hstored : ∀ {payment status reconciliation}, payment ∈ db.bills.payments.rows →
      payment.id = paymentId → Rewritten db db' payment.id status reconciliation →
      ∃ x ∈ db'.bills.payments.rows, x.id = paymentId := by
    intro payment status reconciliation hmem hid hr
    obtain ⟨x, hx, hterms, -⟩ := hr.exists_of_mem hmem rfl
    exact ⟨x, hx, (congrArg BillTerms.id hterms).trans hid⟩
  cases h with
  | nothing same => exact .inl (congrArg Db.ledger same)
  | released payment _ _ mem id_eq _ _ post bills _ =>
      exact .inr ⟨.release, _, _, _, nofun, congrArg (billKey "release:") id_eq, post,
        hstored mem id_eq bills⟩
  | settled payment _ _ mem id_eq _ _ post bills _ =>
      exact .inr ⟨.settle, _, _, _, nofun, congrArg (billKey "settle:") id_eq, post,
        hstored mem id_eq bills⟩
  | reversed payment _ _ _ mem id_eq _ _ post bills _ =>
      exact .inr ⟨.reversal, _, _, _, nofun, congrArg (billKey "reversal:") id_eq, post,
        hstored mem id_eq bills⟩
  | uncertain _ ledger _ _ => exact .inl ledger

/-- A call makes one posting at most, for a record that is stored with it. -/
theorem Effect.makes (h : Effect config db db' call) :
    Opened db.ledger db'.ledger ∨ ∃ o mid id command posting,
      Makes db db' call o mid id command posting ∧ Owned db' o := by
  cases h with
  | idle opens _ => exact .inl opens
  | sent source destination sender receiver posting done =>
      refine .inr ⟨.transfer _, _, _, _, posting, ⟨.send, .refl _, rfl, done.post⟩, ?_⟩
      exact ⟨_, Table.mem_of_insert done.insert, rfl⟩
  | withdrew wallet bank available reserved posting done =>
      refine .inr ⟨.withdrawal _, _, _, _, posting, ⟨.withdraw, .refl _, rfl, done.post⟩, ?_⟩
      exact ⟨_, Table.mem_of_insert done.insert, rfl⟩
  | contributed member schedule wallet pool opened posting done =>
      refine .inr ⟨.contribution _ _, _, _, _, posting,
        ⟨.payContribution, done.opens, rfl, done.post⟩, ?_⟩
      exact ⟨_, done.contributions ▸ List.mem_append_right _ (List.mem_singleton_self _), rfl⟩
  | paidOut r slot p recipient wallet pool opened posting _ _ done =>
      obtain ⟨-, hopens, -⟩ := Ajo.poolAccountWithin_eq_ok done.credit
      refine .inr ⟨.payout r.id, _, _, _, posting, ⟨.executePayout, hopens, rfl, done.post⟩, ?_⟩
      refine ⟨p, ?_, ?_⟩
      · rw [done.payouts]
        exact List.mem_append_right _ (List.mem_singleton_self _)
      · rw [done.row]
        rfl
  | created _ ledger _ _ _ =>
      rw [ledger]
      exact .inl (.refl _)
  | paid ctx userId intent key walletId target payer destination opened posting settled done asked =>
      have hperforms : Performs db call (.confirmation intent.id key) := by
        cases asked with
        | payment => exact .settleFromWallet
        | contribution _ => exact .settleIntent
      refine .inr ⟨.confirmation intent.id key, _, _, _, posting,
        ⟨hperforms, done.opens, rfl, done.post⟩, ?_⟩
      refine ⟨markSettled ctx (targets config intent.targetType) posting intent, ?_, rfl,
        markSettled_status _ _ _ _⟩
      rw [done.intents]
      exact List.mem_map.mpr ⟨intent, done.mem, if_pos rfl⟩
  | charged _ _ _ ledger _ _ =>
      rw [ledger]
      exact .inl (.refl _)
  | @banked ctx intent wallet accounts posting done =>
      refine .inr ⟨.deposit intent.id, _, _, _, posting,
        ⟨.settleDeposit, .refl _, rfl, done.deposited.post⟩, ?_⟩
      refine ⟨markDeposited ctx posting intent, ?_, rfl⟩
      rw [done.deposited.intents]
      exact List.mem_map.mpr ⟨intent, done.deposited.mem, if_pos rfl⟩
  | failed same =>
      rw [same]
      exact .inl (.refl _)
  | reserved wallet feeMinor found posting done =>
      refine .inr ⟨.bill .reserve _, _, _, _, posting,
        ⟨.reserveBill, .refl _, key_reserve _, done.post⟩, ?_⟩
      exact ⟨_, Table.mem_of_insert done.insert, rfl⟩
  | answered done _ =>
      obtain hledger | ⟨event, id, command, posting, hevent, hkey, hpost, hstored⟩ :=
        Handled.makes done
      · rw [hledger]
        exact .inl (.refl _)
      · exact .inr ⟨.bill event _, _, id, command, posting,
          ⟨.applyProviderResult event hevent, .refl _, hkey, hpost⟩, hstored⟩
  | unanswered _ _ ledger =>
      rw [ledger]
      exact .inl (.refl _)
  | refunded subscription currency wallet escrow available opened posting done =>
      exact .inr ⟨.refund subscription.id (subscription.paidAt.getD 0), _, _, _, posting,
        ⟨.cancelSubscription subscription done.enrolled, done.opens, rfl, done.post⟩, trivial⟩
  | rewarded expense available opened posting done =>
      exact .inr ⟨.reward _ _, _, _, _, posting, ⟨.award, done.opens, rfl, done.post⟩, trivial⟩
  | elsewhere change same =>
      rw [same]
      exact .inl (change.opens db)

/-! ## Records are kept -/

/-- The rest of the platform leaves the records of payments to the services that write them. -/
def Apart (db : Db) : Call → Prop
  | .elsewhere change => (change.update db).transfers = db.transfers ∧
      (change.update db).withdrawals = db.withdrawals ∧
      (change.update db).contributions = db.contributions ∧
      (change.update db).payouts = db.payouts ∧
      (change.update db).bills.payments = db.bills.payments
  | _ => True

instance (db : Db) : (call : Call) → Decidable (Apart db call)
  | .elsewhere change => inferInstanceAs (Decidable
      ((change.update db).transfers = db.transfers ∧
        (change.update db).withdrawals = db.withdrawals ∧
        (change.update db).contributions = db.contributions ∧
        (change.update db).payouts = db.payouts ∧
        (change.update db).bills.payments = db.bills.payments))
  | .send .. | .withdraw .. | .ajo _ | .createIntent .. | .settleFromWallet .. | .startExternal ..
  | .settleDeposit .. | .failIntent .. | .reserveBill .. | .applyProviderResult ..
  | .markUncertain .. | .cancelSubscription .. | .award .. => inferInstanceAs (Decidable True)

/-- What was recorded is still there. -/
structure Grows (r r' : Records) : Prop where
  transfers : ∀ x ∈ r.transfers.rows, x ∈ r'.transfers.rows
  withdrawals : ∀ x ∈ r.withdrawals.rows, x ∈ r'.withdrawals.rows
  contributions : ∀ x ∈ r.contributions.rows, x ∈ r'.contributions.rows
  payouts : ∀ x ∈ r.payouts.rows, x ∈ r'.payouts.rows
  /-- No intent awaits confirmation again. -/
  intents : ∀ x ∈ r.intents.rows, ∃ x' ∈ r'.intents.rows, x'.id = x.id ∧
    (x.status ≠ .requiresConfirmation → x'.status ≠ .requiresConfirmation)
  bills : ∀ x ∈ r.bills.rows, ∃ x' ∈ r'.bills.rows, x'.id = x.id

theorem Grows.refl (r : Records) : Grows r r where
  transfers _ hx := hx
  withdrawals _ hx := hx
  contributions _ hx := hx
  payouts _ hx := hx
  intents x hx := ⟨x, hx, rfl, fun h ↦ h⟩
  bills x hx := ⟨x, hx, rfl⟩

theorem Owned.mono {o : Origin} (h : Owned db o) (hg : Grows (records db) (records db')) :
    Owned db' o := by
  cases o with
  | transfer key =>
      obtain ⟨x, hx, hkey⟩ := h
      exact ⟨x, hg.transfers x hx, hkey⟩
  | withdrawal key =>
      obtain ⟨x, hx, hkey⟩ := h
      exact ⟨x, hg.withdrawals x hx, hkey⟩
  | contribution scheduleId callerKey =>
      obtain ⟨x, hx, hkey⟩ := h
      exact ⟨x, hg.contributions x hx, hkey⟩
  | payout id =>
      obtain ⟨x, hx, hkey⟩ := h
      exact ⟨x, hg.payouts x hx, hkey⟩
  | confirmation intentId key =>
      obtain ⟨x, hx, hid, hst⟩ := h
      obtain ⟨x', hx', hid', hst'⟩ := hg.intents x hx
      exact ⟨x', hx', hid'.trans hid, hst' hst⟩
  | deposit intentId =>
      obtain ⟨x, hx, hid⟩ := h
      obtain ⟨x', hx', hid', -⟩ := hg.intents x hx
      exact ⟨x', hx', hid'.trans hid⟩
  | bill event paymentId =>
      obtain ⟨x, hx, hid⟩ := h
      obtain ⟨x', hx', hid'⟩ := hg.bills x hx
      exact ⟨x', hx', hid'.trans hid⟩
  | refund subscriptionId paidAt => trivial
  | reward referralId campaignVersion => trivial

/-- The intents of a call that rewrites the one with an identifier. -/
theorem intents_of_map {id : Uuid} {f : PaymentIntent → PaymentIntent}
    (hrows : db'.paymentIntents.rows = db.paymentIntents.rows.map fun i ↦
      if i.id = id then f i else i)
    (hid : ∀ i, (f i).id = i.id) (hst : ∀ i, (f i).status ≠ .requiresConfirmation) :
    ∀ x ∈ db.paymentIntents.rows, ∃ x' ∈ db'.paymentIntents.rows, x'.id = x.id ∧
      (x.status ≠ .requiresConfirmation → x'.status ≠ .requiresConfirmation) := by
  intro x hx
  refine ⟨if x.id = id then f x else x, ?_, ?_⟩
  · rw [hrows]
    exact List.mem_map_of_mem hx
  · split
    · exact ⟨hid x, fun _ ↦ hst x⟩
    · exact ⟨rfl, fun h ↦ h⟩

/-- The bills of an answer: none is lost. -/
theorem Handled.bills_kept {ctx : Ctx} {paymentId : Uuid} {answer : Option ProviderBillPayment}
    (h : Handled ctx paymentId answer db db') :
    ∀ x ∈ db.bills.payments.rows, ∃ x' ∈ db'.bills.payments.rows, x'.id = x.id := by
  have hrewritten : ∀ {id status reconciliation}, Rewritten db db' id status reconciliation →
      ∀ x ∈ db.bills.payments.rows, ∃ x' ∈ db'.bills.payments.rows, x'.id = x.id := by
    intro id status reconciliation hr x hx
    by_cases hid : x.id = id
    · obtain ⟨x', hx', hterms, -⟩ := hr.exists_of_mem hx hid
      exact ⟨x', hx', congrArg BillTerms.id hterms⟩
    · exact ⟨x, hr.mem_of_ne hx hid, rfl⟩
  cases h with
  | nothing same =>
      rw [same]
      exact fun x hx ↦ ⟨x, hx, rfl⟩
  | released _ _ _ _ _ _ _ _ bills _ => exact hrewritten bills
  | settled _ _ _ _ _ _ _ _ bills _ => exact hrewritten bills
  | reversed _ _ _ _ _ _ _ _ _ bills _ => exact hrewritten bills
  | uncertain _ _ bills _ => exact hrewritten bills

/-- The intents of an answer: one that is in process may be settled. -/
theorem Handled.intents_kept {ctx : Ctx} {paymentId : Uuid} {answer : Option ProviderBillPayment}
    (h : Handled ctx paymentId answer db db') :
    ∀ x ∈ db.paymentIntents.rows, ∃ x' ∈ db'.paymentIntents.rows, x'.id = x.id ∧
      (x.status ≠ .requiresConfirmation → x'.status ≠ .requiresConfirmation) := by
  have hsynced : ∀ {id status}, Synced db db' id status → status ≠ .requiresConfirmation →
      ∀ x ∈ db.paymentIntents.rows, ∃ x' ∈ db'.paymentIntents.rows, x'.id = x.id ∧
        (x.status ≠ .requiresConfirmation → x'.status ≠ .requiresConfirmation) := by
    rintro id status ⟨f, hrows, hterms, hst, -⟩ hne x hx
    refine ⟨if id = some x.id ∧ x.status = .processing then f x else x, ?_, ?_⟩
    · rw [hrows]
      exact List.mem_map_of_mem hx
    · split
      · exact ⟨congrArg IntentTerms.id (hterms x), fun _ ↦ hst x ▸ hne⟩
      · exact ⟨rfl, fun h ↦ h⟩
  have hsame : db'.paymentIntents = db.paymentIntents → ∀ x ∈ db.paymentIntents.rows,
      ∃ x' ∈ db'.paymentIntents.rows, x'.id = x.id ∧
        (x.status ≠ .requiresConfirmation → x'.status ≠ .requiresConfirmation) := by
    intro hintents x hx
    rw [hintents]
    exact ⟨x, hx, rfl, fun h ↦ h⟩
  cases h with
  | nothing same => exact hsame (congrArg Db.paymentIntents same)
  | released _ _ _ _ _ _ _ _ _ intents => exact hsynced intents nofun
  | settled _ _ _ _ _ _ _ _ _ intents => exact hsynced intents nofun
  | reversed _ _ _ _ _ _ _ _ _ _ intents => exact hsame intents
  | uncertain _ _ _ intents => exact hsame intents

theorem Recorded.grows {ctx : Ctx} {payment : SettledPayment} {type : PaymentTargetType}
    (h : Recorded config ctx payment db db' type) : Grows (records db) (records db') := by
  cases h with
  | elsewhere _ after =>
      rw [after]
      exact .refl _
  | contribution _ _ _ _ _ _ rows after =>
      rw [after]
      exact { Grows.refl (records db) with
        contributions := fun x hx ↦ rows ▸ List.mem_append_left _ hx }
  | bill _ _ _ _ insert after =>
      rw [after]
      exact { Grows.refl (records db) with
        bills := fun x hx ↦ ⟨x, Table.rows_of_insert insert ▸ List.mem_append_left _ hx, rfl⟩ }

/-- No call takes a record away. -/
theorem Effect.grows (h : Effect config db db' call) (ha : Apart db call) :
    Grows (records db) (records db') := by
  cases h with
  | idle _ after =>
      rw [after]
      exact .refl _
  | sent _ _ _ _ _ done =>
      rw [done.after]
      exact { Grows.refl (records db) with
        transfers := fun x hx ↦ Table.rows_of_insert done.insert ▸ List.mem_append_left _ hx }
  | withdrew _ _ _ _ _ done =>
      rw [done.after]
      exact { Grows.refl (records db) with
        withdrawals := fun x hx ↦ Table.rows_of_insert done.insert ▸ List.mem_append_left _ hx }
  | contributed _ _ _ _ _ _ done =>
      rw [done.after]
      exact { Grows.refl (records db) with
        contributions := fun x hx ↦ done.contributions ▸ List.mem_append_left _ hx }
  | paidOut _ _ _ _ _ _ opened _ _ _ done =>
      have hopened : opened.payouts = db.payouts := by
        rw [(Ajo.poolAccountWithin_eq_ok done.credit).1]
      rw [done.records]
      exact { Grows.refl (records db) with
        payouts := fun x hx ↦ done.payouts ▸ List.mem_append_left _ (hopened ▸ hx) }
  | created _ _ _ insert after =>
      rw [after]
      exact { Grows.refl (records db) with
        intents := fun x hx ↦
          ⟨x, Table.rows_of_insert insert ▸ List.mem_append_left _ hx, rfl, fun h ↦ h⟩ }
  | paid ctx userId intent key walletId target payer destination opened posting settled done _ =>
      have hg := done.record.grows
      have hopened : records { opened with ledger := db'.ledger } = records db := by
        rw [done.opened_eq]
        rfl
      rw [hopened] at hg
      rw [done.after]
      exact { hg with
        intents := intents_of_map done.intents (fun _ ↦ rfl) (markSettled_status ctx _ posting) }
  | charged _ _ _ _ intents after =>
      rw [after]
      exact { Grows.refl (records db) with
        intents := intents_of_map intents (fun _ ↦ rfl) fun _ ↦ nofun }
  | banked _ _ _ _ done =>
      rw [done.after]
      exact { Grows.refl (records db) with
        intents := intents_of_map done.deposited.intents (fun _ ↦ rfl) fun _ ↦ nofun }
  | @failed intentId reason same =>
      subst same
      exact { Grows.refl (records db) with
        intents := intents_of_map (rows_failIntent db intentId reason) (fun _ ↦ rfl)
          fun _ ↦ nofun }
  | reserved _ _ _ _ done =>
      rw [done.after]
      exact { Grows.refl (records db) with
        bills := fun x hx ↦ ⟨x, Table.rows_of_insert done.insert ▸ List.mem_append_left _ hx, rfl⟩ }
  | answered done kept =>
      rw [show records db' = _ from kept]
      exact { Grows.refl (records db) with
        intents := Handled.intents_kept done
        bills := Handled.bills_kept done }
  | unanswered done kept _ =>
      rw [show records db' = _ from kept]
      exact { Grows.refl (records db) with
        intents := Handled.intents_kept done
        bills := Handled.bills_kept done }
  | refunded _ _ _ _ _ _ _ done =>
      rw [done.after]
      exact .refl _
  | rewarded _ _ _ _ done =>
      rw [done.after]
      exact .refl _
  | elsewhere change same =>
      obtain ⟨htransfers, hwithdrawals, hcontributions, hpayouts, hbills⟩ := ha
      subst same
      exact {
        transfers := fun x hx ↦ show x ∈ (change.update db).transfers.rows from htransfers ▸ hx
        withdrawals := fun x hx ↦ show x ∈ (change.update db).withdrawals.rows from
          hwithdrawals ▸ hx
        contributions := fun x hx ↦ show x ∈ (change.update db).contributions.rows from
          hcontributions ▸ hx
        payouts := fun x hx ↦ show x ∈ (change.update db).payouts.rows from hpayouts ▸ hx
        intents := fun x hx ↦ ⟨x, show x ∈ (change.update db).paymentIntents.rows from
          change.intents db ▸ hx, rfl, fun h ↦ h⟩
        bills := fun x hx ↦ ⟨x, show x ∈ (change.update db).bills.payments.rows from hbills ▸ hx,
          rfl⟩ }

/-! ## Every key has its record -/

/-- Every key of the ledger has its record. -/
def KeysOwned (db : Db) : Prop :=
  ∀ t ∈ db.ledger.transactions.rows, ∀ o : Origin, t.idempotencyKey = o.key → Owned db o

theorem KeysOwned.step (h : KeysOwned db) (ha : Apart db call) :
    KeysOwned (step config db call) := by
  have heffect := step_effect config db call
  generalize Platform.step config db call = db' at heffect ⊢
  have hgrows := heffect.grows ha
  intro t ht o hkey
  rcases heffect.makes with hopened | ⟨o', mid, id, command, posting, hmakes, howned⟩
  · rw [hopened.transactions] at ht
    exact (h t ht o hkey).mono hgrows
  · cases (postWithin_eq_ok hmakes.post).2 with
    | replayed _ _ _ _ same =>
        rw [same, hmakes.opens.transactions] at ht
        exact (h t ht o hkey).mono hgrows
    | appended _ created _ =>
        rw [(createTransaction_eq_ok created).2.2.2.2, hmakes.opens.transactions] at ht
        rcases List.mem_append.mp ht with ht | ht
        · exact (h t ht o hkey).mono hgrows
        · have ho : o' = o := by
            refine Origin.key_inj (hmakes.key.symm.trans ?_)
            rw [← hkey, List.mem_singleton.mp ht]
            rfl
          exact ho ▸ howned

end AjoCloud.Platform
