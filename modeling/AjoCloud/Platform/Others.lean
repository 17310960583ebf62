import AjoCloud.Platform.Solvency
import AjoCloud.Platform.Undisturbed

/-!
# What others settle lies beside

The settlement of another user's intent, under identifiers of its own and with another reference, leaves
a database beside the one it found.
-/

namespace AjoCloud.Platform

open Lib Ledger Payments

/-- The key is one under which settlements of the intent post. -/
def SettlementKey (intentId : Uuid) (key : String) : Prop :=
  (∃ k, key = intentKey intentId k) ∨ key = depositKey intentId

theorem SettlementKey.unique {i j : Uuid} {key : String} (h : SettlementKey i key)
    (h' : SettlementKey j key) : i = j := by
  have hne : ∀ i j k, intentKey i k ≠ depositKey j := fun i j k heq ↦
    append_ne_append 9 (by simp) (by simp) (by simp) _ _ (String.append_assoc.symm.trans heq)
  rcases h with ⟨k, rfl⟩ | rfl
  · rcases h' with ⟨k', heq⟩ | heq
    · exact intentKey_inj heq
    · exact absurd heq (hne i j k)
  · rcases h' with ⟨k', heq⟩ | heq
    · exact absurd heq.symm (hne j i k')
    · exact Uuid.toString_inj ((String.append_right_inj _).mp heq)

theorem Settlement.ledgerKey_settles (own : Settlement) :
    SettlementKey own.intent.id own.ledgerKey := by
  unfold Settlement.ledgerKey
  split
  · exact .inl ⟨_, rfl⟩
  · exact .inr rfl

/-- What the services keep: an intent is to be paid from a wallet of its user, it names a transaction
that was posted for it, and a due that is pending names none. -/
structure InOrder (db : Db) : Prop where
  wallets : ∀ i ∈ db.paymentIntents.rows, ∀ id, i.walletId = some id →
    ∃ w ∈ db.wallets.rows, w.id = id ∧ w.userId = i.userId
  intents : ∀ i ∈ db.paymentIntents.rows, ∀ id, i.ledgerTransactionId = some id →
    ∃ t ∈ db.ledger.transactions.rows, t.id = id ∧ SettlementKey i.id t.idempotencyKey
  dues : ∀ d ∈ db.akawo.dues.rows, d.status = .pending → d.ledgerTransactionId = none

/-- The identifiers that are drawn for the settlement are new to the ledger. -/
structure Undrawn (own : Settlement) (ledger : Ledger) : Prop where
  accounts : ∀ a ∈ ledger.accounts.rows, ¬ own.Drawn a.id
  transactions : ∀ t ∈ ledger.transactions.rows, ¬ own.Drawn t.id

/-- The identifiers are drawn for something else. -/
def DrawnApart (own : Settlement) (ctx : Ctx) : Prop := ∀ k, ¬ own.Drawn (ctx.uuid k)

variable {config : Bills.BillConfig} {own : Settlement} {mine : Uuid → Prop} {ctx : Ctx}
  {db db' settled : Db} {ledger ledger' : Ledger}

theorem Undrawn.beside (h : Undrawn own ledger) (hbeside : LedgerBeside own ledger ledger') :
    Undrawn own ledger' where
  accounts := hbeside.fresh h.accounts
  transactions _ ht := (hbeside.transactions.cases ht).elim (h.transactions _) (·.undrawn)

/-- A transaction under another key is not the settlement's. -/
theorem Undrawn.not_mine (h : Undrawn own ledger) (hbeside : LedgerBeside own ledger ledger')
    {t : LedgerTransaction} (ht : t ∈ ledger'.transactions.rows) (hkey : t.idempotencyKey ≠ own.ledgerKey) :
    ¬ own.Mine ledger t.id := by
  rintro (hdrawn | ⟨u, hu, hid, hukey⟩)
  · exact (h.beside hbeside).transactions t ht hdrawn
  · have heq := ledger'.transactions.eq_of_clash ht (hbeside.transactions.mem hu)
      (.inl (.inl (.inl hid.symm)))
    exact hkey (heq ▸ hukey)

/-! ## The target -/

section Target

variable {payment : SettledPayment} {type : PaymentTargetType}

/-- A due of another member is marked. -/
theorem settleDue_rows {target : ResolvedTarget} (huser : payment.userId ≠ own.userId)
    (hmine : ¬ mine payment.ledgerTransactionId)
    (hdues : ∀ d ∈ db.akawo.dues.rows, d.status = .pending → d.ledgerTransactionId = none)
    (hresolve : resolveDue db payment.userId payment.targetId = .ok target)
    (h : settleDue ctx db payment = .ok settled) : RowsBeside own mine db settled := by
  obtain ⟨id, d, m, htarget, hd, hm, hmuser, hpending⟩ := member_of_resolveDue hresolve
  have hdid : d.id = id := by simpa using Table.prop_of_find? hd
  rw [settleDue, htarget] at h
  simp only [bind_eq_ok, pure_eq_ok] at h
  obtain ⟨dues, hupdate, rfl⟩ := h
  refine { RowsBeside.refl own mine db with after := rfl, dues := ?_ }
  refine .of_rows (updateRow_eq_ok hupdate) (fun e he heid ↦ ?_) (.refl _)
  have heq : e = d := db.akawo.dues.eq_of_clash he (Table.mem_of_find? hd)
    (.inl (.inl ((of_decide_eq_true heid).trans hdid.symm)))
  subst heq
  refine ⟨rfl, rfl, rfl, fun m' hm' hown ↦ ?_, by simp, fun id hid ↦ ?_⟩
  · rw [hm, Option.some.injEq] at hm'
    exact absurd (hmuser.symm.trans (hm' ▸ hown)) huser
  · rw [hdues e he hpending]
    exact iff_of_false (fun hsome ↦ hmine (Option.some.inj hsome ▸ hid)) (by simp)

/-- A contribution to the slot of another member is recorded. -/
theorem settleContribution_rows (huser : payment.userId ≠ own.userId)
    (hintent : payment.intentId ≠ own.intent.id) (hapart : DrawnApart own ctx)
    (h : Ajo.settleContribution ctx db payment = .ok settled) : RowsBeside own mine db settled := by
  simp only [Ajo.settleContribution, bind_eq_ok, pure_eq_ok, Prod.exists] at h
  obtain ⟨o, ho, c, after, hrecord, rfl⟩ := h
  obtain ⟨id, slot, member, -, hs, hslot, hmember, hheld⟩ := member_of_owed ho
  have hmp := Table.prop_of_find? hmember
  simp only [decide_eq_true_eq] at hmp
  simp only [Ajo.recordContributionWithin, bind_eq_ok, require_eq_ok, exists_const, orThrow_eq_ok,
    pure_eq_ok, Prod.mk.injEq] at hrecord
  obtain ⟨-, contributions, hinsert, -, rfl⟩ := hrecord
  refine { RowsBeside.refl own mine db with after := rfl, schedules := ?_, contributions := ?_ }
  · refine .of_rows (Table.rows_modify _ _ (Ajo.creditSchedule o.schedule payment.amountMinor ctx.now)
      fun h ↦ h) (fun s hs' hid ↦ ?_) (.refl _ _)
    have heq : s = o.schedule := db.contributionSchedules.eq_of_clash hs' (Table.mem_of_find? hs)
      (.inl (of_decide_eq_true hid))
    subst heq
    refine ⟨rfl, rfl, rfl, rfl, fun slot' member' hslot' hmember' hheld' ↦ absurd ?_ huser⟩
    rw [hslot, Option.some.injEq] at hslot'
    have hmp' := Table.prop_of_find? hmember'
    simp only [decide_eq_true_eq] at hmp'
    have hsame : member = member' := db.ajoGroupMembers.eq_of_clash (Table.mem_of_find? hmember)
      (Table.mem_of_find? hmember') (.inl (hheld.symm.trans (hslot' ▸ hheld')))
    exact hmp.2.symm.trans (hsame ▸ hmp'.2)
  · refine .of_rows (Table.rows_of_insert hinsert) ⟨hapart 2, fun scheduleId heq ↦ hintent ?_⟩
    obtain ⟨-, hkey⟩ := keyed_inj heq
    exact Uuid.toString_inj ((String.append_right_inj _).mp ((String.append_right_inj _).mp hkey))

/-- A subscription of another user is credited. -/
theorem settleSubscription_rows (huser : payment.userId ≠ own.userId)
    (h : Food.settleSubscription ctx db payment = .ok settled) : RowsBeside own mine db settled := by
  simp only [Food.settleSubscription, bind_eq_ok, require_eq_ok, exists_const, pure_eq_ok] at h
  obtain ⟨e, he, -, -, subscriptions, hupdate, rfl⟩ := h
  obtain ⟨id, -, hs, howner⟩ := user_of_owned he
  refine { RowsBeside.refl own mine db with after := rfl, subscriptions := ?_ }
  refine .of_rows (updateRow_eq_ok hupdate) (fun s hs' hid ↦ ?_) .refl
  have heq : s = e.subscription := db.food.subscriptions.eq_of_clash hs' (Table.mem_of_find? hs)
    (.inl (of_decide_eq_true hid))
  subst heq
  unfold Food.creditSubscription
  split
  · exact ⟨rfl, rfl, rfl, rfl, fun hown ↦ absurd (howner.symm.trans hown) huser⟩
  · exact ⟨rfl, rfl, rfl, rfl, fun hown ↦ absurd (howner.symm.trans hown) huser⟩

/-- A bill of another user is recorded. -/
theorem recordIntentPayment_rows (huser : payment.userId ≠ own.userId) (hapart : DrawnApart own ctx)
    (h : Bills.recordIntentPayment config ctx db payment = .ok settled) :
    RowsBeside own mine db settled := by
  simp only [Bills.recordIntentPayment, Bills.recordBill, bind_eq_ok, orThrow_eq_ok, require_eq_ok,
    exists_const, pure_eq_ok] at h
  obtain ⟨_, -, v, -, wallet, -, -, payments, hpayments, assessments, hassessments, attempts, hattempts,
    rfl⟩ := h
  refine { RowsBeside.refl own mine db with
    after := rfl, bills := ?_, attempts := ?_, assessments := ?_ }
  · refine .of_rows (insertRow_eq_ok hpayments) ⟨hapart 2, fun heq ↦ hapart 3 ⟨3, ?_⟩, huser⟩
    exact Uuid.toString_inj ((String.append_right_inj _).mp heq.symm)
  · exact .of_rows (insertRow_eq_ok hattempts) ⟨hapart 5, hapart 2⟩
  · unfold Bills.recordAssessment at hassessments
    split at hassessments
    · exact .of_rows (insertRow_eq_ok hassessments) (hapart 4)
    · exact .of_eq (pure_eq_ok.mp hassessments).symm

/-- What a target records for another user lies beside. -/
theorem settle_rows {requested : Option Int} {target : ResolvedTarget}
    (huser : payment.userId ≠ own.userId) (hintent : payment.intentId ≠ own.intent.id)
    (hapart : DrawnApart own ctx) (hmine : ¬ mine payment.ledgerTransactionId)
    (hdues : ∀ d ∈ db.akawo.dues.rows, d.status = .pending → d.ledgerTransactionId = none)
    (hresolve : (targets config type).resolve ctx db payment.userId payment.targetId requested =
      .ok target)
    (h : (targets config type).settle ctx db payment = .ok settled) : RowsBeside own mine db settled := by
  cases type with
  | akawoPoolDue => exact settleDue_rows huser hmine hdues hresolve h
  | ajoContribution => exact settleContribution_rows huser hintent hapart h
  | foodSubscription => exact settleSubscription_rows huser h
  | walletTopup =>
      cases h
      exact .refl _ _ _
  | billPayment => exact recordIntentPayment_rows huser hapart h

end Target

/-! ## The posting -/

/-- The accounts that are opened for a target. -/
theorem creditAccount_opens {type : PaymentTargetType} {targetId : Option Uuid} {currency : String}
    {destination : Uuid} {opened : Db} (hapart : DrawnApart own ctx)
    (h : (targets config type).creditAccount ctx db targetId currency = .ok (destination, opened)) :
    Table.Grown (OpenedOnUse own) db.ledger.accounts opened.ledger.accounts := by
  cases type with
  | akawoPoolDue =>
      rw [(providerPayableAccount_ofPlatform h).1]
      exact .refl _
  | walletTopup =>
      rw [(providerPayableAccount_ofPlatform h).1]
      exact .refl _
  | foodSubscription =>
      change Food.creditEscrow ctx db targetId currency = .ok (destination, opened) at h
      simp only [Food.creditEscrow, bind_eq_ok, orThrow_eq_ok] at h
      obtain ⟨_, -, s, -, h⟩ := h
      unfold Food.escrowAccountWithin at h
      split at h
      · simp only [bind_eq_ok, require_eq_ok, pure_eq_ok, exists_const, Prod.mk.injEq] at h
        exact .of_eq (h.2.2 ▸ rfl)
      · simp only [bind_eq_ok, pure_eq_ok, Prod.mk.injEq] at h
        obtain ⟨ledger, hcreate, -, rfl⟩ := h
        exact .of_rows (createAccount_eq_ok hcreate).2.1 ⟨hapart 1, rfl, rfl, .inr rfl⟩
  | ajoContribution =>
      change Ajo.creditPool ctx db targetId currency = .ok (destination, opened) at h
      simp only [Ajo.creditPool, bind_eq_ok, orThrow_eq_ok] at h
      obtain ⟨_, -, s, -, h⟩ := h
      unfold Ajo.poolAccountWithin at h
      split at h
      · simp only [bind_eq_ok, require_eq_ok, pure_eq_ok, exists_const, Prod.mk.injEq] at h
        exact .of_eq (h.2.2 ▸ rfl)
      · simp only [bind_eq_ok, pure_eq_ok, Prod.mk.injEq] at h
        obtain ⟨ledger, hcreate, -, rfl⟩ := h
        exact .of_rows (createAccount_eq_ok hcreate).2.1 ⟨hapart 1, rfl, rfl, .inl rfl⟩
  | billPayment =>
      change Bills.reservedAccountForIntent db targetId currency = .ok (destination, opened) at h
      simp only [Bills.reservedAccountForIntent, bind_eq_ok, pure_eq_ok, Prod.mk.injEq] at h
      obtain ⟨_, -, _, -, _, -, -, rfl⟩ := h
      exact .refl _

/-- A posting that spares the wallet, under a key of its own and with another reference. -/
theorem ledgerBeside_of_postWithin {opened : Ledger} {command : LedgerPostingCommand}
    {ref : LedgerReference} (haccounts : Table.Grown (OpenedOnUse own) ledger.accounts opened.accounts)
    (htransactions : opened.transactions = ledger.transactions) (hapart : DrawnApart own ctx)
    (hkey : command.idempotencyKey ≠ own.ledgerKey) (hreference : command.reference ≠ own.reference)
    (hspares : ∀ a ∈ ledger.accounts.rows, a.walletId = own.intent.walletId →
      a.purpose = some .walletAvailable → ∀ e ∈ command.entries, e.accountId ≠ a.id)
    (h : opened.postWithin (ctx.uuid 0) command = .ok (ref, ledger')) :
    LedgerBeside own ledger ledger' := by
  cases (postWithin_eq_ok h).2 with
  | replayed _ _ _ _ same => exact ⟨same ▸ haccounts, .of_eq (same ▸ htransactions)⟩
  | appended _ created _ =>
      obtain ⟨-, -, -, hsame, hrows⟩ := createTransaction_eq_ok created
      refine ⟨hsame ▸ haccounts, .of_rows (htransactions ▸ hrows) ⟨hapart 0, hkey, hreference, ?_⟩⟩
      intro a ha hwallet hpurpose
      rw [LedgerTransaction.net, legs_postedTransaction]
      refine Journal.net_eq_zero fun l hl ↦ ?_
      obtain ⟨e, he, rfl⟩ := List.mem_map.mp hl
      exact hspares a ha hwallet hpurpose e he

/-- The wallet the intent is paid from belongs to nobody else. -/
theorem InOrder.wallet_ne (h : InOrder db) (hmem : own.intent ∈ db.paymentIntents.rows) {w : Wallet}
    (hw : w ∈ db.wallets.rows) (huser : w.userId ≠ own.userId) : own.intent.walletId ≠ some w.id := by
  intro heq
  obtain ⟨w', hw', hid, howner⟩ := h.wallets _ hmem _ heq
  have hsame := db.wallets.eq_of_clash hw' hw (.inl hid)
  exact huser (hsame ▸ howner)

/-- An account of the wallet is not one of somebody else's. -/
theorem InOrder.account_ne (h : InOrder db) (hmem : own.intent ∈ db.paymentIntents.rows)
    {a b : FinancialAccount} {w : Wallet} (ha : a ∈ ledger.accounts.rows) (hb : b ∈ ledger.accounts.rows)
    (hw : w ∈ db.wallets.rows) (huser : w.userId ≠ own.userId) (hwallet : a.walletId = own.intent.walletId)
    (howner : b.walletId = some w.id) : b.id ≠ a.id := by
  intro hid
  have hsame := account_eq_of_id hb ha hid
  exact h.wallet_ne hmem hw huser (hwallet.symm.trans (hsame ▸ howner))

theorem Credited.id_ne {targetId : Option Uuid} {currency : String} {destination : Uuid}
    {type : PaymentTargetType} (h : Credited db targetId currency ledger destination type)
    {a : FinancialAccount} (ha : a ∈ ledger.accounts.rows) (hpurpose : a.purpose = some .walletAvailable) :
    destination ≠ a.id := by
  rintro rfl
  cases h with
  | platform b purpose _ account id_eq unowned =>
      have hsame := account_eq_of_id account.mem ha id_eq
      exact unowned.2 (Option.some.inj (account.purpose_is.symm.trans (hsame ▸ hpurpose)))
  | reserve b _ _ _ _ _ account id_eq =>
      have hsame := account_eq_of_id account.mem ha id_eq
      cases account.purpose_is.symm.trans (hsame ▸ hpurpose)

/-! ## The intent -/

section Intent

variable {intent : PaymentIntent} {mark : PaymentIntent → PaymentIntent} {id : Uuid}
  {intents : Table PaymentIntent}

/-- An intent of another user is marked. -/
theorem redone_of_marked (hmem : intent ∈ db.paymentIntents.rows) (huser : intent.userId ≠ own.userId)
    (hmark : MarksPosted mark id) (hmine : ¬ mine id)
    (hbefore : ∀ id, intent.ledgerTransactionId = some id → ¬ mine id)
    (hrows : intents.rows = db.paymentIntents.rows.map fun i ↦ if i.id = intent.id then mark i else i) :
    Table.Redone (KeepsIntent own mine) db.paymentIntents intents := by
  refine .of_rows (p := fun i ↦ i.id = intent.id) (g := mark)
    (by simpa only [decide_eq_true_eq] using hrows) (fun i hi hid ↦ ?_) .refl
  have heq : i = intent := db.paymentIntents.eq_of_clash hi hmem
    (.inl (.inl (.inl (of_decide_eq_true hid))))
  subst heq
  refine ⟨hmark.id_eq i, hmark.userId_eq i, hmark.walletId_eq i, hmark.key_eq i,
    hmark.providerReference_eq i, fun hown ↦ absurd hown huser, fun id' hid' ↦ ?_⟩
  rw [hmark.posted]
  exact iff_of_false (fun hsome ↦ hmine (Option.some.inj hsome ▸ hid')) fun hsome ↦
    hbefore id' hsome hid'

/-- Order is kept when the intent comes to name a transaction that was posted for it. -/
theorem InOrder.marked (h : InOrder db) (hbeside : RowsBeside own mine db db')
    (hledger : LedgerBeside own db.ledger db'.ledger) (hmark : MarksPosted mark id)
    (hrows : db'.paymentIntents.rows = db.paymentIntents.rows.map fun i ↦
      if i.id = intent.id then mark i else i)
    (hposted : ∃ t ∈ db'.ledger.transactions.rows, t.id = id ∧
      SettlementKey intent.id t.idempotencyKey) : InOrder db' where
  wallets := by
    intro i' hi' walletId hwallet
    obtain ⟨i, hi, hk⟩ := hbeside.intents.exists_of_mem_after hi'
    have hwallets : db'.wallets = db.wallets := by rw [hbeside.after]
    rw [hwallets, hk.userId_eq]
    exact h.wallets i hi walletId (hk.walletId_eq ▸ hwallet)
  intents := by
    intro i' hi' id' hid'
    obtain ⟨i, hi, rfl⟩ := List.mem_map.mp (hrows ▸ hi')
    split at hid'
    · next heq =>
        rw [if_pos heq, hmark.id_eq, heq]
        rw [hmark.posted, Option.some.injEq] at hid'
        exact hid' ▸ hposted
    · next hne =>
        rw [if_neg hne]
        obtain ⟨t, ht, htid, hkey⟩ := h.intents i hi id' hid'
        exact ⟨t, hledger.transactions.mem ht, htid, hkey⟩
  dues := by
    intro d' hd' hpending
    obtain ⟨d, hd, hk⟩ := hbeside.dues.exists_of_mem_after hd'
    have heq := hk.pending hpending
    exact heq ▸ h.dues d hd (heq ▸ hpending)

end Intent

/-! ## Opening intents -/

/-- Order is kept by what writes intents only, as long as new ones are to be paid from a wallet of their
user and name no transaction, and old ones keep what they have. -/
theorem InOrder.of_intents (h : InOrder db) (hafter : db' = { db with paymentIntents := db'.paymentIntents })
    (hintents : ∀ i' ∈ db'.paymentIntents.rows,
      (∃ i ∈ db.paymentIntents.rows, (i'.id = i.id ∧ i'.userId = i.userId) ∧ i'.walletId = i.walletId ∧
        i'.ledgerTransactionId = i.ledgerTransactionId) ∨
      (∀ id, i'.walletId = some id → ∃ w ∈ db.wallets.rows, w.id = id ∧ w.userId = i'.userId) ∧
        i'.ledgerTransactionId = none) : InOrder db' where
  wallets := by
    intro i' hi' id hwallet
    rw [hafter]
    rcases hintents i' hi' with ⟨i, hi, ⟨-, huser⟩, hsame, -⟩ | ⟨hnew, -⟩
    · rw [huser]
      exact h.wallets i hi id (hsame ▸ hwallet)
    · exact hnew id hwallet
  intents := by
    intro i' hi' id hid
    rw [hafter]
    rcases hintents i' hi' with ⟨i, hi, ⟨hsame, -⟩, -, hpoint⟩ | ⟨-, hnone⟩
    · rw [hsame]
      exact h.intents i hi id (hpoint ▸ hid)
    · rw [hnone] at hid
      cases hid
  dues := by
    rw [hafter]
    exact h.dues

/-- Intents are created, and charged or given up, in order. -/
theorem InOrder.create (h : InOrder db) {handler : PaymentTarget} {userId : Uuid} {dto : CreateIntentDto}
    {key : String} {intent : PaymentIntent}
    (hok : create ctx db handler userId dto key = .ok (intent, db')) : InOrder db' := by
  cases create_eq_ok hok with
  | replayed _ _ same => exact same ▸ h
  | stored target fee intents _ _ intent_eq insert after =>
      subst after
      refine h.of_intents rfl fun i' hi' ↦ ?_
      rcases List.mem_append.mp (Table.rows_of_insert insert ▸ hi') with hi | hi
      · exact .inl ⟨i', hi, ⟨rfl, rfl⟩, rfl, rfl⟩
      · rw [List.mem_singleton.mp hi, intent_eq]
        refine .inr ⟨fun id hid ↦ ?_, rfl⟩
        obtain ⟨w, hw, rfl⟩ := Option.map_eq_some_iff.mp hid
        have hp := Table.prop_of_find? hw
        simp only [decide_eq_true_eq] at hp
        exact ⟨w, Table.mem_of_find? hw, rfl, hp.1⟩

theorem InOrder.startExternal (h : InOrder db) {handler : PaymentTarget} {provider : PaymentProvider}
    {userId intentId : Uuid} {method : PaymentMethod} {charge : ChargeRequest}
    (hok : startExternal ctx db handler provider userId intentId method = .ok (charge, db')) :
    InOrder db' := by
  simp only [Payments.startExternal, bind_eq_ok, orThrow_eq_ok, pure_eq_ok, Prod.mk.injEq] at hok
  obtain ⟨intent, -, target, -, answer, -, intents, hupdate, -, rfl⟩ := hok
  refine h.of_intents rfl fun i' hi' ↦ .inl ?_
  obtain ⟨i, hi, rfl⟩ := List.mem_map.mp (Table.rows_of_update hupdate ▸ hi')
  refine ⟨i, hi, ?_⟩
  split
  · exact ⟨⟨rfl, rfl⟩, rfl, rfl⟩
  · exact ⟨⟨rfl, rfl⟩, rfl, rfl⟩

/-- The call creates an intent, or asks the provider to collect it. -/
def Opening : Call → Prop
  | .createIntent .. | .startExternal .. => True
  | _ => False

theorem InOrder.opening (h : InOrder db) {call : Call} (hcall : Opening call) :
    InOrder (step config db call) := by
  cases call with
  | createIntent ctx type userId dto key =>
      rw [step]
      rcases committed_cases db (Payments.create ctx db (targets config type) userId dto key) with
        heq | ⟨_, _, hok, heq⟩
      · exact heq.symm ▸ h
      · exact heq.symm ▸ h.create hok
  | startExternal ctx provider userId intentId method =>
      rw [step]
      split
      · next target _ =>
          rcases committed_cases db (Payments.startExternal ctx db target provider userId intentId method) with
            heq | ⟨_, _, hok, heq⟩
          · exact heq.symm ▸ h
          · exact heq.symm ▸ h.startExternal hok
      · exact h
  | _ => exact hcall.elim

/-! ## The settlement -/

/-- The settlement is still to be made: its intent is stored, the services keep their order, and no
identifier of the settlement has been drawn. -/
structure Standing (own : Settlement) (db : Db) : Prop where
  mem : own.intent ∈ db.paymentIntents.rows
  order : InOrder db
  undrawn : Undrawn own db.ledger

theorem Standing.beside (h : Standing own db) (hbeside : Beside own db db') (horder : InOrder db') :
    Standing own db' where
  mem := by
    obtain ⟨i, hi, hk⟩ := hbeside.rows.intents.exists_of_mem h.mem
    exact hk.same rfl ▸ hi
  order := horder
  undrawn := h.undrawn.beside hbeside.ledger

/-- A transaction that was posted for another intent is not the settlement's. -/
theorem Standing.not_mine (h : Standing own db) (hledger : LedgerBeside own db.ledger ledger)
    {t : LedgerTransaction} (ht : t ∈ ledger.transactions.rows) {intentId : Uuid}
    (hkey : SettlementKey intentId t.idempotencyKey) (hne : intentId ≠ own.intent.id) :
    ¬ own.Mine db.ledger t.id :=
  h.undrawn.not_mine hledger ht fun heq ↦ hne (hkey.unique (heq ▸ own.ledgerKey_settles))

theorem Standing.id_ne (h : Standing own db) {i : PaymentIntent} (hi : i ∈ db.paymentIntents.rows)
    (huser : i.userId ≠ own.userId) : i.id ≠ own.intent.id := fun hid ↦
  huser (db.paymentIntents.eq_of_clash hi h.mem (.inl (.inl (.inl hid))) ▸ rfl)

/-- Another user confirms an intent from the wallet. -/
theorem Standing.settlePending_beside (h : Standing own db) {intent r : PaymentIntent} {key : String}
    (hmem : intent ∈ db.paymentIntents.rows) (huser : intent.userId ≠ own.userId)
    (hapart : DrawnApart own ctx) (hreference : "PAY-" ++ intent.id.shortCode ≠ own.reference)
    (hok : settlePending ctx db (targets config intent.targetType) intent.userId intent key =
      .ok (r, db')) : Beside own db db' ∧ InOrder db' := by
  simp only [settlePending, bind_eq_ok, require_eq_ok, orThrow_eq_ok, pure_eq_ok, exists_const,
    Prod.exists, Prod.mk.injEq] at hok
  obtain ⟨walletId, hwallet, target, hresolve, -, payer, hpayer, destination, opened, hcredit, -,
    posting, ledger, hpost, settled, hsettle, intents, hupdate, -, rfl⟩ := hok
  obtain ⟨hopened, hopens, hcredited⟩ := creditAccount_eq_ok hcredit
  obtain ⟨hledgerEq, hintentsEq⟩ := (lawful_targets config _).settle hsettle
  have hpays := accounts_eq_ok hpayer
  have hne := h.id_ne hmem huser
  obtain ⟨w, hw, rfl, howner⟩ := h.order.wallets intent hmem walletId hwallet
  -- The posting spares the wallet and has a key and a reference of its own.
  have hledger : LedgerBeside own db.ledger ledger := by
    refine ledgerBeside_of_postWithin (creditAccount_opens hapart hcredit) hopens.transactions hapart
      (fun heq ↦ hne ?_) hreference (fun a ha hwalletEq hpurpose e he ↦ ?_) hpost
    · exact SettlementKey.unique (.inl ⟨key, heq.symm⟩) own.ledgerKey_settles
    · rcases mem_entries_walletPosting he with heq | heq | heq
      · rw [heq]
        exact h.order.account_ne h.mem ha hpays.available_mem hw (howner ▸ huser) hwalletEq
          hpays.available_wallet
      · exact heq ▸ hcredited.id_ne (hopens.accounts a ha) hpurpose
      · rw [heq]
        intro hid
        have hsame := account_eq_of_id hpays.feeRevenue_mem ha hid
        cases hpays.feeRevenue_purpose.symm.trans (hsame ▸ hpurpose)
  obtain ⟨t, ht, htid, htkey⟩ := exists_key_of_postWithin hpost
  have hsettles : SettlementKey intent.id t.idempotencyKey := htkey ▸ .inl ⟨key, rfl⟩
  have hmine : ¬ own.Mine db.ledger posting.id := htid ▸ h.not_mine hledger ht hsettles hne
  -- So does what the target records.
  have hrows : RowsBeside own (own.Mine db.ledger) db settled := by
    have hopenedRows : { opened with ledger := ledger } = { db with ledger := ledger } := by
      rw [hopened]
    rw [hopenedRows] at hsettle
    have hcost := (resolve_withLedger config intent.targetType ctx db ledger intent.userId intent.targetId
      (storedRequest (targets config intent.targetType) intent.amountMinor)).trans hresolve
    have hbeside : RowsBeside own (own.Mine db.ledger) { db with ledger := ledger } settled :=
      settle_rows huser hne hapart hmine h.order.dues hcost hsettle
    exact hbeside.withLedger db.ledger settled.ledger
  have hmarked : settled.paymentIntents = db.paymentIntents := by
    rw [hintentsEq, hopened]
  have hnew : intents.rows = db.paymentIntents.rows.map fun i ↦ if i.id = intent.id then
      markSettled ctx (targets config intent.targetType) posting i else i := by
    rw [Table.rows_of_update hupdate, hmarked]
    simp only [decide_eq_true_eq]
  have hbeside : RowsBeside own (own.Mine db.ledger) db { settled with paymentIntents := intents } := by
    refine { hrows with after := ?_, intents := ?_ }
    · conv_lhs => rw [hrows.after]
    · refine redone_of_marked hmem huser (marksPosted_markSettled ..) hmine (fun id hid ↦ ?_) hnew
      obtain ⟨t, ht, rfl, hkey⟩ := h.order.intents intent hmem id hid
      exact h.not_mine (.refl _ _) ht hkey hne
  have hstored : settled.ledger = ledger := hledgerEq
  refine ⟨⟨hbeside, hstored ▸ hledger⟩, h.order.marked hbeside (hstored ▸ hledger)
    (marksPosted_markSettled ..) hnew ⟨t, hstored ▸ ht, htid, hsettles⟩⟩

/-- The provider collected what another user owes. -/
theorem Standing.postDeposit_beside (h : Standing own db) {intent : PaymentIntent}
    {outcome : SettlementOutcome} (hmem : intent ∈ db.paymentIntents.rows)
    (huser : intent.userId ≠ own.userId) (hapart : DrawnApart own ctx)
    (hreference : "DEP-" ++ intent.id.shortCode ≠ own.reference)
    (hok : postDeposit ctx db intent = .ok (outcome, db')) : Beside own db db' ∧ InOrder db' := by
  simp only [postDeposit, bind_eq_ok, pure_eq_ok, Prod.exists, Prod.mk.injEq] at hok
  obtain ⟨accounts, haccounts, posting, ledger, hpost, intents, hupdate, -, rfl⟩ := hok
  have hfound := accountsFor_eq_ok haccounts
  obtain ⟨w, hw, howner, -, hwallet⟩ := accountsFor_wallet haccounts
  have hne := h.id_ne hmem huser
  have hledger : LedgerBeside own db.ledger ledger := by
    refine ledgerBeside_of_postWithin (.refl _) rfl hapart (fun heq ↦ hne ?_) hreference
      (fun a ha hwalletEq hpurpose e he ↦ ?_) hpost
    · exact SettlementKey.unique (.inr heq.symm) own.ledgerKey_settles
    · have hother : ∀ {b purpose}, b ∈ db.ledger.accounts.rows ∧ b.purpose = some purpose →
          purpose ≠ .walletAvailable → b.id ≠ a.id := fun hb hpurposeNe hid ↦
        hpurposeNe (Option.some.inj (hb.2.symm.trans (account_eq_of_id hb.1 ha hid ▸ hpurpose)))
      simp only [depositPosting, List.cons_append, List.nil_append, List.mem_cons] at he
      rcases he with rfl | rfl | he
      · exact hother hfound.providerPayable (by simp)
      · exact h.order.account_ne h.mem ha hfound.available.1 hw (howner ▸ huser) hwalletEq hwallet
      · split at he
        · rw [List.mem_singleton.mp he]
          exact hother hfound.feeRevenue (by simp)
        · cases he
  obtain ⟨t, ht, htid, htkey⟩ := exists_key_of_postWithin hpost
  have hsettles : SettlementKey intent.id t.idempotencyKey := .inr htkey
  have hnew : intents.rows = db.paymentIntents.rows.map fun i ↦
      if i.id = intent.id then markDeposited ctx posting i else i := by
    simpa only [decide_eq_true_eq] using updateRow_eq_ok hupdate
  have hbeside : RowsBeside own (own.Mine db.ledger) db
      { db with ledger := ledger, paymentIntents := intents } := by
    refine { RowsBeside.refl own (own.Mine db.ledger) db with after := rfl, intents := ?_ }
    refine redone_of_marked hmem huser (marksPosted_markDeposited ..)
      (htid ▸ h.not_mine hledger ht hsettles hne) (fun id hid ↦ ?_) hnew
    obtain ⟨t, ht, rfl, hkey⟩ := h.order.intents intent hmem id hid
    exact h.not_mine (.refl _ _) ht hkey hne
  exact ⟨⟨hbeside, hledger⟩, h.order.marked hbeside hledger (marksPosted_markDeposited ..) hnew
    ⟨t, ht, htid, hsettles⟩⟩

/-! ## Calls -/

/-- The call settles an intent of another user, under identifiers that are drawn for it. -/
def ByOther (own : Settlement) (db : Db) : Call → Prop
  | .settleFromWallet ctx userId _ _ => userId ≠ own.userId ∧ DrawnApart own ctx
  | .settleDeposit ctx intentId =>
      (∀ i ∈ db.paymentIntents.rows, i.id = intentId → i.userId ≠ own.userId) ∧ DrawnApart own ctx
  | _ => False

/-- The reference a settlement posts with. -/
def referenceOf : Call → Option String
  | .settleFromWallet _ _ intentId _ => some ("PAY-" ++ intentId.shortCode)
  | .settleDeposit _ intentId => some ("DEP-" ++ intentId.shortCode)
  | _ => none

/-- **A settlement of another user, with another reference, lies beside.** -/
theorem Standing.step (h : Standing own db) {call : Call} (hother : ByOther own db call)
    (hreference : referenceOf call ≠ some own.reference) :
    Beside own db (step config db call) ∧ Standing own (step config db call) := by
  have hsuffices : Beside own db (Platform.step config db call) ∧ InOrder (Platform.step config db call) →
      Beside own db (Platform.step config db call) ∧ Standing own (Platform.step config db call) :=
    fun ⟨hbeside, horder⟩ ↦ ⟨hbeside, h.beside hbeside horder⟩
  have hidle : Beside own db db ∧ InOrder db := ⟨.refl own db, h.order⟩
  refine hsuffices ?_
  cases call with
  | settleFromWallet ctx userId intentId key =>
      obtain ⟨huser, hapart⟩ := hother
      simp only [Platform.step, targetOf]
      split
      · next target htarget =>
          obtain ⟨i, hfind, rfl⟩ := Option.map_eq_some_iff.mp htarget
          rcases committed_cases db (settleFromWallet ctx db (targets config i.targetType) userId intentId
            key) with heq | ⟨r, db', hok, heq⟩
          · rw [heq]
            exact hidle
          rw [heq]
          rw [settleFromWallet, orThrow_bind_eq_ok] at hok
          obtain ⟨intent, hintent, hok⟩ := hok
          have hp := Table.prop_of_find? hintent
          simp only [decide_eq_true_eq] at hp
          obtain ⟨rfl, rfl⟩ := hp
          have hmem := Table.mem_of_find? hintent
          have hid : i.id = intent.id := by simpa using Table.prop_of_find? hfind
          have hsame : i = intent := db.paymentIntents.eq_of_clash (Table.mem_of_find? hfind) hmem
            (.inl (.inl (.inl hid)))
          subst hsame
          split at hok
          · exact h.settlePending_beside hmem huser hapart (fun heq ↦ hreference (congrArg some heq)) hok
          · rw [pure_eq_ok, Prod.mk.injEq] at hok
            exact hok.2 ▸ hidle
      · exact hidle
  | settleDeposit ctx intentId =>
      obtain ⟨huser, hapart⟩ := hother
      simp only [Platform.step]
      rcases committed_cases db (settleDeposit ctx db intentId) with heq | ⟨outcome, db', hok, heq⟩
      · rw [heq]
        exact hidle
      rw [heq]
      unfold settleDeposit at hok
      split at hok
      · rw [pure_eq_ok, Prod.mk.injEq] at hok
        exact hok.2 ▸ hidle
      · next intent hfind =>
          have hmem := Table.mem_of_find? hfind
          have hid : intent.id = intentId := by simpa using Table.prop_of_find? hfind
          subst hid
          split at hok
          · rw [pure_eq_ok, Prod.mk.injEq] at hok
            exact hok.2 ▸ hidle
          · exact h.postDeposit_beside hmem (huser intent hmem rfl) hapart
              (fun heq ↦ hreference (congrArg some heq)) hok
  | _ => exact hother.elim

/-- **One payment does not block another.**  After any run of settlements of other users, with other
references, a settlement goes through just when it would have before. -/
theorem succeeds_iff_of_reaches (h : Standing own db)
    (hrun : Reaches (Platform.step config)
      (fun db call ↦ ByOther own db call ∧ referenceOf call ≠ some own.reference) db db') :
    own.Succeeds config db' ↔ own.Succeeds config db := by
  have hbeside : Beside own db db' ∧ Standing own db' :=
    hrun.invariant (I := fun db' ↦ Beside own db db' ∧ Standing own db') ⟨.refl own db, h⟩
      fun db' call ⟨hbeside, hstanding⟩ ⟨hother, hreference⟩ ↦ by
        obtain ⟨hstep, hafter⟩ := hstanding.step hother hreference
        exact ⟨hbeside.trans hstep, hafter⟩
  exact succeeds_beside h.mem h.undrawn.accounts hbeside.1

/-! ## A reference that is taken -/

/-- The intent waits for this settlement. -/
def Settlement.Due (own : Settlement) : Prop :=
  match own.way with
  | .wallet _ => own.intent.status = .requiresConfirmation
  | .deposit => own.intent.status ≠ .succeeded

/-- A posting is refused when its reference is taken and its key is not. -/
theorem reference_free_of_postWithin {id : Uuid} {command : LedgerPostingCommand} {ref : LedgerReference}
    (h : ledger.postWithin id command = .ok (ref, ledger'))
    (hkey : ∀ t ∈ ledger.transactions.rows, t.idempotencyKey ≠ command.idempotencyKey) :
    ∀ t ∈ ledger.transactions.rows, t.reference ≠ command.reference := by
  intro t ht heq
  cases (postWithin_eq_ok h).2 with
  | replayed existing mem key _ _ => exact hkey existing mem key
  | appended _ created _ =>
      obtain ⟨-, -, hfresh, -⟩ := createTransaction_eq_ok created
      exact hfresh t ht (clash_postedTransaction_iff.mpr (.inl (.inr heq)))

/-- While another transaction has its reference, a settlement that is due does not go through. -/
theorem refused_of_reference (hmem : own.intent ∈ db.paymentIntents.rows) (hdue : own.Due)
    (hkey : ∀ t ∈ db.ledger.transactions.rows, t.idempotencyKey ≠ own.ledgerKey)
    {t : LedgerTransaction} (ht : t ∈ db.ledger.transactions.rows) (hreference : t.reference = own.reference) :
    ¬ own.Succeeds config db := by
  have hintent : ∀ {i : PaymentIntent}, i ∈ db.paymentIntents.rows → i.id = own.intent.id →
      i = own.intent := fun hi hid ↦ db.paymentIntents.eq_of_clash hi hmem (.inl (.inl (.inl hid)))
  unfold Settlement.Succeeds Settlement.Due Settlement.ledgerKey Settlement.reference at *
  cases hway : own.way with
  | wallet key =>
      simp only [hway] at hdue hkey hreference ⊢
      rintro ⟨⟨r, db'⟩, hok⟩
      rw [settleFromWallet, orThrow_bind_eq_ok] at hok
      obtain ⟨i, hfind, hok⟩ := hok
      have hp := Table.prop_of_find? hfind
      simp only [decide_eq_true_eq] at hp
      rw [hintent (Table.mem_of_find? hfind) hp.1, if_pos hdue] at hok
      simp only [settlePending, bind_eq_ok, Prod.exists] at hok
      obtain ⟨_, -, _, -, _, -, _, -, _, opened, hcredit, _, -, _, _, hpost, -⟩ := hok
      have hopens := (creditAccount_eq_ok hcredit).2.1
      rw [← hopens.transactions] at hkey ht
      exact reference_free_of_postWithin hpost hkey t ht hreference
  | deposit =>
      simp only [hway] at hdue hkey hreference ⊢
      rintro ⟨⟨r, db'⟩, hok⟩
      unfold settleDeposit at hok
      split at hok
      · next hnone => exact Table.not_of_find?_eq_none hnone hmem (decide_eq_true rfl)
      · next i hfind =>
          rw [hintent (Table.mem_of_find? hfind) (by simpa using Table.prop_of_find? hfind),
            if_neg hdue] at hok
          simp only [postDeposit, bind_eq_ok, Prod.exists] at hok
          obtain ⟨_, -, _, _, hpost, -⟩ := hok
          exact reference_free_of_postWithin hpost hkey t ht hreference

section Sample

/-- The identifiers of the `n`-th call, a given distance apart: they differ in their first digits if that
is large, and in their last ones only if it is small. -/
def distantCtx (distance n : Nat) : Ctx := ⟨1000, fun k ↦ .ofNat ((1000 + 10 * n + k % 10) * distance)⟩

/-- A provider that names the next charge. -/
def namingProvider (name : String) : PaymentProvider := ⟨fun _ ↦ .ok ⟨name⟩, fun _ ↦ .ok ⟨name⟩⟩

/-- Two members ask for a top-up, and transfer the money to the provider. -/
def sampleCollected (distance : Nat) : Db :=
  [.createIntent (distantCtx distance 1) .walletTopup (.ofNat 1) ⟨none, some 100000⟩ "top-up",
    .createIntent (distantCtx distance 2) .walletTopup (.ofNat 2) ⟨none, some 50000⟩ "top-up",
    .startExternal (distantCtx distance 3) (namingProvider "REF-1") (.ofNat 1)
      ((distantCtx distance 1).uuid 0) .transfer,
    .startExternal (distantCtx distance 4) (namingProvider "REF-2") (.ofNat 2)
      ((distantCtx distance 2).uuid 0) .transfer].foldl (step sampleConfig) samplePlatform

/-- The deposit of the second member. -/
def sampleDeposit (distance : Nat) : Settlement where
  intent := markCharged (distantCtx distance 4) .transfer "REF-2"
    (newIntent (distantCtx distance 2) samplePlatform walletTopUpTarget (.ofNat 2) none "top-up"
      ⟨50000, "NGN", "Wallet top-up"⟩ 0)
  ctx := distantCtx distance 6
  way := .deposit

/-- The provider reports the deposit of the first member. -/
def sampleFirstDeposit (distance : Nat) : Call :=
  .settleDeposit (distantCtx distance 5) ((distantCtx distance 1).uuid 0)

theorem inOrder_sampleCollected (distance : Nat) : InOrder (sampleCollected distance) := by
  have hintents : samplePlatform.paymentIntents.rows = [] := rfl
  have hdues : samplePlatform.akawo.dues.rows = [] := rfl
  have h₀ : InOrder samplePlatform := ⟨by simp [hintents], by simp [hintents], by simp [hdues]⟩
  have hrun : Reaches (step sampleConfig) (fun _ call ↦ Opening call) samplePlatform
      (sampleCollected distance) := reaches_foldl_of _ (by simp [Opening])
  exact hrun.invariant (I := InOrder) h₀ fun _ _ h hcall ↦ h.opening hcall

theorem distantCtx_uuid (distance n k : Nat) :
    (distantCtx distance n).uuid k = (distantCtx distance n).uuid (k % 10) := by
  simp [distantCtx]

theorem sampleDeposit_drawn {distance : Nat} {P : Uuid → Prop}
    (h : ∀ k < 10, P ((distantCtx distance 6).uuid k)) {id : Uuid} (hid : (sampleDeposit distance).Drawn id) :
    P id := by
  obtain ⟨k, rfl⟩ := hid
  change P ((distantCtx distance 6).uuid k)
  rw [distantCtx_uuid]
  exact h _ (Nat.mod_lt _ (by decide))

theorem sampleDeposit_standing {distance : Nat}
    (hmem : (sampleDeposit distance).intent ∈ (sampleCollected distance).paymentIntents.rows)
    (hids : ∀ k < 10, ∀ a ∈ (sampleCollected distance).ledger.accounts.rows,
      a.id ≠ (distantCtx distance 6).uuid k)
    (hunposted : (sampleCollected distance).ledger.transactions.rows = []) :
    Standing (sampleDeposit distance) (sampleCollected distance) where
  mem := hmem
  order := inOrder_sampleCollected distance
  undrawn :=
    { accounts := fun a ha hdrawn ↦ sampleDeposit_drawn (P := fun id ↦ ∀ a ∈
        (sampleCollected distance).ledger.accounts.rows, a.id ≠ id) hids hdrawn a ha rfl
      transactions := by simp [hunposted] }

theorem sampleFirstDeposit_byOther {distance : Nat} {db : Db}
    (huser : ∀ i ∈ db.paymentIntents.rows, i.id = (distantCtx distance 1).uuid 0 → i.userId ≠ .ofNat 2)
    (hids : ∀ k < 10, ∀ j < 10, (distantCtx distance 6).uuid k ≠ (distantCtx distance 5).uuid j) :
    ByOther (sampleDeposit distance) db (sampleFirstDeposit distance) := by
  refine ⟨huser, fun j hdrawn ↦ ?_⟩
  rw [distantCtx_uuid] at hdrawn
  exact sampleDeposit_drawn (P := fun id ↦ ∀ j < 10, id ≠ (distantCtx distance 5).uuid j) hids hdrawn _
    (Nat.mod_lt _ (by decide)) rfl

end Sample

/-- Where the identifiers of the intents differ in their first digits, the second deposit is taken after
the first. -/
theorem succeeds_iff_of_reaches_sample :
    ((sampleDeposit (2 ^ 96)).Succeeds sampleConfig
        (step sampleConfig (sampleCollected (2 ^ 96)) (sampleFirstDeposit (2 ^ 96))) ↔
      (sampleDeposit (2 ^ 96)).Succeeds sampleConfig (sampleCollected (2 ^ 96))) ∧
    (settleDeposit (distantCtx (2 ^ 96) 6) (sampleCollected (2 ^ 96))
      ((distantCtx (2 ^ 96) 2).uuid 0)).isOk = true := by
  have hstanding : Standing (sampleDeposit (2 ^ 96)) (sampleCollected (2 ^ 96)) :=
    sampleDeposit_standing (by decide +kernel) (by decide +kernel) (by decide +kernel)
  have hother : ByOther (sampleDeposit (2 ^ 96)) (sampleCollected (2 ^ 96)) (sampleFirstDeposit (2 ^ 96)) :=
    sampleFirstDeposit_byOther (by decide +kernel) (by decide +kernel)
  have hreference : referenceOf (sampleFirstDeposit (2 ^ 96)) ≠ some (sampleDeposit (2 ^ 96)).reference := by
    decide +kernel
  exact ⟨succeeds_iff_of_reaches hstanding ((Reaches.refl _).call _ ⟨hother, hreference⟩),
    by decide +kernel⟩

/-- Where they do not, a deposit that the provider has collected is refused because that of another user
was settled first. -/
theorem deposit_blocked :
    ¬ ∀ config own db db', Standing own db → Reaches (step config) (ByOther own) db db' →
      (own.Succeeds config db' ↔ own.Succeeds config db) := by
  intro h
  have hstanding : Standing (sampleDeposit 1) (sampleCollected 1) :=
    sampleDeposit_standing (by decide +kernel) (by decide +kernel) (by decide +kernel)
  have hother : ByOther (sampleDeposit 1) (sampleCollected 1) (sampleFirstDeposit 1) :=
    sampleFirstDeposit_byOther (by decide +kernel) (by decide +kernel)
  have hbefore : (settleDeposit (distantCtx 1 6) (sampleCollected 1)
      ((distantCtx 1 2).uuid 0)).isOk = true := by decide +kernel
  have hafter : (settleDeposit (distantCtx 1 6) (step sampleConfig (sampleCollected 1) (sampleFirstDeposit 1))
      ((distantCtx 1 2).uuid 0)).isOk = false := by decide +kernel
  obtain ⟨r, hr⟩ := (h sampleConfig _ _ _ hstanding ((Reaches.refl _).call _ hother)).mpr
    (exists_eq_ok_iff.mpr hbefore)
  have hok := exists_eq_ok_iff.mp ⟨r, hr⟩
  exact absurd (hok.symm.trans hafter) (by decide)

end AjoCloud.Platform
