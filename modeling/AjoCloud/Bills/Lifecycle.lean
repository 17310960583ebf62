import AjoCloud.Bills.Basic
import AjoCloud.Common.Json
import AjoCloud.Payments.Requests

/-!
# The life of a bill

The two requests that ask the provider about a bill, and what the transactions they end in do to
the bill, to its intent and to the ledger: one inversion lemma per transaction.
-/

namespace AjoCloud.Bills

open Lib ServiceError Ledger Payments

/-! ## Requests -/

/-- What the answer about a bill leaves; there is none when the provider was not asked, or threw. -/
def applyAnswer (ctx : Ctx) (db : Db) (paymentId userId : Uuid) :
    Option ProviderBillPayment → Db
  | none => committed db (markUncertain ctx db paymentId none)
  | some result => applyProviderResult ctx db paymentId userId result

/-- `completeIntentPayment`: the bill is sent to the provider, and the answer applied. -/
def completeIntentPayment (ctx : Ctx) (db : Db) (userId intentId : Uuid)
    (customerReference : Option String)
    (createPayment : BillPayment → String → Option ProviderBillPayment) : Db :=
  match db.bills.payments.find? fun p ↦
      p.userId = userId ∧ p.idempotencyKey = intentPaymentKey intentId with
  | none => db
  | some payment =>
      if payment.status = .pending then
        applyAnswer ctx db payment.id userId ((truthy customerReference).bind (createPayment payment))
      else db

/-- `reconcile`, up to the provider's answer.  There is no answer when the inquiry throws. -/
def reconcileAnswer (db : Db) (paymentId : Uuid)
    (queryPayment : String → Option ProviderBillPayment) :
    Except ServiceError (BillPayment × ProviderBillPayment) := do
  let payment ← orThrow (db.bills.payments.find? fun p ↦ p.id = paymentId)
    (notFound "Bill payment was not found")
  require (payment.reconciliationState = .pending)
    (conflict "Bill payment is not awaiting reconciliation")
  let result ← orThrow (queryPayment (payment.providerReference.getD payment.internalReference))
    (.http .badGateway "Provider inquiry failed; reserved funds remain held")
  pure (payment, result)

/-- `get`: the caller's own bill. -/
def get (db : Db) (userId paymentId : Uuid) : Except ServiceError BillPayment :=
  orThrow (db.bills.payments.find? fun p ↦ p.id = paymentId ∧ p.userId = userId)
    (notFound "Bill payment was not found")

/-- What `applyProviderResult` answers, beside the database it leaves. -/
def providerAnswer (ctx : Ctx) (db : Db) (paymentId userId : Uuid) (result : ProviderBillPayment) :
    Except ServiceError BillPayment :=
  match result.state with
  | .reversed => (applyReversal ctx db paymentId userId result).map (·.1)
  | .pending | .unknown => do
      let (_, db) ← markUncertain ctx db paymentId (some result)
      get db userId paymentId
  | .successful | .failed => (concludeBill ctx db paymentId result).map (·.1)

/-- `reconcile`: what it answers, and the database it leaves.  An uncertain answer is written also when
the actor is not the bill's user, who gets no bill to see. -/
def reconcile (ctx : Ctx) (db : Db) (actorUserId paymentId : Uuid)
    (queryPayment : String → Option ProviderBillPayment) : Except ServiceError BillPayment × Db :=
  match reconcileAnswer db paymentId queryPayment with
  | .error e => (.error e, db)
  | .ok (payment, result) =>
      (providerAnswer ctx db payment.id actorUserId result,
        applyProviderResult ctx db payment.id actorUserId result)

/-! ## What a transaction does to the bills -/

/-- What a bill is created with and keeps. -/
structure BillTerms where
  id : Uuid
  userId : Uuid
  walletId : Uuid
  idempotencyKey : String
  amountMinor : Int
  feeMinor : Int
  totalDebitMinor : Int
  currency : String
  paymentIntentId : Option Uuid

/-- The terms of a stored bill. -/
def billTerms (p : BillPayment) : BillTerms where
  id := p.id
  userId := p.userId
  walletId := p.walletId
  idempotencyKey := p.idempotencyKey
  amountMinor := p.amountMinor
  feeMinor := p.feeMinor
  totalDebitMinor := p.totalDebitMinor
  currency := p.currency
  paymentIntentId := p.paymentIntentId

/-- The provider has not given a definite answer about the bill. -/
def isOpen (status : BillPaymentStatus) : Bool :=
  status = .pending ∨ status = .reconciliationRequired

/-- One bill got a new status and a new reconciliation state. -/
structure Rewritten (db db' : Db) (id : Uuid) (status : BillPaymentStatus)
    (reconciliation : ReconciliationState → ReconciliationState) : Prop where
  map : ∃ f : BillPayment → BillPayment,
    db'.bills.payments.rows = (db.bills.payments.rows.map fun p ↦ if p.id = id then f p else p) ∧
      (∀ p, billTerms (f p) = billTerms p) ∧ (∀ p, (f p).status = status) ∧
      ∀ p, (f p).reconciliationState = reconciliation p.reconciliationState

/-- The intents, with those of a bill that are in process given the status. -/
def Synced (db db' : Db) (intentId : Option Uuid) (status : PaymentIntentStatus) : Prop :=
  ∃ f : PaymentIntent → PaymentIntent,
    db'.paymentIntents.rows = (db.paymentIntents.rows.map fun i ↦
      if intentId = some i.id ∧ i.status = .processing then f i else i) ∧
    (∀ i, terms (f i) = terms i) ∧ (∀ i, (f i).status = status) ∧
      ∀ i, (f i).ledgerTransactionId = i.ledgerTransactionId ∧
        (f i).providerReference = i.providerReference ∧ (f i).walletId = i.walletId

/-- The provider gave no definite answer, or none at all. -/
def isUncertain : Option ProviderBillPayment → Bool
  | none => true
  | some result => result.state = .pending ∨ result.state = .unknown

/-- What the answer about a bill did. -/
inductive Handled (ctx : Ctx) (paymentId : Uuid) (answer : Option ProviderBillPayment)
    (db db' : Db) : Prop
  | /-- Nothing was written. -/
    nothing (same : db' = db)
  | /-- The provider had refused the bill, and its reserve was released. -/
    released (payment : BillPayment) (accounts : BillAccounts) (posting : LedgerReference)
      (mem : payment ∈ db.bills.payments.rows) (id_eq : payment.id = paymentId)
      (wasOpen : isOpen payment.status = true)
      (found : Bills.accounts db payment.walletId payment.currency = .ok accounts)
      (post : db.ledger.postWithin (ctx.uuid 0) (releasePosting payment accounts) =
        .ok (posting, db'.ledger))
      (bills : Rewritten db db' payment.id .failed id)
      (intents : Synced db db' payment.paymentIntentId .failed)
  | /-- The provider had been paid, and the reserve was settled. -/
    settled (payment : BillPayment) (accounts : BillAccounts) (posting : LedgerReference)
      (mem : payment ∈ db.bills.payments.rows) (id_eq : payment.id = paymentId)
      (wasOpen : isOpen payment.status = true)
      (found : Bills.accounts db payment.walletId payment.currency = .ok accounts)
      (post : db.ledger.postWithin (ctx.uuid 0) (settlePosting payment accounts) =
        .ok (posting, db'.ledger))
      (bills : Rewritten db db' payment.id .successful fun _ ↦ .notRequired)
      (intents : Synced db db' payment.paymentIntentId .succeeded)
  | /-- A paid bill was taken back. -/
    reversed (payment : BillPayment) (accounts : BillAccounts) (posting : LedgerReference)
      (actorUserId : Uuid) (mem : payment ∈ db.bills.payments.rows) (id_eq : payment.id = paymentId)
      (wasPaid : payment.status = .successful)
      (found : Bills.accounts db payment.walletId payment.currency = .ok accounts)
      (post : db.ledger.postWithin (ctx.uuid 0) (reversalPosting payment accounts actorUserId) =
        .ok (posting, db'.ledger))
      (bills : Rewritten db db' payment.id .reversed fun _ ↦ .resolved)
      (intents : db'.paymentIntents = db.paymentIntents)
  | /-- The bill was left for reconciliation. -/
    uncertain (asked : isUncertain answer = true) (ledger : db'.ledger = db.ledger)
      (bills : Rewritten db db' paymentId .reconciliationRequired fun _ ↦ .pending)
      (intents : db'.paymentIntents = db.paymentIntents)

variable {ctx : Ctx} {db db' : Db}

theorem Rewritten.of_update {id : Uuid} {f : BillPayment → BillPayment}
    {payments : Table BillPayment} {status : BillPaymentStatus}
    {reconciliation : ReconciliationState → ReconciliationState}
    (h : updateRow db.bills.payments (fun p ↦ p.id = id) f = .ok payments)
    (hdb : db'.bills.payments = payments) (hterms : ∀ p, billTerms (f p) = billTerms p)
    (hstatus : ∀ p, (f p).status = status)
    (hstate : ∀ p, (f p).reconciliationState = reconciliation p.reconciliationState) :
    Rewritten db db' id status reconciliation := by
  refine ⟨f, ?_, hterms, hstatus, hstate⟩
  rw [hdb]
  simpa only [decide_eq_true_eq] using updateRow_eq_ok h

/-- A bill after the rewriting is an old one, or the rewritten one. -/
theorem Rewritten.cases {id : Uuid} {status : BillPaymentStatus}
    {reconciliation : ReconciliationState → ReconciliationState}
    (h : Rewritten db db' id status reconciliation) {p' : BillPayment}
    (hp' : p' ∈ db'.bills.payments.rows) :
    (p' ∈ db.bills.payments.rows ∧ p'.id ≠ id) ∨
      ∃ p ∈ db.bills.payments.rows, p.id = id ∧ billTerms p' = billTerms p ∧
        p'.status = status ∧ p'.reconciliationState = reconciliation p.reconciliationState := by
  obtain ⟨f, hrows, hterms, hstatus, hstate⟩ := h.map
  rw [hrows] at hp'
  obtain ⟨p, hp, rfl⟩ := List.mem_map.mp hp'
  split
  · next hid => exact .inr ⟨p, hp, hid, hterms p, hstatus p, hstate p⟩
  · next hid => exact .inl ⟨hp, hid⟩

/-- Every other bill is left alone. -/
theorem Rewritten.mem_of_ne {id : Uuid} {status : BillPaymentStatus}
    {reconciliation : ReconciliationState → ReconciliationState}
    (h : Rewritten db db' id status reconciliation) {p : BillPayment}
    (hp : p ∈ db.bills.payments.rows) (hid : p.id ≠ id) : p ∈ db'.bills.payments.rows := by
  obtain ⟨f, hrows, -⟩ := h.map
  rw [hrows]
  exact List.mem_map.mpr ⟨p, hp, if_neg hid⟩

/-- The bill itself got the status. -/
theorem Rewritten.exists_of_mem {id : Uuid} {status : BillPaymentStatus}
    {reconciliation : ReconciliationState → ReconciliationState}
    (h : Rewritten db db' id status reconciliation) {p : BillPayment}
    (hp : p ∈ db.bills.payments.rows) (hid : p.id = id) :
    ∃ p' ∈ db'.bills.payments.rows, billTerms p' = billTerms p ∧ p'.status = status ∧
      p'.reconciliationState = reconciliation p.reconciliationState := by
  obtain ⟨f, hrows, hterms, hstatus, hstate⟩ := h.map
  rw [hrows]
  exact ⟨f p, List.mem_map.mpr ⟨p, hp, if_pos hid⟩, hterms p, hstatus p, hstate p⟩

theorem bill_eq_of_id {p q : BillPayment} (hp : p ∈ db.bills.payments.rows)
    (hq : q ∈ db.bills.payments.rows) (h : p.id = q.id) : p = q :=
  db.bills.payments.eq_of_clash hp hq (.inl (.inl h))

theorem syncFailed_synced (db : Db) (intentId : Option Uuid) :
    Synced db (syncFailed db intentId) intentId .failed := by
  refine ⟨fun i ↦ { i with
    status := .failed
    failureReason := some ("The provider could not complete this payment. " ++
      "Your money is back in your wallet.") }, ?_, fun _ ↦ rfl, fun _ ↦ rfl,
    fun _ ↦ ⟨rfl, rfl, rfl⟩⟩
  simp only [syncFailed, Table.rows_modify, decide_eq_true_eq]

theorem syncSucceeded_synced (ctx : Ctx) (db : Db) (intentId : Option Uuid) :
    Synced db (syncSucceeded ctx db intentId) intentId .succeeded := by
  refine ⟨fun i ↦ { i with status := .succeeded, settledAt := some ctx.now }, ?_, fun _ ↦ rfl,
    fun _ ↦ rfl, fun _ ↦ ⟨rfl, rfl, rfl⟩⟩
  simp only [syncSucceeded, Table.rows_modify, decide_eq_true_eq]

theorem releaseBill_eq_ok {payment : BillPayment} {found : BillAccounts}
    {result : ProviderBillPayment} {p : BillPayment}
    (h : releaseBill ctx db payment found result = .ok (p, db')) :
    ∃ posting, db.ledger.postWithin (ctx.uuid 0) (releasePosting payment found) =
        .ok (posting, db'.ledger) ∧
      Rewritten db db' payment.id .failed id ∧ Synced db db' payment.paymentIntentId .failed := by
  simp only [releaseBill, bind_eq_ok, require_eq_ok, pure_eq_ok, exists_const, Prod.exists,
    Prod.mk.injEq] at h
  obtain ⟨posting, ledger, hpost, -, payments, hpayments, _, -, -, rfl⟩ := h
  exact ⟨posting, hpost, .of_update hpayments rfl (fun _ ↦ rfl) (fun _ ↦ rfl) fun _ ↦ rfl,
    syncFailed_synced _ payment.paymentIntentId⟩

theorem settleBill_eq_ok {payment : BillPayment} {found : BillAccounts}
    {result : ProviderBillPayment} {p : BillPayment}
    (h : settleBill ctx db payment found result = .ok (p, db')) :
    ∃ posting, db.ledger.postWithin (ctx.uuid 0) (settlePosting payment found) =
        .ok (posting, db'.ledger) ∧
      Rewritten db db' payment.id .successful (fun _ ↦ .notRequired) ∧
      Synced db db' payment.paymentIntentId .succeeded := by
  simp only [settleBill, bind_eq_ok, require_eq_ok, pure_eq_ok, exists_const, Prod.exists,
    Prod.mk.injEq] at h
  obtain ⟨posting, ledger, hpost, -, payments, hpayments, _, -, _, -, -, rfl⟩ := h
  exact ⟨posting, hpost, .of_update hpayments rfl (fun _ ↦ rfl) (fun _ ↦ rfl) fun _ ↦ rfl,
    syncSucceeded_synced ctx _ payment.paymentIntentId⟩

theorem releaseBill_handled {payment : BillPayment} {found : BillAccounts}
    {result : ProviderBillPayment} {p : BillPayment} (hmem : payment ∈ db.bills.payments.rows)
    (hopen : isOpen payment.status = true)
    (hfound : accounts db payment.walletId payment.currency = .ok found)
    (h : releaseBill ctx db payment found result = .ok (p, db')) :
    Handled ctx payment.id (some result) db db' := by
  obtain ⟨posting, hpost, hbills, hintents⟩ := releaseBill_eq_ok h
  exact .released payment found posting hmem rfl hopen hfound hpost hbills hintents

theorem settleBill_handled {payment : BillPayment} {found : BillAccounts}
    {result : ProviderBillPayment} {p : BillPayment} (hmem : payment ∈ db.bills.payments.rows)
    (hopen : isOpen payment.status = true)
    (hfound : accounts db payment.walletId payment.currency = .ok found)
    (h : settleBill ctx db payment found result = .ok (p, db')) :
    Handled ctx payment.id (some result) db db' := by
  obtain ⟨posting, hpost, hbills, hintents⟩ := settleBill_eq_ok h
  exact .settled payment found posting hmem rfl hopen hfound hpost hbills hintents

theorem concludeBill_handled {paymentId : Uuid} {result : ProviderBillPayment} {p : BillPayment}
    (h : concludeBill ctx db paymentId result = .ok (p, db')) :
    Handled ctx paymentId (some result) db db' := by
  rw [concludeBill, orThrow_bind_eq_ok] at h
  obtain ⟨payment, hfind, h⟩ := h
  have hmem := Table.mem_of_find? hfind
  have hid : payment.id = paymentId := by simpa using Table.prop_of_find? hfind
  subst hid
  split at h
  · cases h
    exact .nothing rfl
  · next hstatus =>
      have hopen : isOpen payment.status = true := by
        rw [isOpen, decide_eq_true_eq]
        by_contra hclosed
        exact hstatus (not_or.mp hclosed)
      rw [bind_eq_ok] at h
      obtain ⟨found, hfound, h⟩ := h
      split at h
      · exact releaseBill_handled hmem hopen hfound h
      · exact settleBill_handled hmem hopen hfound h

theorem applyReversal_handled {paymentId actorUserId : Uuid} {result : ProviderBillPayment}
    {p : BillPayment} (h : applyReversal ctx db paymentId actorUserId result = .ok (p, db')) :
    Handled ctx paymentId (some result) db db' := by
  rw [applyReversal, orThrow_bind_eq_ok] at h
  obtain ⟨payment, hfind, h⟩ := h
  have hid : payment.id = paymentId := by simpa using Table.prop_of_find? hfind
  split at h
  · cases h
    exact .nothing rfl
  · simp only [bind_eq_ok, require_eq_ok, pure_eq_ok, exists_const, Prod.exists,
      Prod.mk.injEq] at h
    obtain ⟨hpaid, found, hfound, posting, ledger, hpost, -, _, -, payments, hpayments, -, rfl⟩ := h
    exact .reversed payment found posting actorUserId (Table.mem_of_find? hfind) hid hpaid hfound
      hpost
      (.of_update hpayments rfl (fun _ ↦ rfl) (fun _ ↦ rfl) fun _ ↦ rfl) rfl

/-- `markUncertain` rewrites the bill, whatever its status. -/
theorem markUncertain_eq_ok {paymentId : Uuid} {result : Option ProviderBillPayment} {u : PUnit}
    (h : markUncertain ctx db paymentId result = .ok (u, db')) :
    db'.ledger = db.ledger ∧
      Rewritten db db' paymentId .reconciliationRequired (fun _ ↦ .pending) ∧
      db'.paymentIntents = db.paymentIntents := by
  simp only [markUncertain, bind_eq_ok, require_eq_ok, pure_eq_ok, exists_const,
    Prod.mk.injEq] at h
  obtain ⟨-, payments, hpayments, _, -, -, rfl⟩ := h
  exact ⟨rfl, .of_update hpayments rfl (fun _ ↦ rfl) (fun _ ↦ rfl) fun _ ↦ rfl, rfl⟩

theorem markUncertain_handled {paymentId : Uuid} {result : Option ProviderBillPayment} {u : PUnit}
    (hasked : isUncertain result = true)
    (h : markUncertain ctx db paymentId result = .ok (u, db')) :
    Handled ctx paymentId result db db' := by
  obtain ⟨hledger, hbills, hintents⟩ := markUncertain_eq_ok h
  exact .uncertain hasked hledger hbills hintents

theorem Handled.committed {α : Type} {paymentId : Uuid} {answer : Option ProviderBillPayment}
    {result : Except ServiceError (α × Db)}
    (h : ∀ a db', result = .ok (a, db') → Handled ctx paymentId answer db db') :
    Handled ctx paymentId answer db (committed db result) := by
  rcases committed_cases db result with hsame | ⟨a, after, hok, hafter⟩
  · exact .nothing hsame
  · rw [hafter]
    exact h a after hok

/-- Whatever the provider answers, at most one of these happens. -/
theorem applyProviderResult_handled (ctx : Ctx) (db : Db) (paymentId userId : Uuid)
    (result : ProviderBillPayment) :
    Handled ctx paymentId (some result) db
      (applyProviderResult ctx db paymentId userId result) := by
  unfold applyProviderResult
  split
  · exact .committed fun _ _ h ↦ applyReversal_handled h
  · next hstate =>
      exact .committed fun _ _ h ↦ markUncertain_handled (decide_eq_true (.inl hstate)) h
  · next hstate =>
      exact .committed fun _ _ h ↦ markUncertain_handled (decide_eq_true (.inr hstate)) h
  · exact .committed fun _ _ h ↦ concludeBill_handled h
  · exact .committed fun _ _ h ↦ concludeBill_handled h

end AjoCloud.Bills
