import AjoCloud.Lib.Threads
import AjoCloud.Platform.Effects

/-!
# Bills under way

A bill is reserved in one transaction, the provider is asked, and the answer is applied in another
transaction; between the two, and between the reads of `completeIntentPayment` and `reconcile` and
what they lead to, any other request may run.  A `Task` is such a request, and a run of the pool of
tasks is any interleaving of any of them, with any answers.
-/

namespace AjoCloud.Platform

open Lib Ledger Payments Bills

/-! ## Tasks -/

/-- A request about bills, or any other call. -/
inductive Task where
  /-- Any other call: it is one transaction. -/
  | call (call : Call)
  /-- `settleFromWallet`, before its transaction. -/
  | pay (userId intentId : Uuid) (idempotencyKey : String) (customerReference : Option String)
  /-- `completeIntentPayment`, before it reads the bill. -/
  | complete (userId intentId : Uuid) (customerReference : Option String)
  /-- `create`, before its transaction. -/
  | create (validation : BillCustomerValidation) (userId : Uuid) (idempotencyKey requestHash : String)
      (dto : CreateBillPaymentDto)
  /-- The bill is unanswered; the provider is asked unless there is no reference to send. -/
  | await (paymentId userId : Uuid) (asks : Bool)
  /-- `reconcile`, before it reads the bill. -/
  | reconcile (actorUserId paymentId : Uuid)
  /-- `reconcile`, once it found the bill awaiting reconciliation. -/
  | inquire (paymentId actorUserId : Uuid)

/-- What a step is told: the clock and the identifiers, and what the provider answers when it is
asked.  There is no answer when the call throws. -/
structure Told where
  ctx : Ctx
  answer : Option ProviderBillPayment

/-- The intent is settled by the transaction that is about to open. -/
def settlesNow (db : Db) (userId intentId : Uuid) : Bool :=
  (db.paymentIntents.find? fun i ↦ i.id = intentId ∧ i.userId = userId).any
    fun i ↦ i.status = .requiresConfirmation

/-- The key has not been used for a bill. -/
def isNewBill (db : Db) (userId : Uuid) (idempotencyKey : String) : Bool :=
  (db.bills.payments.find? fun p ↦ p.userId = userId ∧ p.idempotencyKey = idempotencyKey).isNone

/-- One step of a task. -/
def exec (config : BillConfig) (o : Told) (db : Db) : Task → Db × Option Task
  | .call call => (step config db call, none)
  | .pay userId intentId key customerReference =>
      match targetOf config db intentId with
      | none => (db, none)
      | some target =>
          match settleFromWallet o.ctx db target userId intentId key with
          | .error _ => (db, none)
          | .ok (_, db') => (db',
              if target.completesLater ∧ settlesNow db userId intentId then
                some (.complete userId intentId customerReference)
              else none)
  | .complete userId intentId customerReference =>
      match db.bills.payments.find? fun p ↦
          p.userId = userId ∧ p.idempotencyKey = intentPaymentKey intentId with
      | none => (db, none)
      | some payment =>
          (db, if payment.status = .pending then
            some (.await payment.id userId (truthy customerReference).isSome) else none)
  | .create validation userId key hash dto =>
      match reserve o.ctx db config validation userId key hash dto with
      | .error _ => (db, none)
      | .ok (payment, db') =>
          (db', if isNewBill db userId key then some (.await payment.id userId true) else none)
  | .await paymentId userId asks =>
      (applyAnswer o.ctx db paymentId userId (if asks then o.answer else none), none)
  | .reconcile actorUserId paymentId =>
      match db.bills.payments.find? fun p ↦ p.id = paymentId with
      | none => (db, none)
      | some payment =>
          (db, if payment.reconciliationState = .pending then
            some (.inquire payment.id actorUserId) else none)
  | .inquire paymentId actorUserId =>
      match o.answer with
      | none => (db, none)
      | some result => (applyProviderResult o.ctx db paymentId actorUserId result, none)

/-- The call that the step of a task makes. -/
def Task.toCall (o : Told) : Task → Option Call
  | .call c => some c
  | .pay userId intentId key _ => some (.settleFromWallet o.ctx userId intentId key)
  | .create validation userId key hash dto => some (.reserveBill o.ctx validation userId key hash dto)
  | .await paymentId userId asks =>
      match if asks then o.answer else none with
      | none => some (.markUncertain o.ctx paymentId)
      | some result => some (.applyProviderResult o.ctx paymentId userId result)
  | .inquire paymentId actorUserId =>
      o.answer.map fun result ↦ .applyProviderResult o.ctx paymentId actorUserId result
  | .complete .. | .reconcile .. => none

/-- A step of a task is one call, or a read. -/
theorem exec_fst (config : BillConfig) (o : Told) (db : Db) (t : Task) :
    (exec config o db t).1 = match t.toCall o with
      | some call => step config db call
      | none => db := by
  cases t with
  | call call => rfl
  | pay userId intentId key customerReference =>
      simp only [exec, Task.toCall, step]
      cases targetOf config db intentId with
      | none => rfl
      | some target =>
          dsimp only
          rcases settleFromWallet o.ctx db target userId intentId key with e | ⟨r, db'⟩
          · rfl
          · rfl
  | complete userId intentId customerReference =>
      simp only [exec, Task.toCall]
      split
      · rfl
      · rfl
  | create validation userId key hash dto =>
      simp only [exec, Task.toCall, step]
      rcases reserve o.ctx db config validation userId key hash dto with e | ⟨r, db'⟩
      · rfl
      · rfl
  | await paymentId userId asks =>
      simp only [exec, Task.toCall]
      cases (if asks then o.answer else none) with
      | none => rfl
      | some result => rfl
  | reconcile actorUserId paymentId =>
      simp only [exec, Task.toCall]
      split
      · rfl
      · rfl
  | inquire paymentId actorUserId =>
      simp only [exec, Task.toCall]
      cases o.answer with
      | none => rfl
      | some result => rfl

/-- `completeIntentPayment` is its two steps, with nothing between them. -/
theorem completeIntentPayment_eq (config : BillConfig) (o : Told) (db : Db) (userId intentId : Uuid)
    (customerReference : Option String) :
    completeIntentPayment o.ctx db userId intentId customerReference (fun _ _ ↦ o.answer) =
      match exec config o db (.complete userId intentId customerReference) with
      | (db', none) => db'
      | (db', some t) => (exec config o db' t).1 := by
  simp only [completeIntentPayment, exec]
  cases hfind : db.bills.payments.find? fun p ↦
      p.userId = userId ∧ p.idempotencyKey = intentPaymentKey intentId with
  | none => rfl
  | some payment =>
      by_cases hpending : payment.status = .pending
      · simp only [hpending, if_true]
        cases truthy customerReference with
        | none => rfl
        | some reference => rfl
      · simp only [hpending, if_false]

/-- `reconcile` is its two steps, with nothing between them. -/
theorem reconcile_eq (config : BillConfig) (o : Told) (db : Db) (actorUserId paymentId : Uuid) :
    (Bills.reconcile o.ctx db actorUserId paymentId fun _ ↦ o.answer).2 =
      match exec config o db (.reconcile actorUserId paymentId) with
      | (db', none) => db'
      | (db', some t) => (exec config o db' t).1 := by
  simp only [Bills.reconcile, reconcileAnswer, exec]
  cases db.bills.payments.find? fun p ↦ p.id = paymentId with
  | none => rfl
  | some payment =>
      simp only [orThrow, bind, Except.bind]
      by_cases hpending : payment.reconciliationState = .pending
      · simp only [require, hpending, if_true]
        cases o.answer with
        | none => rfl
        | some result => rfl
      · simp only [require, hpending, if_false]

/-! ## What callers promise -/

/-- What was checked before the transaction: `confirm` hands a payment to the provider only for a
method the target takes, a webhook finds its intent by the provider's reference, and the rest of
the platform leaves bills to the bill service. -/
def Permitted (config : BillConfig) (db : Db) : Call → Prop
  | .startExternal _ _ _ intentId method => ∀ i ∈ db.paymentIntents.rows, i.id = intentId →
      method ≠ .wallet ∧ method ∈ (targets config i.targetType).methods
  | .settleDeposit _ intentId | .failIntent intentId _ =>
      ∀ i ∈ db.paymentIntents.rows, i.id = intentId → i.providerReference ≠ none
  | .elsewhere change => (change.update db).bills.payments.rows = db.bills.payments.rows
  | _ => True

/-- The bill that a call leaves for reconciliation. -/
def uncertainBill : Call → Option Uuid
  | .markUncertain _ paymentId => some paymentId
  | .applyProviderResult _ paymentId _ result =>
      if isUncertain (some result) then some paymentId else none
  | _ => none

/-- `markUncertain` finds the bill unanswered. -/
def FindsOpen (db : Db) (call : Call) : Prop :=
  ∀ id ∈ uncertainBill call, ∀ p ∈ db.bills.payments.rows, p.id = id → isOpen p.status = true

instance (config : BillConfig) (db : Db) : (call : Call) → Decidable (Permitted config db call)
  | .startExternal _ _ _ intentId method => inferInstanceAs (Decidable
      (∀ i ∈ db.paymentIntents.rows, i.id = intentId →
        method ≠ .wallet ∧ method ∈ (targets config i.targetType).methods))
  | .settleDeposit _ intentId => inferInstanceAs (Decidable
      (∀ i ∈ db.paymentIntents.rows, i.id = intentId → i.providerReference ≠ none))
  | .failIntent intentId _ => inferInstanceAs (Decidable
      (∀ i ∈ db.paymentIntents.rows, i.id = intentId → i.providerReference ≠ none))
  | .elsewhere change => inferInstanceAs (Decidable
      ((change.update db).bills.payments.rows = db.bills.payments.rows))
  | .send .. | .withdraw .. | .ajo _ | .createIntent .. | .settleFromWallet .. | .reserveBill ..
  | .applyProviderResult .. | .markUncertain .. | .cancelSubscription .. | .award .. =>
      inferInstanceAs (Decidable True)

instance (db : Db) (call : Call) : Decidable (FindsOpen db call) :=
  inferInstanceAs (Decidable (∀ id ∈ uncertainBill call, ∀ p ∈ db.bills.payments.rows, p.id = id →
    isOpen p.status = true))

/-! ## What a call does to the bills -/

/-- The bills after a call. -/
inductive BillEffect (db db' : Db) (call : Call) : Prop
  | same (bills : db'.bills.payments.rows = db.bills.payments.rows)
  | added (p : BillPayment) (new : p.status = .pending ∧ p.reconciliationState = .notRequired)
      (insert : db.bills.payments.insert p = some db'.bills.payments)
  | handled (ctx : Ctx) (paymentId : Uuid) (answer : Option ProviderBillPayment)
      (done : Handled ctx paymentId answer db db')
      (asked : isUncertain answer = true → uncertainBill call = some paymentId)

variable {config : BillConfig} {db db' : Db} {call : Call}

theorem Recorded.bills {ctx : Ctx} {payment : SettledPayment} {type : PaymentTargetType}
    (h : Recorded config ctx payment db db' type) :
    db'.bills.payments = db.bills.payments ∨
      ∃ p, p.status = .pending ∧ p.reconciliationState = .notRequired ∧
        p.paymentIntentId = some payment.intentId ∧ p.userId = payment.userId ∧
        p.idempotencyKey = intentPaymentKey payment.intentId ∧ type = .billPayment ∧
        db.bills.payments.insert p = some db'.bills.payments := by
  cases h with
  | elsewhere _ after => exact .inl (congrArg Records.bills after)
  | contribution _ _ _ _ _ _ _ after => exact .inl (congrArg Records.bills after)
  | bill validation wallet _ _ insert _ =>
      exact .inr ⟨_, rfl, rfl, rfl, rfl, rfl, rfl, insert⟩

theorem Effect.bills (h : Effect config db db' call) (hp : Permitted config db call) :
    BillEffect db db' call := by
  have hsame : ∀ {r : Records}, records db' = r → r.bills = db.bills.payments →
      BillEffect db db' call := by
    intro r hr hb
    exact .same (congrArg Table.rows ((congrArg Records.bills hr).trans hb))
  cases h with
  | idle _ after => exact hsame after rfl
  | sent _ _ _ _ _ done => exact hsame done.after rfl
  | withdrew _ _ _ _ _ done => exact hsame done.after rfl
  | contributed _ _ _ _ _ _ done => exact hsame done.after rfl
  | paidOut _ _ _ _ _ _ _ _ _ _ done => exact hsame done.records rfl
  | created _ _ _ _ after => exact hsame after rfl
  | paid ctx userId intent key walletId target payer destination opened posting settled done _ =>
      have hopened : opened.bills.payments = db.bills.payments := by rw [done.opened_eq]
      have hdb' : db'.bills.payments = settled.bills.payments := congrArg Records.bills done.after
      rcases done.record.bills with hb | ⟨p, hst, hrec, -, -, -, -, hins⟩
      · exact .same (congrArg Table.rows (hdb'.trans (hb.trans hopened)))
      · refine .added p ⟨hst, hrec⟩ ?_
        rw [hdb', ← hopened]
        exact hins
  | charged _ _ _ _ _ after => exact hsame after rfl
  | banked _ _ _ _ done => exact hsame done.after rfl
  | failed same =>
      rw [same]
      exact .same rfl
  | reserved _ _ _ _ done => exact .added _ ⟨rfl, rfl⟩ done.insert
  | answered done _ =>
      exact .handled _ _ _ done fun hasked ↦ by rw [uncertainBill, if_pos hasked]
  | unanswered done _ _ => exact .handled _ _ _ done fun _ ↦ rfl
  | refunded _ _ _ _ _ _ _ done => exact hsame done.after rfl
  | rewarded _ _ _ _ done => exact hsame done.after rfl
  | elsewhere change same =>
      rw [same]
      exact .same hp

end AjoCloud.Platform
