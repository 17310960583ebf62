import AjoCloud.Ledger.Accounts
import AjoCloud.Payments.Basic

/-!
# Paying for food subscriptions

The payment rules of `food-ajo-policy.ts`, `FoodSubscriptionTarget`, and the withdrawal of a
subscription with its refund.  A programme's money is held in an escrow account of its own.
-/

namespace AjoCloud.Food

open Lib ServiceError Ledger Payments

/-! ## `food-ajo-policy.ts` -/

/-- The code of a programme's escrow account. -/
def escrowAccountCode (programmeId : Uuid) : String :=
  "FOOD_PROGRAMME:" ++ (programmeId.toString ++ ":ESCROW")

/-- What a subscription costs. -/
def subscriptionTotalMinor (priceMinor quantity : Int) : Int := priceMinor * quantity

/-- A programme collects payment while it is open or active. -/
def acceptsPayment (programmeStatus : FoodAjoStatus) : Bool :=
  programmeStatus = .open || programmeStatus = .active

/-- A paid subscription is refundable only before procurement begins. -/
def canRefundSubscription (programmeStatus : FoodAjoStatus) : Bool := programmeStatus = .open

/-- Only a subscription that has not been fulfilled may be withdrawn. -/
def canCancelSubscription (status : FoodSubscriptionStatus) : Bool :=
  status = .pending || status = .active

theorem codePurpose_escrowAccountCode (programmeId : Uuid) :
    codePurpose (escrowAccountCode programmeId) = some .foodProgrammeEscrow := by
  unfold escrowAccountCode
  rw [codePurpose, if_neg (not_isPrefixOf_append 1 (by simp) (by simp) (by simp) _),
    if_pos (isPrefixOf_append _ _)]

/-! ## The escrow account -/

/-- The escrow account of a programme, as it is created on first use. -/
def newEscrowAccount (id programmeId : Uuid) (currency : String) : FinancialAccount where
  id := id
  code := escrowAccountCode programmeId
  name := "Food Ajo programme escrow " ++ programmeId.toString
  type := .liability
  purpose := some .foodProgrammeEscrow
  currency := currency
  walletId := none
  isActive := true
  purpose_eq := .inr (codePurpose_escrowAccountCode programmeId)

/-- `escrowAccountWithin`; `id` is the identifier a new account gets. -/
def escrowAccountWithin (db : Db) (id programmeId : Uuid) (currency : String) :
    Except ServiceError (Uuid × Db) :=
  match db.ledger.accounts.find? fun a ↦ a.code = escrowAccountCode programmeId with
  | some existing => do
      require existing.isActive (unprocessable "This programme’s account is not active")
      pure (existing.id, db)
  | none => do
      let ledger ← db.ledger.createAccount (newEscrowAccount id programmeId currency)
      pure (id, { db with ledger := ledger })

/-- The escrow account is the one with the programme's code, which is opened if need be. -/
theorem escrowAccountWithin_opens {db db' : Db} {id programmeId escrow : Uuid} {currency : String}
    (h : escrowAccountWithin db id programmeId currency = .ok (escrow, db')) :
    db' = { db with ledger := db'.ledger } ∧ Opened db.ledger db'.ledger ∧
      ∃ a ∈ db'.ledger.accounts.rows, a.id = escrow ∧ a.code = escrowAccountCode programmeId := by
  unfold escrowAccountWithin at h
  split at h
  · next a ha =>
      simp only [bind_eq_ok, require_eq_ok, pure_eq_ok, exists_const, Prod.mk.injEq] at h
      obtain ⟨-, rfl, rfl⟩ := h
      exact ⟨rfl, .refl _, a, Table.mem_of_find? ha, rfl, by simpa using Table.prop_of_find? ha⟩
  · simp only [bind_eq_ok, pure_eq_ok, Prod.mk.injEq] at h
    obtain ⟨ledger, hcreate, rfl, rfl⟩ := h
    refine ⟨rfl, opened_of_createAccount hcreate, newEscrowAccount id programmeId currency, ?_, rfl,
      rfl⟩
    rw [(createAccount_eq_ok hcreate).2.1]
    exact List.mem_append_right _ (List.mem_singleton_self _)

theorem purpose_of_escrowAccountCode {a : FinancialAccount} {programmeId : Uuid}
    (h : a.code = escrowAccountCode programmeId) : a.purpose = some .foodProgrammeEscrow :=
  purpose_of_codePurpose (h ▸ codePurpose_escrowAccountCode programmeId)

/-- `escrowAccountWithin` hands back an escrow. -/
theorem escrowAccountWithin_eq_ok {db db' : Db} {id programmeId escrow : Uuid} {currency : String}
    (h : escrowAccountWithin db id programmeId currency = .ok (escrow, db')) :
    db' = { db with ledger := db'.ledger } ∧ Opened db.ledger db'.ledger ∧
      ∃ a ∈ db'.ledger.accounts.rows, a.id = escrow ∧ a.purpose = some .foodProgrammeEscrow := by
  obtain ⟨hdb, hopened, a, ha, hid, hcode⟩ := escrowAccountWithin_opens h
  exact ⟨hdb, hopened, a, ha, hid, purpose_of_escrowAccountCode hcode⟩

/-! ## `FoodSubscriptionTarget` -/

/-- A subscription with its programme and package. -/
structure Enrolment where
  subscription : FoodSubscription
  group : FoodAjoGroup
  package : FoodPackage

/-- `FoodSubscriptionTarget.owned`: the subscription, provided it is the caller's. -/
def owned (db : Db) (userId : Uuid) (subscriptionId : Option Uuid) :
    Except ServiceError Enrolment := do
  let id ← orThrow subscriptionId (notFound "That enrolment was not found")
  let subscription ← orThrow (db.food.subscriptions.find? fun s ↦ s.id = id)
    (notFound "That enrolment was not found")
  let group ← orThrow (db.food.groups.find? fun g ↦ g.id = subscription.groupId)
    (.database .recordNotFound)
  let package ← orThrow (db.food.packages.find? fun p ↦ p.id = subscription.packageId)
    (.database .recordNotFound)
  require (subscription.userId = userId) (notFound "That enrolment was not found")
  pure ⟨subscription, group, package⟩

/-- `FoodSubscriptionTarget.label`. -/
def label (e : Enrolment) : String :=
  "Food: " ++ e.group.name ++ (", " ++ e.package.name ++
    if 1 < e.subscription.quantity then " × " ++ toString e.subscription.quantity else "")

/-- `FoodSubscriptionTarget.resolve`. -/
def resolveSubscription (db : Db) (userId : Uuid) (subscriptionId : Option Uuid) :
    Except ServiceError ResolvedTarget := do
  let e ← owned db userId subscriptionId
  require (e.subscription.status ≠ .active) (conflict "This enrolment has already been paid")
  require (e.subscription.status = .pending) (conflict "This enrolment can no longer be paid")
  require (acceptsPayment e.group.status) (conflict "This programme is not collecting payments")
  let outstanding := subscriptionTotalMinor e.package.priceMinor e.subscription.quantity -
    e.subscription.amountPaidMinor
  require (¬ outstanding ≤ 0) (conflict "This enrolment has already been paid")
  pure ⟨outstanding, e.package.currency, label e⟩

/-- `FoodSubscriptionTarget.creditAccount`. -/
def creditEscrow (ctx : Ctx) (db : Db) (subscriptionId : Option Uuid) (currency : String) :
    Except ServiceError (Uuid × Db) := do
  let id ← orThrow subscriptionId (notFound "That enrolment was not found")
  let subscription ← orThrow (db.food.subscriptions.find? fun s ↦ s.id = id)
    (notFound "That enrolment was not found")
  escrowAccountWithin db (ctx.uuid 1) subscription.groupId currency

/-- What a payment writes on its subscription. -/
def creditSubscription (e : Enrolment) (amountMinor : Int) (now : Timestamp)
    (row : FoodSubscription) : FoodSubscription :=
  if subscriptionTotalMinor e.package.priceMinor e.subscription.quantity ≤
      e.subscription.amountPaidMinor + amountMinor then
    { row with
      amountPaidMinor := e.subscription.amountPaidMinor + amountMinor
      status := .active
      paidAt := some now }
  else { row with amountPaidMinor := e.subscription.amountPaidMinor + amountMinor }

/-- `FoodSubscriptionTarget.settle`. -/
def settleSubscription (ctx : Ctx) (db : Db) (payment : SettledPayment) :
    Except ServiceError Db := do
  let e ← owned db payment.userId payment.targetId
  require (fitsBigInt (e.subscription.amountPaidMinor + payment.amountMinor))
    (.database .valueTooLong)
  require (0 ≤ e.subscription.amountPaidMinor + payment.amountMinor) (.database .checkConstraint)
  let subscriptions ← updateRow db.food.subscriptions (fun s ↦ s.id = e.subscription.id)
    (creditSubscription e payment.amountMinor ctx.now)
  pure { db with food := { db.food with subscriptions := subscriptions } }

/-- `FoodSubscriptionTarget`: a member's enrolment in a programme. -/
def foodSubscriptionTarget : PaymentTarget where
  type := .foodSubscription
  methods := [.wallet]
  amountRule := .fixed
  feeCode := none
  holdsFee := false
  completesLater := false
  resolve := fun _ db userId subscriptionId _ ↦ resolveSubscription db userId subscriptionId
  creditAccount := creditEscrow
  settle := settleSubscription

/-! ## Withdrawing a subscription -/

/-- The ledger key of a refund. -/
def refundKey (subscriptionId : Uuid) (paidAt : Option Timestamp) : String :=
  "food-refund:" ++ (subscriptionId.toString ++ (":" ++ toString (paidAt.getD 0)))

/-- The posting of a refund. -/
def refundPosting (userId programmeId : Uuid) (subscription : FoodSubscription) (currency : String)
    (escrow wallet : Uuid) : LedgerPostingCommand where
  idempotencyKey := refundKey subscription.id subscription.paidAt
  reference := "FOOD-REFUND-" ++ subscription.id.shortCode
  description := "Food Ajo enrolment refund"
  currency := currency
  initiatedByUserId := some userId
  correlationId := some programmeId.toString
  entries := [⟨escrow, .debit, subscription.amountPaidMinor⟩,
    ⟨wallet, .credit, subscription.amountPaidMinor⟩]

/-- `FoodSubscriptionTarget.refundWithin`. -/
def refundWithin (ctx : Ctx) (db : Db) (userId programmeId : Uuid) (programmeStatus : FoodAjoStatus)
    (subscription : FoodSubscription) (currency : String) : Except ServiceError Db :=
  if subscription.amountPaidMinor ≤ 0 then pure db
  else do
    require (canRefundSubscription programmeStatus)
      (conflict ("Buying has begun for this programme, so a paid enrolment can no longer be " ++
        "withdrawn"))
    let wallet ← orThrow (db.wallets.find? fun w ↦ w.userId = userId ∧ w.currency = currency)
      (unprocessable "No wallet is available to refund to")
    let walletAccount ← orThrow
      (db.ledger.accounts.find? fun a ↦ a.walletId = some wallet.id ∧
        a.purpose = some .walletAvailable ∧ a.currency = currency ∧ a.isActive)
      (unprocessable "No wallet is available to refund to")
    let (escrow, db) ← escrowAccountWithin db (ctx.uuid 1) programmeId currency
    let (_, ledger) ← db.ledger.postWithin (ctx.uuid 0)
      (refundPosting userId programmeId subscription currency escrow walletAccount.id)
    pure { db with ledger := ledger }

/-- What the withdrawal writes on the subscription. -/
def markCancelled (row : FoodSubscription) : FoodSubscription :=
  { row with status := .cancelled, amountPaidMinor := 0, paidAt := none }

/-- `cancelSubscription`. -/
def cancelSubscription (ctx : Ctx) (db : Db) (userId programmeId : Uuid) :
    Except ServiceError (FoodSubscription × Db) := do
  let subscription ← orThrow
    (db.food.subscriptions.find? fun s ↦ s.groupId = programmeId ∧ s.userId = userId)
    (notFound "You are not enrolled in this programme")
  let group ← orThrow (db.food.groups.find? fun g ↦ g.id = subscription.groupId)
    (.database .recordNotFound)
  let package ← orThrow (db.food.packages.find? fun p ↦ p.id = subscription.packageId)
    (.database .recordNotFound)
  require (canCancelSubscription subscription.status)
    (conflict "This enrolment can no longer be withdrawn")
  let db ← refundWithin ctx db userId programmeId group.status subscription package.currency
  let subscriptions ← updateRow db.food.subscriptions (fun s ↦ s.id = subscription.id)
    markCancelled
  pure (markCancelled subscription,
    { db with food := { db.food with subscriptions := subscriptions } })

end AjoCloud.Food
