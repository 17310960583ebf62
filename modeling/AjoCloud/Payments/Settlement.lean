import AjoCloud.Payments.Basic

/-!
# Settling external payments

`PaymentSettlementService`: what a verified webhook does to the intent whose provider reference it
carries.  Success posts the deposit; failure posts nothing.
-/

namespace AjoCloud.Payments

open Lib ServiceError Ledger

/-- `SettlementOutcome`. -/
inductive SettlementOutcome where
  | settled (intentId : Uuid)
  | failed (intentId : Uuid)
  | unmatched
  | alreadySettled (intentId : Uuid)
deriving DecidableEq

/-- The accounts a deposit touches. -/
structure DepositAccounts where
  available : FinancialAccount
  providerPayable : FinancialAccount
  feeRevenue : FinancialAccount

/-- `accountsFor`. -/
def accountsFor (db : Db) (userId : Uuid) (currency : String) :
    Except ServiceError DepositAccounts := do
  let wallet ← orThrow (db.wallets.find? fun w ↦ w.userId = userId ∧ w.currency = currency)
    (.plain "The paying user has no wallet in this currency")
  let available ← orThrow
    (db.ledger.accounts.find? fun a ↦ a.walletId = some wallet.id ∧
      a.purpose = some .walletAvailable)
    (.database .recordNotFound)
  let providerPayable ← orThrow
    (db.ledger.accounts.find? fun a ↦ a.purpose = some .providerPayable ∧ a.currency = currency)
    (.database .recordNotFound)
  let feeRevenue ← orThrow
    (db.ledger.accounts.find? fun a ↦ a.purpose = some .platformFeeRevenue ∧
      a.currency = currency)
    (.database .recordNotFound)
  pure ⟨available, providerPayable, feeRevenue⟩

/-- The ledger key of a deposit. -/
def depositKey (intentId : Uuid) : String := "payment-settlement:" ++ intentId.toString

/-- The posting of a deposit: the provider's gross, the wallet's credit net of the fee, and the
fee. -/
def depositPosting (intent : PaymentIntent) (accounts : DepositAccounts) :
    LedgerPostingCommand where
  idempotencyKey := depositKey intent.id
  reference := "DEP-" ++ intent.id.shortCode
  description := "Wallet deposit"
  currency := intent.currency
  initiatedByUserId := none
  correlationId := some intent.id.toString
  entries :=
    [⟨accounts.providerPayable.id, .debit, intent.amountMinor⟩,
      ⟨accounts.available.id, .credit, intent.amountMinor - intent.feeMinor⟩] ++
    if 0 < intent.feeMinor then [⟨accounts.feeRevenue.id, .credit, intent.feeMinor⟩] else []

/-- What a deposit writes on its intent. -/
def markDeposited (ctx : Ctx) (posting : LedgerReference) (intent : PaymentIntent) :
    PaymentIntent :=
  { intent with
    status := .succeeded
    ledgerTransactionId := some posting.id
    settledAt := some ctx.now }

/-- The posting of a deposit and the update of its intent. -/
def postDeposit (ctx : Ctx) (db : Db) (intent : PaymentIntent) :
    Except ServiceError (SettlementOutcome × Db) := do
  let accounts ← accountsFor db intent.userId intent.currency
  let (posting, ledger) ← db.ledger.postWithin (ctx.uuid 0) (depositPosting intent accounts)
  let paymentIntents ← updateRow db.paymentIntents (fun i ↦ i.id = intent.id)
    (markDeposited ctx posting)
  pure (.settled intent.id, { db with ledger := ledger, paymentIntents := paymentIntents })

/-- The transaction of `settleSuccessful`, for the intent that was found before it opened. -/
def settleDeposit (ctx : Ctx) (db : Db) (intentId : Uuid) :
    Except ServiceError (SettlementOutcome × Db) :=
  match db.paymentIntents.find? fun i ↦ i.id = intentId with
  | none => pure (.unmatched, db)
  | some current =>
      if current.status = .succeeded then pure (.alreadySettled current.id, db)
      else postDeposit ctx db current

/-- `PaymentSettlementService.settleSuccessful`. -/
def settleSuccessful (ctx : Ctx) (db : Db) (providerReference : String) :
    Except ServiceError (SettlementOutcome × Db) :=
  match db.paymentIntents.find? fun i ↦ i.providerReference = some providerReference with
  | none => pure (.unmatched, db)
  | some intent =>
      if intent.status = .succeeded then pure (.alreadySettled intent.id, db)
      else settleDeposit ctx db intent.id

/-- The write of `settleFailed`, for the intent that was found before it. -/
def failIntent (db : Db) (intentId : Uuid) (reason : String) : Db :=
  { db with
    paymentIntents := db.paymentIntents.modify (fun i ↦ i.id = intentId)
      (fun i ↦ { i with status := .failed, failureReason := some (sliceTo 500 reason) })
      fun h ↦ h }

/-- `PaymentSettlementService.settleFailed`. -/
def settleFailed (db : Db) (providerReference reason : String) : SettlementOutcome × Db :=
  match db.paymentIntents.find? fun i ↦ i.providerReference = some providerReference with
  | none => (.unmatched, db)
  | some intent =>
      if intent.status = .succeeded then (.alreadySettled intent.id, db)
      else (.failed intent.id, failIntent db intent.id reason)

end AjoCloud.Payments
