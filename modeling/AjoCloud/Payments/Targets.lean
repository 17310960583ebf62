import AjoCloud.Kyc.Facts
import AjoCloud.Payments.Basic

/-!
# Payment targets

The targets that live with the payment service: a member's due in an Akawo pool, and a top-up of
the member's own wallet.  Both name the provider's account as the one they are credited to.
-/

namespace AjoCloud.Payments

open Lib ServiceError Ledger Fees

/-- The platform's account with the provider, as both targets look it up. -/
def providerPayableAccount (db : Db) (currency : String) : Except ServiceError (Uuid × Db) := do
  let account ← orThrow
    (db.ledger.accounts.find? fun a ↦ a.walletId = none ∧ a.purpose = some .providerPayable ∧
      a.currency = currency ∧ a.isActive)
    (unprocessable "Required financial accounts are not configured")
  pure (account.id, db)

/-! ## Akawo pool dues -/

/-- `AkawoPoolDueTarget.resolve`. -/
def resolveDue (db : Db) (userId : Uuid) (targetId : Option Uuid) :
    Except ServiceError ResolvedTarget := do
  let id ← orThrow targetId (notFound "This payment was not found")
  let due ← orThrow (db.akawo.dues.find? fun d ↦ d.id = id) (notFound "This payment was not found")
  let pool ← orThrow (db.akawo.pools.find? fun p ↦ p.id = due.poolId) (.database .recordNotFound)
  let member ← orThrow (db.akawo.members.find? fun m ↦ m.id = due.memberId)
    (.database .recordNotFound)
  require (member.userId = userId) (notFound "This payment was not found")
  require (due.status = .pending) (conflict "This has already been settled")
  Kyc.assertOrganiserVerified db pool.organiserUserId
  pure ⟨due.amountMinor, due.currency, "Akawo pool: " ++ pool.name⟩

/-- `AkawoPoolDueTarget.settle`. -/
def settleDue (ctx : Ctx) (db : Db) (payment : SettledPayment) : Except ServiceError Db :=
  match payment.targetId with
  | none => pure db
  | some id => do
      let dues ← updateRow db.akawo.dues (fun d ↦ d.id = id) fun d ↦
        { d with
          status := .paid
          ledgerTransactionId := some payment.ledgerTransactionId
          paidAt := some ctx.now }
      pure { db with akawo := { db.akawo with dues := dues } }

/-- `AkawoPoolDueTarget`: one member's due in a pool. -/
def akawoPoolDueTarget : PaymentTarget where
  type := .akawoPoolDue
  methods := [.wallet]
  amountRule := .fixed
  feeCode := none
  holdsFee := false
  completesLater := false
  resolve := fun _ db userId targetId _ ↦ resolveDue db userId targetId
  creditAccount := fun _ db _ currency ↦ providerPayableAccount db currency
  settle := settleDue

/-! ## Wallet top-ups -/

/-- `WalletTopUpTarget.resolve`. -/
def resolveTopUp (db : Db) (userId : Uuid) (requestedAmountMinor : Option Int) :
    Except ServiceError ResolvedTarget := do
  let amountMinor ← orThrow requestedAmountMinor
    (unprocessable "Choose how much you want to add")
  require (¬ amountMinor < MINIMUM_DEPOSIT_MINOR)
    (unprocessable ("The smallest amount you can add is " ++
      (toString (MINIMUM_DEPOSIT_MINOR / 100) ++ " naira")))
  pure ⟨amountMinor, ((db.wallets.find? fun w ↦ w.userId = userId).map (·.currency)).getD "NGN",
    "Wallet top-up"⟩

/-- `WalletTopUpTarget`: money brought into the member's own wallet from outside. -/
def walletTopUpTarget : PaymentTarget where
  type := .walletTopup
  methods := [.transfer, .card]
  amountRule := .chosen
  feeCode := some .deposit
  holdsFee := false
  completesLater := false
  resolve := fun _ db userId _ requested ↦ resolveTopUp db userId requested
  creditAccount := fun _ db _ currency ↦ providerPayableAccount db currency
  settle := fun _ db _ ↦ .ok db

end AjoCloud.Payments
