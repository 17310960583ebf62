import AjoCloud.Common.Text
import AjoCloud.Database.Basic

/-!
# Sending and withdrawing

`wallet-policy.ts` and `WalletMovementsService`.  Both movements settle in one transaction, opened
once the caller's PIN has been verified.
-/

namespace AjoCloud.Wallets

open Lib ServiceError Ledger

/-! ## `wallet-policy.ts` -/

/-- A movement must be a positive whole number of minor units. -/
def assertPayableAmount (amountMinor : Int) : Except ServiceError Unit :=
  require (¬ amountMinor ≤ 0) (unprocessable "Amount must be greater than zero")

/-- Refuse a movement the available balance does not cover. -/
def assertSufficientFunds (availableMinor totalMinor : Int) : Except ServiceError Unit :=
  require (¬ availableMinor < totalMinor) (unprocessable "Your wallet balance is not enough")

/-- Refuse sending to the wallet the money comes from. -/
def assertDifferentWallets (sourceWalletId destinationWalletId : Uuid) :
    Except ServiceError Unit :=
  require (sourceWalletId ≠ destinationWalletId)
    (unprocessable "Choose a different wallet to send to")

/-- Both sides of a transfer must be spendable. -/
def assertWalletActive (status : WalletStatus) (label : String) : Except ServiceError Unit :=
  require (status = .active) (conflict ("The " ++ label ++ " wallet is not active"))

/-- Money only moves between accounts holding the same currency. -/
def assertSameCurrency (source destination : String) : Except ServiceError Unit :=
  require (source = destination) (unprocessable "Both wallets must hold the same currency")

/-! ## `WalletMovementsService` -/

/-- `account`: a wallet's active account with a purpose. -/
def account (db : Db) (walletId : Uuid) (currency : String) (purpose : FinancialAccountPurpose) :
    Except ServiceError FinancialAccount :=
  orThrow
    (db.ledger.accounts.find? fun a ↦ a.walletId = some walletId ∧ a.purpose = some purpose ∧
      a.currency = currency ∧ a.isActive)
    (unprocessable "Required financial accounts are not configured")

/-- The request body of `send`; `recipientEmail` is trimmed and in lower case. -/
structure SendToWalletDto where
  sourceWalletId : Uuid
  recipientEmail : String
  amountMinor : Int
  note : Option String

/-- The ledger key of a transfer. -/
def transferKey (idempotencyKey : String) : String := "transfer:" ++ idempotencyKey

/-- What a transfer is called in the ledger. -/
def sendDescription (note : Option String) : String :=
  match note with
  | some text => if trim text ≠ "" then "Sent: " ++ trim text else "Sent to another wallet"
  | none => "Sent to another wallet"

/-- The posting of a transfer. -/
def sendPosting (ctx : Ctx) (userId : Uuid) (dto : SendToWalletDto) (idempotencyKey currency : String)
    (source destination : Uuid) : LedgerPostingCommand where
  idempotencyKey := transferKey idempotencyKey
  reference := "SEND-" ++ (ctx.uuid 1).toString
  description := sendDescription dto.note
  currency := currency
  initiatedByUserId := some userId
  correlationId := none
  entries := [⟨source, .debit, dto.amountMinor⟩, ⟨destination, .credit, dto.amountMinor⟩]

/-- The row of a transfer. -/
def newTransfer (ctx : Ctx) (dto : SendToWalletDto) (source destination : Wallet)
    (idempotencyKey : String) (ledgerTransactionId : Uuid) : Transfer where
  id := ctx.uuid 2
  sourceWalletId := source.id
  destinationWalletId := destination.id
  internalReference := "SEND-" ++ (ctx.uuid 1).toString
  amountMinor := dto.amountMinor
  currency := source.currency
  status := .succeeded
  idempotencyKey := idempotencyKey
  ledgerTransactionId := some ledgerTransactionId

/-- `send` for a key that has not been used. -/
def sendFresh (ctx : Ctx) (db : Db) (userId : Uuid) (dto : SendToWalletDto)
    (idempotencyKey : String) : Except ServiceError (Transfer × Db) := do
  let source ← orThrow
    (db.wallets.find? fun w ↦ w.id = dto.sourceWalletId ∧ w.userId = userId)
    (notFound "Wallet was not found")
  let recipient ← orThrow (db.users.find? fun u ↦ u.email = some dto.recipientEmail)
    (notFound "That person could not be found")
  let destination ← orThrow
    (db.wallets.find? fun w ↦ w.userId = recipient.id ∧ w.currency = source.currency)
    (notFound "That person could not be found")
  assertDifferentWallets source.id destination.id
  assertWalletActive source.status "source"
  assertWalletActive destination.status "destination"
  assertSameCurrency source.currency destination.currency
  let sender ← account db source.id source.currency .walletAvailable
  let receiver ← account db destination.id destination.currency .walletAvailable
  assertSufficientFunds (db.balance sender.id) dto.amountMinor
  let (posting, ledger) ← db.ledger.postWithin (ctx.uuid 0)
    (sendPosting ctx userId dto idempotencyKey source.currency sender.id receiver.id)
  let transfer := newTransfer ctx dto source destination idempotencyKey posting.id
  require (fitsVarChar 128 idempotencyKey ∧ fitsBigInt dto.amountMinor) (.database .valueTooLong)
  let transfers ← orThrow (db.transfers.insert transfer) (.database .uniqueConstraint)
  pure (transfer, { db with ledger := ledger, transfers := transfers })

/-- `WalletMovementsService.send`. -/
def send (ctx : Ctx) (db : Db) (userId : Uuid) (dto : SendToWalletDto) (idempotencyKey : String) :
    Except ServiceError (Transfer × Db) := do
  assertPayableAmount dto.amountMinor
  match db.transfers.find? fun t ↦ t.idempotencyKey = idempotencyKey with
  | some existing => pure (existing, db)
  | none => sendFresh ctx db userId dto idempotencyKey

/-- The request body of `withdraw`. -/
structure WithdrawDto where
  walletId : Uuid
  bankAccountId : Uuid
  amountMinor : Int

/-- The ledger key of a withdrawal. -/
def withdrawalKey (idempotencyKey : String) : String := "withdrawal-reserve:" ++ idempotencyKey

/-- The posting of a withdrawal. -/
def withdrawPosting (ctx : Ctx) (userId : Uuid) (dto : WithdrawDto) (idempotencyKey currency : String)
    (bank : LinkedBankAccount) (available reserved : Uuid) : LedgerPostingCommand where
  idempotencyKey := withdrawalKey idempotencyKey
  reference := "WDL-" ++ (ctx.uuid 1).toString
  description := "Reserved for payout to " ++ bank.bankName ++ (" " ++ bank.accountMasked)
  currency := currency
  initiatedByUserId := some userId
  correlationId := none
  entries := [⟨available, .debit, dto.amountMinor⟩, ⟨reserved, .credit, dto.amountMinor⟩]

/-- The row of a withdrawal. -/
def newWithdrawal (ctx : Ctx) (userId : Uuid) (dto : WithdrawDto) (wallet : Wallet)
    (idempotencyKey : String) (ledgerTransactionId : Uuid) : Withdrawal where
  id := ctx.uuid 2
  userId := userId
  walletId := wallet.id
  internalReference := "WDL-" ++ (ctx.uuid 1).toString
  amountMinor := dto.amountMinor
  currency := wallet.currency
  status := .pending
  idempotencyKey := idempotencyKey
  providerReference := none
  ledgerTransactionId := some ledgerTransactionId

/-- `withdraw` for a key that has not been used. -/
def withdrawFresh (ctx : Ctx) (db : Db) (userId : Uuid) (dto : WithdrawDto)
    (idempotencyKey : String) : Except ServiceError (Withdrawal × Db) := do
  let wallet ← orThrow (db.wallets.find? fun w ↦ w.id = dto.walletId ∧ w.userId = userId)
    (notFound "Wallet was not found")
  assertWalletActive wallet.status "source"
  let bank ← orThrow
    (db.linkedBankAccounts.find? fun a ↦ a.id = dto.bankAccountId ∧ a.userId = userId)
    (notFound "Bank account was not found")
  let available ← account db wallet.id wallet.currency .walletAvailable
  let reserved ← account db wallet.id wallet.currency .walletReserved
  assertSufficientFunds (db.balance available.id) dto.amountMinor
  let (posting, ledger) ← db.ledger.postWithin (ctx.uuid 0)
    (withdrawPosting ctx userId dto idempotencyKey wallet.currency bank available.id reserved.id)
  let withdrawal := newWithdrawal ctx userId dto wallet idempotencyKey posting.id
  require (fitsVarChar 128 idempotencyKey ∧ fitsBigInt dto.amountMinor) (.database .valueTooLong)
  let withdrawals ← orThrow (db.withdrawals.insert withdrawal) (.database .uniqueConstraint)
  pure (withdrawal, { db with ledger := ledger, withdrawals := withdrawals })

/-- `WalletMovementsService.withdraw`. -/
def withdraw (ctx : Ctx) (db : Db) (userId : Uuid) (dto : WithdrawDto) (idempotencyKey : String) :
    Except ServiceError (Withdrawal × Db) := do
  assertPayableAmount dto.amountMinor
  match db.withdrawals.find? fun w ↦ w.idempotencyKey = idempotencyKey with
  | some existing => pure (existing, db)
  | none => withdrawFresh ctx db userId dto idempotencyKey

end AjoCloud.Wallets
