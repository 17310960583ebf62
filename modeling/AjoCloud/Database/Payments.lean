import AjoCloud.Common.ServiceError
import AjoCloud.Lib.Table

/-!
# The rows of wallets, payments and fees
-/

namespace AjoCloud

open Lib

/-! ## People and wallets -/

/-- `UserStatus`. -/
inductive UserStatus where
  | pendingVerification
  | active
  | suspended
  | deactivated
deriving DecidableEq, Repr

/-- A user. -/
structure User where
  id : Uuid
  email : Option String
  phone : Option String
  status : UserStatus
  referralCode : Option String
deriving DecidableEq

instance : Schema User :=
  (((Schema.primary (·.id)).unique (·.email)).unique (·.phone)).unique (·.referralCode)

/-- `WalletStatus`. -/
inductive WalletStatus where
  | active
  | frozen
  | closed
deriving DecidableEq, Repr

/-- A wallet; its balance is that of its accounts in the ledger. -/
structure Wallet where
  id : Uuid
  userId : Uuid
  currency : String
  status : WalletStatus
deriving DecidableEq

instance : Schema Wallet := (Schema.primary (·.id)).unique fun w ↦ some (w.userId, w.currency)

/-- A bank account a user has linked. -/
structure LinkedBankAccount where
  id : Uuid
  userId : Uuid
  bankName : String
  accountMasked : String
  accountDigest : String
deriving DecidableEq

instance : Schema LinkedBankAccount :=
  (Schema.primary (·.id)).unique fun a ↦ some (a.userId, a.accountDigest)

/-! ## Movements between and out of wallets -/

/-- `TransferStatus`. -/
inductive TransferStatus where
  | pending
  | processing
  | succeeded
  | failed
  | reversed
deriving DecidableEq, Repr

/-- Money sent from one wallet to another. -/
structure Transfer where
  id : Uuid
  sourceWalletId : Uuid
  destinationWalletId : Uuid
  internalReference : String
  amountMinor : Int
  currency : String
  status : TransferStatus
  idempotencyKey : String
  ledgerTransactionId : Option Uuid
deriving DecidableEq

instance : Schema Transfer :=
  (((Schema.primary (·.id)).unique fun t ↦ some t.internalReference).unique
    fun t ↦ some t.idempotencyKey).unique (·.ledgerTransactionId)

/-- `WithdrawalStatus`. -/
inductive WithdrawalStatus where
  | pending
  | reviewing
  | processing
  | succeeded
  | failed
  | reversed
  | cancelled
deriving DecidableEq, Repr

/-- A request to pay a wallet's money out to a bank. -/
structure Withdrawal where
  id : Uuid
  userId : Uuid
  walletId : Uuid
  internalReference : String
  amountMinor : Int
  currency : String
  status : WithdrawalStatus
  idempotencyKey : String
  providerReference : Option String
  ledgerTransactionId : Option Uuid
deriving DecidableEq

instance : Schema Withdrawal :=
  ((((Schema.primary (·.id)).unique fun w ↦ some w.internalReference).unique
    fun w ↦ some w.idempotencyKey).unique (·.providerReference)).unique (·.ledgerTransactionId)

/-! ## Payment intents -/

/-- `PaymentIntentStatus`. -/
inductive PaymentIntentStatus where
  | requiresConfirmation
  | processing
  | succeeded
  | failed
  | cancelled
deriving DecidableEq, Repr

/-- `PaymentMethod`. -/
inductive PaymentMethod where
  | wallet
  | transfer
  | card
deriving DecidableEq, Repr

/-- `PaymentTargetType`. -/
inductive PaymentTargetType where
  | akawoPoolDue
  | ajoContribution
  | foodSubscription
  | walletTopup
  | billPayment
deriving DecidableEq, Repr

/-- A payment being made for one target. -/
structure PaymentIntent where
  id : Uuid
  userId : Uuid
  walletId : Option Uuid
  status : PaymentIntentStatus
  targetType : PaymentTargetType
  targetId : Option Uuid
  amountMinor : Int
  feeMinor : Int
  totalMinor : Int
  currency : String
  method : Option PaymentMethod
  providerReference : Option String
  idempotencyKey : String
  ledgerTransactionId : Option Uuid
  failureReason : Option String
  confirmedAt : Option Timestamp
  settledAt : Option Timestamp
  expiresAt : Timestamp
deriving DecidableEq

instance : Schema PaymentIntent :=
  (((Schema.primary (·.id)).unique fun i ↦ some (i.userId, i.idempotencyKey)).unique
    (·.providerReference)).unique (·.ledgerTransactionId)

/-! ## Provider events -/

/-- `EventProcessingStatus`. -/
inductive EventProcessingStatus where
  | pending
  | processing
  | processed
  | failed
  | deadLettered
deriving DecidableEq, Repr

/-- A webhook that was received. -/
structure PaymentWebhookEvent where
  id : Uuid
  provider : String
  providerEventId : String
  payloadHash : String
  signatureHash : Option String
  status : EventProcessingStatus
  failureReason : Option String
  processedAt : Option Timestamp
deriving DecidableEq

instance : Schema PaymentWebhookEvent :=
  (Schema.primary (·.id)).unique fun e ↦ some (e.provider, e.providerEventId)

/-! ## Fees -/

/-- `FeeCalculationType`. -/
inductive FeeCalculationType where
  | fixed
  | percentage
  | tiered
deriving DecidableEq, Repr

/-- One half-open markup band of a tiered fee. -/
structure FeeTier where
  id : Uuid
  feeDefinitionId : Uuid
  fromMinor : Int
  toMinor : Option Int
  amountMinor : Int
deriving DecidableEq

instance : Schema FeeTier :=
  (Schema.primary (·.id)).unique fun t ↦ some (t.feeDefinitionId, t.fromMinor)

/-- A versioned fee. -/
structure FeeDefinition where
  id : Uuid
  code : String
  version : Nat
  calculationType : FeeCalculationType
  amountMinor : Option Int
  basisPoints : Option Int
  minimumMinor : Option Int
  maximumMinor : Option Int
  providerRateBasisPoints : Option Int
  providerFlatMinor : Option Int
  effectiveAt : Timestamp
  expiresAt : Option Timestamp
  isActive : Bool
deriving DecidableEq

instance : Schema FeeDefinition :=
  (Schema.primary (·.id)).unique fun d ↦ some (d.code, d.version)

/-- A fee that was assessed on something. -/
structure FeeAssessment where
  id : Uuid
  feeDefinitionId : Uuid
  subjectType : String
  subjectId : Uuid
  amountMinor : Int
  currency : String
  calculationBaseMinor : Option Int
deriving DecidableEq

instance : Schema FeeAssessment := Schema.primary (·.id)

end AjoCloud
