import AjoCloud.Common.ServiceError
import AjoCloud.Lib.Table

/-!
# The rows of verification and referrals
-/

namespace AjoCloud

open Lib

/-! ## Verification -/

/-- What staging reads of a profile. -/
structure UserProfile where
  id : Uuid
  userId : Uuid
  firstName : String
  lastName : String
  dateOfBirth : Option Timestamp
  gender : Option String
  occupation : Option String
deriving DecidableEq

instance : Schema UserProfile := (Schema.primary (·.id)).unique fun p ↦ some p.userId

/-- A user's transaction PIN. -/
structure TransactionPin where
  id : Uuid
  userId : Uuid
  pinHash : String
  failedCount : Nat
  lockedUntil : Option Timestamp
  lastUsedAt : Option Timestamp
  changedAt : Timestamp
deriving DecidableEq

instance : Schema TransactionPin := (Schema.primary (·.id)).unique fun p ↦ some p.userId

/-- `KycStatus`. -/
inductive KycStatus where
  | notStarted
  | pending
  | verified
  | rejected
  | requiresReview
  | expired
deriving DecidableEq, Repr

/-- `KycTier`. -/
inductive KycTier where
  | tier1
  | tier2
  | tier3
deriving DecidableEq, Repr

/-- A user's verification. -/
structure KycProfile where
  id : Uuid
  userId : Uuid
  status : KycStatus
  tier : KycTier
  level : Nat
  submittedAt : Option Timestamp
  verifiedAt : Option Timestamp
  restrictedAt : Option Timestamp
deriving DecidableEq

instance : Schema KycProfile := (Schema.primary (·.id)).unique fun p ↦ some p.userId

/-- `VerificationType`. -/
inductive VerificationType where
  | bvn
  | nin
  | vnin
  | bankAccount
  | faceMatch
  | liveness
  | address
  | manualReview
deriving DecidableEq, Repr

/-- `KycCheckStatus`. -/
inductive KycCheckStatus where
  | pending
  | processing
  | passed
  | failed
  | error
deriving DecidableEq, Repr

/-- `PostalAddress`. -/
structure PostalAddress where
  line : String
  city : Option String
  lga : Option String
  state : Option String
deriving DecidableEq

/-- What a check keeps of its result: the address on the identity record, or the one submitted. -/
inductive ResultSummary where
  | registeredAddress (address : PostalAddress)
  | submitted (address : PostalAddress)
deriving DecidableEq

/-- One verification that was attempted. -/
structure KycCheck where
  id : Uuid
  kycProfileId : Uuid
  type : VerificationType
  provider : String
  providerRef : Option String
  status : KycCheckStatus
  resultCode : String
  maskedIdentifier : Option String
  resultSummary : Option ResultSummary
  failureReason : Option String
  riskFlags : List String
  reviewerUserId : Option Uuid
  checkedAt : Option Timestamp
  createdAt : Timestamp
deriving DecidableEq

instance : Schema KycCheck :=
  (Schema.primary (·.id)).unique fun c ↦ c.providerRef.map fun ref ↦ (c.provider, ref)

/-- A document that was uploaded. -/
structure VerificationDocument where
  id : Uuid
  kycProfileId : Uuid
  type : String
  supersededAt : Option Timestamp
deriving DecidableEq

instance : Schema VerificationDocument := Schema.primary (·.id)

/-- `ComplianceReviewStatus`. -/
inductive ComplianceReviewStatus where
  | open
  | approved
  | rejected
  | escalated
  | closed
deriving DecidableEq, Repr

/-- The record of a reviewer's decision. -/
structure ComplianceReview where
  id : Uuid
  kycProfileId : Uuid
  reviewerId : Option Uuid
  status : ComplianceReviewStatus
  reason : Option String
  decidedAt : Option Timestamp
  createdAt : Timestamp
deriving DecidableEq

instance : Schema ComplianceReview := Schema.primary (·.id)

/-- The tables of verification. -/
structure KycTables where
  userProfiles : Table UserProfile
  transactionPins : Table TransactionPin
  profiles : Table KycProfile
  checks : Table KycCheck
  documents : Table VerificationDocument
  complianceReviews : Table ComplianceReview

/-! ## Referrals -/

/-- `ReferralCampaignStatus`. -/
inductive ReferralCampaignStatus where
  | draft
  | active
  | paused
  | ended
deriving DecidableEq, Repr

/-- The terms under which referrals are rewarded. -/
structure ReferralCampaign where
  id : Uuid
  code : String
  version : Nat
  status : ReferralCampaignStatus
  rewardAmountMinor : Int
  rewardCurrency : String
  maximumRewards : Option Nat
  requiredKycTier : KycTier
  minimumAmountMinor : Option Int
  effectiveAt : Timestamp
  expiresAt : Option Timestamp
deriving DecidableEq

instance : Schema ReferralCampaign :=
  (Schema.primary (·.id)).unique fun c ↦ some (c.code, c.version)

/-- `ReferralStatus`. -/
inductive ReferralStatus where
  | pending
  | qualified
  | rewarded
  | rejected
deriving DecidableEq, Repr

/-- One user's referral of another. -/
structure Referral where
  id : Uuid
  referrerUserId : Uuid
  referredUserId : Uuid
  campaignId : Option Uuid
  status : ReferralStatus
  qualifiedAt : Option Timestamp
deriving DecidableEq

instance : Schema Referral := (Schema.primary (·.id)).unique fun r ↦ some r.referredUserId

/-- The activity that qualified a referral. -/
structure ReferralQualification where
  id : Uuid
  referralId : Uuid
  qualifyingEventId : Uuid
  qualifyingProduct : String
  qualifyingEvent : String
  settledAmountMinor : Int
  currency : String
  occurredAt : Timestamp
  reversedAt : Option Timestamp
deriving DecidableEq

instance : Schema ReferralQualification :=
  (Schema.primary (·.id)).unique fun q ↦ some (q.referralId, q.qualifyingEventId)

/-- `ReferralRewardStatus`. -/
inductive ReferralRewardStatus where
  | pending
  | approved
  | released
  | rejected
  | reversed
deriving DecidableEq, Repr

/-- What a referral earned. -/
structure ReferralReward where
  id : Uuid
  referralId : Uuid
  amountMinor : Int
  currency : String
  status : ReferralRewardStatus
  idempotencyKey : String
  ledgerTransactionId : Option Uuid
  awardedAt : Option Timestamp
deriving DecidableEq

instance : Schema ReferralReward :=
  ((Schema.primary (·.id)).unique fun r ↦ some r.idempotencyKey).unique (·.ledgerTransactionId)

/-- The tables of referrals. -/
structure ReferralTables where
  campaigns : Table ReferralCampaign
  referrals : Table Referral
  qualifications : Table ReferralQualification
  rewards : Table ReferralReward

end AjoCloud
