import AjoCloud.Database.Basic

/-!
# The rows of coordinators

Applications to coordinate food programmes, their reviews, and what an approval leaves on the
applicant's verification.  The JSON columns, which nothing reads, are left out.
-/

namespace AjoCloud

open Lib

/-- `FoodCoordinatorApplicationStatus`. -/
inductive FoodCoordinatorApplicationStatus where
  | draft
  | submitted
  | automatedReview
  | manualReview
  | moreInformationRequired
  | approved
  | rejected
  | suspended
  | revoked
  | expired
deriving DecidableEq, Repr

/-- A user's application. -/
structure FoodCoordinatorApplication where
  id : Uuid
  userId : Uuid
  status : FoodCoordinatorApplicationStatus
  settlementBankCode : Option String
  settlementAccountMasked : Option String
  settlementVerificationRef : Option String
  identityVerificationRef : Option String
  riskAssessmentRef : Option String
  verificationConsentAt : Option Timestamp
  identityVerifiedAt : Option Timestamp
  bankVerifiedAt : Option Timestamp
  termsAcceptedAt : Option Timestamp
  submittedAt : Option Timestamp
  approvedAt : Option Timestamp
  expiresAt : Option Timestamp
  rejectionReason : Option String
  suspensionReason : Option String
  createdAt : Timestamp
deriving DecidableEq

/-- A user has one application outside of three statuses: the index is partial. -/
instance : Schema FoodCoordinatorApplication :=
  (Schema.primary (·.id)).unique fun a ↦
    if a.status = .rejected ∨ a.status = .revoked ∨ a.status = .expired then none else some a.userId

/-- What a reviewer did with an application. -/
structure FoodCoordinatorReview where
  id : Uuid
  applicationId : Uuid
  reviewerUserId : Uuid
  fromStatus : FoodCoordinatorApplicationStatus
  toStatus : FoodCoordinatorApplicationStatus
  notes : String
  createdAt : Timestamp
deriving DecidableEq

instance : Schema FoodCoordinatorReview := Schema.primary (·.id)

/-- The coordinator that a verified user is. -/
structure FoodCoordinatorProfile where
  id : Uuid
  kycProfileId : Uuid
  status : KycStatus
  approvedAt : Option Timestamp
deriving DecidableEq

instance : Schema FoodCoordinatorProfile :=
  (Schema.primary (·.id)).unique fun p ↦ some p.kycProfileId

/-- The database, with the tables of coordinators. -/
structure CoordinatorDesk where
  db : Db
  applications : Table FoodCoordinatorApplication
  reviews : Table FoodCoordinatorReview
  coordinatorProfiles : Table FoodCoordinatorProfile

/-- The tables of coordinators are empty. -/
def CoordinatorDesk.opening (db : Db) : CoordinatorDesk := ⟨db, .empty, .empty, .empty⟩

end AjoCloud
