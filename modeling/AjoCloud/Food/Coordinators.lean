import AjoCloud.Common.Json
import AjoCloud.Database.Coordinators
import AjoCloud.Food.Programmes

/-!
# Coordinators

`FoodCoordinatorApplicationsService`, and the approval that `FoodAjoProgrammesService.create` asks
for.  `create` and `update` read outside of a transaction and write afterwards; everything else is one
serializable transaction.
-/

namespace AjoCloud.Food

open Lib ServiceError

variable {desk desk' : CoordinatorDesk} {a b : FoodCoordinatorApplication}

/-! ## Applicants -/

/-- The application stands in the way of another one. -/
def isActive (a : FoodCoordinatorApplication) : Bool :=
  a.status ≠ .rejected && a.status ≠ .revoked && a.status ≠ .expired

/-- `CreateFoodCoordinatorApplicationDto`, without what is kept as JSON. -/
structure CreateFoodCoordinatorApplicationDto where
  settlementBankCode : Option String
  settlementAccountMasked : Option String
  verificationConsent : Bool
  termsAccepted : Bool
deriving DecidableEq

/-- The first read of `create`, and the check after it. -/
def assertNoneActive (desk : CoordinatorDesk) (userId : Uuid) : Except ServiceError Unit :=
  require ((desk.applications.find? fun a ↦ a.userId = userId && isActive a).isNone)
    (conflict "An active coordinator application already exists")

/-- The row that `create` stores. -/
def newApplication (ctx : Ctx) (userId : Uuid) (dto : CreateFoodCoordinatorApplicationDto) :
    FoodCoordinatorApplication where
  id := ctx.uuid 0
  userId := userId
  status := .draft
  settlementBankCode := truthy dto.settlementBankCode
  settlementAccountMasked := truthy dto.settlementAccountMasked
  settlementVerificationRef := none
  identityVerificationRef := none
  riskAssessmentRef := none
  verificationConsentAt := if dto.verificationConsent then some ctx.now else none
  identityVerifiedAt := none
  bankVerifiedAt := none
  termsAcceptedAt := if dto.termsAccepted then some ctx.now else none
  submittedAt := none
  approvedAt := none
  expiresAt := none
  rejectionReason := none
  suspensionReason := none
  createdAt := ctx.now

/-- The settlement columns can hold their texts. -/
def settlementFits (a : FoodCoordinatorApplication) : Prop :=
  fitsVarChar 20 (a.settlementBankCode.getD "") ∧ fitsVarChar 32 (a.settlementAccountMasked.getD "")

instance (a : FoodCoordinatorApplication) : Decidable (settlementFits a) :=
  inferInstanceAs (Decidable (_ ∧ _))

/-- The write of `create`. -/
def storeApplication (ctx : Ctx) (desk : CoordinatorDesk) (userId : Uuid)
    (dto : CreateFoodCoordinatorApplicationDto) :
    Except ServiceError (FoodCoordinatorApplication × CoordinatorDesk) := do
  require (settlementFits (newApplication ctx userId dto)) (.database .valueTooLong)
  let applications ← insertRow desk.applications (newApplication ctx userId dto)
  pure (newApplication ctx userId dto, { desk with applications := applications })

/-- `FoodCoordinatorApplicationsService.create`, from one state. -/
def createApplication (ctx : Ctx) (desk : CoordinatorDesk) (userId : Uuid)
    (dto : CreateFoodCoordinatorApplicationDto) :
    Except ServiceError (FoodCoordinatorApplication × CoordinatorDesk) := do
  assertNoneActive desk userId
  storeApplication ctx desk userId dto

/-- `UpdateFoodCoordinatorApplicationDto`, without what is kept as JSON. -/
structure UpdateFoodCoordinatorApplicationDto where
  settlementBankCode : Option String
  settlementAccountMasked : Option String
  verificationConsent : Option Bool
  termsAccepted : Option Bool
deriving DecidableEq

/-- The application, if it is the caller's. -/
def ownApplication (desk : CoordinatorDesk) (userId applicationId : Uuid) :
    Except ServiceError FoodCoordinatorApplication := do
  let application ← orThrow (desk.applications.find? fun a ↦ a.id = applicationId)
    (notFound "Coordinator application was not found")
  require (application.userId = userId) (forbidden "Application is not yours")
  pure application

/-- The applicant may still work on the application. -/
def isEditable (status : FoodCoordinatorApplicationStatus) : Bool :=
  status = .draft || status = .moreInformationRequired

/-- The read of `update`, and the checks after it. -/
def assertEditable (desk : CoordinatorDesk) (userId applicationId : Uuid) :
    Except ServiceError Unit := do
  let application ← ownApplication desk userId applicationId
  require (isEditable application.status) (conflict "Only editable applications can be updated")

/-- What `update` writes. -/
def editApplication (now : Timestamp) (dto : UpdateFoodCoordinatorApplicationDto)
    (a : FoodCoordinatorApplication) : FoodCoordinatorApplication :=
  { a with
    settlementBankCode := (truthy dto.settlementBankCode).or a.settlementBankCode
    settlementAccountMasked := (truthy dto.settlementAccountMasked).or a.settlementAccountMasked
    verificationConsentAt :=
      if dto.verificationConsent = some true then some now else a.verificationConsentAt
    termsAcceptedAt := if dto.termsAccepted = some true then some now else a.termsAcceptedAt }

/-- `update` of one application. -/
def updateApplication (desk : CoordinatorDesk) (applicationId : Uuid)
    (write : FoodCoordinatorApplication → FoodCoordinatorApplication) :
    Except ServiceError CoordinatorDesk := do
  let applications ← updateRow desk.applications (fun a ↦ a.id = applicationId) write
  pure { desk with applications := applications }

/-- The write of `update`. -/
def storeEdit (now : Timestamp) (desk : CoordinatorDesk) (applicationId : Uuid)
    (dto : UpdateFoodCoordinatorApplicationDto) : Except ServiceError (Unit × CoordinatorDesk) := do
  require (fitsVarChar 20 (dto.settlementBankCode.getD "") ∧
    fitsVarChar 32 (dto.settlementAccountMasked.getD "")) (.database .valueTooLong)
  let desk ← updateApplication desk applicationId (editApplication now dto)
  pure ((), desk)

/-- What `submit` writes. -/
def submitted (now : Timestamp) (a : FoodCoordinatorApplication) : FoodCoordinatorApplication :=
  { a with status := .automatedReview, submittedAt := some now }

/-- `submit`. -/
def submitApplication (now : Timestamp) (desk : CoordinatorDesk) (userId applicationId : Uuid) :
    Except ServiceError (Unit × CoordinatorDesk) := do
  let application ← ownApplication desk userId applicationId
  require (isEditable application.status)
    (conflict "Application cannot be submitted in its current state")
  require (application.verificationConsentAt.isSome ∧ application.termsAcceptedAt.isSome ∧
      (truthy application.settlementBankCode).isSome ∧
      (truthy application.settlementAccountMasked).isSome)
    (unprocessable "Consent, terms acceptance, and masked settlement details are required")
  let desk ← updateApplication desk applicationId (submitted now)
  pure ((), desk)

/-! ## Reviewers -/

/-- The application that is reviewed. -/
def applicationById (desk : CoordinatorDesk) (applicationId : Uuid) :
    Except ServiceError FoodCoordinatorApplication :=
  orThrow (desk.applications.find? fun a ↦ a.id = applicationId)
    (notFound "Coordinator application was not found")

/-- `foodCoordinatorReview.create`. -/
def recordTransition (ctx : Ctx) (desk : CoordinatorDesk) (reviewerUserId applicationId : Uuid)
    (fromStatus toStatus : FoodCoordinatorApplicationStatus) (notes : String) :
    Except ServiceError CoordinatorDesk := do
  require (fitsVarChar 2000 notes) (.database .valueTooLong)
  let reviews ← insertRow desk.reviews
    ⟨ctx.uuid 0, applicationId, reviewerUserId, fromStatus, toStatus, notes, ctx.now⟩
  pure { desk with reviews := reviews }

/-- What `reviewTransition` writes. -/
def transitioned (toStatus : FoodCoordinatorApplicationStatus) (notes : String)
    (a : FoodCoordinatorApplication) : FoodCoordinatorApplication :=
  { a with
    status := toStatus
    rejectionReason := if toStatus = .rejected then some notes else a.rejectionReason }

/-- `reviewTransition`. -/
def reviewTransition (ctx : Ctx) (desk : CoordinatorDesk) (reviewerUserId applicationId : Uuid)
    (toStatus : FoodCoordinatorApplicationStatus) (notes : String) :
    Except ServiceError (Unit × CoordinatorDesk) := do
  let application ← applicationById desk applicationId
  require (¬ (application.status = .draft ∨ application.status = .approved ∨
      application.status = .revoked ∨ application.status = .expired))
    (conflict "Application cannot be reviewed in its current state")
  require (toStatus = .rejected → fitsVarChar 1000 notes) (.database .valueTooLong)
  let desk ← updateApplication desk applicationId (transitioned toStatus notes)
  let desk ← recordTransition ctx desk reviewerUserId applicationId application.status toStatus notes
  pure ((), desk)

/-- `requestInformation`. -/
def requestInformation (ctx : Ctx) (desk : CoordinatorDesk) (reviewerUserId applicationId : Uuid)
    (notes : String) : Except ServiceError (Unit × CoordinatorDesk) :=
  reviewTransition ctx desk reviewerUserId applicationId .moreInformationRequired notes

/-- `reject`. -/
def rejectApplication (ctx : Ctx) (desk : CoordinatorDesk) (reviewerUserId applicationId : Uuid)
    (notes : String) : Except ServiceError (Unit × CoordinatorDesk) :=
  reviewTransition ctx desk reviewerUserId applicationId .rejected notes

/-- What `suspend` writes. -/
def suspended (notes : String) (a : FoodCoordinatorApplication) : FoodCoordinatorApplication :=
  { a with status := .suspended, suspensionReason := some notes }

/-- The verification of a user. -/
def kycProfileOf (desk : CoordinatorDesk) (userId : Uuid) : Option KycProfile :=
  desk.db.kyc.profiles.find? fun p ↦ p.userId = userId

/-- The coordinator whose application was suspended. -/
def underReview (p : FoodCoordinatorProfile) : FoodCoordinatorProfile :=
  { p with status := .requiresReview }

theorem clash_of_underReview {p q : FoodCoordinatorProfile} (h : Schema.Clash (underReview p) q) :
    Schema.Clash p q := h

/-- `suspend`; it returns whose application it was. -/
def suspendApplication (ctx : Ctx) (desk : CoordinatorDesk) (reviewerUserId applicationId : Uuid)
    (notes : String) : Except ServiceError (Uuid × CoordinatorDesk) := do
  let application ← applicationById desk applicationId
  require (application.status = .approved) (conflict "Only an approved coordinator can be suspended")
  require (fitsVarChar 1000 notes) (.database .valueTooLong)
  let desk ← updateApplication desk applicationId (suspended notes)
  let desk := match kycProfileOf desk application.userId with
    | some kyc => { desk with
        coordinatorProfiles := desk.coordinatorProfiles.modify (fun p ↦ p.kycProfileId = kyc.id)
          underReview clash_of_underReview }
    | none => desk
  let desk ← recordTransition ctx desk reviewerUserId applicationId .approved .suspended notes
  pure (application.userId, desk)

/-- `ApproveFoodCoordinatorApplicationDto`, without what is kept as JSON. -/
structure ApproveFoodCoordinatorApplicationDto where
  notes : String
  identityVerificationRef : String
  settlementVerificationRef : String
  riskAssessmentRef : String
  expiresAt : Timestamp
deriving DecidableEq

/-- What `approve` writes. -/
def approved (now : Timestamp) (dto : ApproveFoodCoordinatorApplicationDto)
    (a : FoodCoordinatorApplication) : FoodCoordinatorApplication :=
  { a with
    status := .approved
    identityVerificationRef := some dto.identityVerificationRef
    settlementVerificationRef := some dto.settlementVerificationRef
    riskAssessmentRef := some dto.riskAssessmentRef
    identityVerifiedAt := some now
    bankVerifiedAt := some now
    approvedAt := some now
    expiresAt := some dto.expiresAt }

/-- `foodCoordinatorProfile.upsert`. -/
def upsertCoordinator (ctx : Ctx) (desk : CoordinatorDesk) (kycProfileId : Uuid) :
    Except ServiceError CoordinatorDesk :=
  match desk.coordinatorProfiles.find? fun p ↦ p.kycProfileId = kycProfileId with
  | some _ => do
      let coordinatorProfiles ← updateRow desk.coordinatorProfiles
        (fun p ↦ p.kycProfileId = kycProfileId)
        fun p ↦ { p with status := .verified, approvedAt := some ctx.now }
      pure { desk with coordinatorProfiles := coordinatorProfiles }
  | none => do
      let coordinatorProfiles ← insertRow desk.coordinatorProfiles
        ⟨ctx.uuid 1, kycProfileId, .verified, some ctx.now⟩
      pure { desk with coordinatorProfiles := coordinatorProfiles }

/-- `approve`; it returns whose application it was. -/
def approveApplication (ctx : Ctx) (desk : CoordinatorDesk) (reviewerUserId applicationId : Uuid)
    (dto : ApproveFoodCoordinatorApplicationDto) : Except ServiceError (Uuid × CoordinatorDesk) := do
  let application ← applicationById desk applicationId
  require (application.status = .automatedReview ∨ application.status = .manualReview)
    (conflict "Application is not ready for approval")
  let kyc ← orThrow ((kycProfileOf desk application.userId).filter fun kyc ↦
      kyc.status = .verified && kyc.tier = .tier3)
    (unprocessable "Verified Tier 3 KYC is required")
  require (ctx.now < dto.expiresAt) (unprocessable "Approval expiry must be future")
  require (fitsVarChar 191 dto.identityVerificationRef ∧ fitsVarChar 191 dto.settlementVerificationRef ∧
    fitsVarChar 191 dto.riskAssessmentRef) (.database .valueTooLong)
  let desk ← updateApplication desk applicationId (approved ctx.now dto)
  let desk ← recordTransition ctx desk reviewerUserId applicationId application.status .approved
    dto.notes
  let desk ← upsertCoordinator ctx desk kyc.id
  pure (application.userId, desk)

/-! ## Programmes -/

/-- The approval that `FoodAjoProgrammesService.create` asks for is in force. -/
def isInForce (now : Timestamp) (a : FoodCoordinatorApplication) : Bool :=
  a.status = .approved && a.expiresAt.any (now < ·)

/-- `FoodAjoProgrammesService.create`. -/
def coordinatorCreates (ctx : Ctx) (desk : CoordinatorDesk) (userId : Uuid)
    (dto : CreateFoodProgrammeDto) : Except ServiceError (FoodAjoGroup × Db) :=
  createProgramme ctx desk.db
    (desk.applications.find? fun a ↦ a.userId = userId && isInForce ctx.now a).isSome userId dto

end AjoCloud.Food
