import AjoCloud.Kyc.Review
import AjoCloud.Lib.Calendar
import AjoCloud.Lib.Threads

/-!
# Verification, step by step

The requests of `KycService`, `KycReviewService` and `UsersService.update` as threads: each read,
each write and each call of the provider is a step, and other requests may run in between.  Only the
transactions, which store a document or a decision, are one step each.
-/

namespace AjoCloud.Kyc

open Lib Lib.Calendar ServiceError

/-! ## `sync` in three steps -/

/-- Whether `sync` has something to write, for the profile it read. -/
def syncNeeded (level : Nat) : Option KycProfile → Bool
  | none => level ≠ 0
  | some existing =>
      ¬ (existing.tier = tierForLevel level ∧ existing.level = level ∧
        (¬ (level = 3 ∧ existing.status ≠ .requiresReview) ∨ existing.status = .verified))

/-- The write of `sync`, for the level it computed and the profile it read. -/
def writeTier (ctx : Ctx) (userId : Uuid) (level : Nat) (existing : Option KycProfile) (db : Db) :
    Except ServiceError (Unit × Db) :=
  match existing with
  | none => do
      let (_, db) ← createProfile
        ⟨ctx.uuid 3, userId, .notStarted, tierForLevel level, level, none, none, none⟩ db
      pure ((), db)
  | some existing => updateProfile existing.id
      (syncProfile ctx.now level
        ((level = 3 && existing.status ≠ .requiresReview) && existing.status ≠ .verified)) db

/-- Undisturbed, the three steps are `sync`. -/
theorem sync_eq (ctx : Ctx) (userId : Uuid) (db : Db) :
    sync ctx userId db =
      if syncNeeded (completedLevel (readKycFacts db userId)) (profileOf db userId) then
        writeTier ctx userId (completedLevel (readKycFacts db userId)) (profileOf db userId) db
      else pure ((), db) := by
  unfold sync
  generalize completedLevel (readKycFacts db userId) = level
  cases profileOf db userId with
  | none =>
      by_cases h : level = 0
      · simp [h, syncNeeded]
      · simp [h, syncNeeded, writeTier]
  | some existing =>
      simp only [syncNeeded, writeTier]
      split
      · next h => simp_all
      · next h => simp_all

/-! ## Details -/

/-- `UpdateBasicInfoDto`. -/
structure UpdateBasicInfoDto where
  dateOfBirth : Timestamp
  gender : String
  occupation : String
deriving DecidableEq

/-- `UpdatePersonalDetailsDto`; nothing here reads the address. -/
structure UpdatePersonalDetailsDto extends UpdateBasicInfoDto where
  addressLine : String
  city : String
  state : String
deriving DecidableEq

/-- `UpdateProfileDto`, of which the timezone is read nowhere. -/
structure UpdateProfileDto where
  firstName : Option String
  lastName : Option String
deriving DecidableEq

def MINIMUM_AGE_YEARS : Int := 18

/-- `isOldEnough`, on a server whose clock shows UTC. -/
def isOldEnough (dateOfBirth now : Timestamp) : Bool :=
  setUtcFullYear dateOfBirth (utcFullYear dateOfBirth + MINIMUM_AGE_YEARS) ≤ now

/-- `userProfile.update`. -/
def updateUserProfile (userId : Uuid) (write : UserProfile → UserProfile) (db : Db) :
    Except ServiceError (Unit × Db) := do
  let userProfiles ← updateRow db.kyc.userProfiles (fun p ↦ p.userId = userId) write
  pure ((), { db with kyc := { db.kyc with userProfiles := userProfiles } })

theorem updateUserProfile_eq_ok {userId : Uuid} {write : UserProfile → UserProfile} {db db' : Db}
    {u : Unit} (h : updateUserProfile userId write db = .ok (u, db')) :
    ∃ userProfiles, updateRow db.kyc.userProfiles (fun p ↦ p.userId = userId) write =
        .ok userProfiles ∧
      db' = { db with kyc := { db.kyc with userProfiles := userProfiles } } := by
  simp only [updateUserProfile, bind_eq_ok, pure_eq_ok, Prod.mk.injEq] at h
  obtain ⟨userProfiles, hupdate, -, rfl⟩ := h
  exact ⟨userProfiles, hupdate, rfl⟩

/-- What stage 1 writes. -/
def UpdateBasicInfoDto.write (dto : UpdateBasicInfoDto) (profile : UserProfile) : UserProfile :=
  { profile with
    dateOfBirth := some dto.dateOfBirth
    gender := some dto.gender
    occupation := some dto.occupation }

/-- What a profile update writes. -/
def UpdateProfileDto.write (dto : UpdateProfileDto) (profile : UserProfile) : UserProfile :=
  { profile with
    firstName := ((dto.firstName.filter (· ≠ "")).map trim).getD profile.firstName
    lastName := ((dto.lastName.filter (· ≠ "")).map trim).getD profile.lastName }

/-- The write of `updateBasicInfo` and `updatePersonalDetails`. -/
def updateDetails (ctx : Ctx) (userId : Uuid) (dto : UpdateBasicInfoDto) (db : Db) :
    Except ServiceError (Unit × Db) := do
  require (isOldEnough dto.dateOfBirth ctx.now)
    (badRequest "You must be at least 18 years old to use Ajo Cloud")
  updateUserProfile userId dto.write db

/-! ## What is known of the past -/

/-- Who somebody is said to be: the names and the day of birth that the provider is asked about. -/
structure Persona where
  firstName : String
  lastName : String
  bornOn : Option Int
deriving DecidableEq

/-- The person of a profile. -/
def personaOf (profile : UserProfile) : Persona where
  firstName := profile.firstName
  lastName := profile.lastName
  bornOn := profile.dateOfBirth.map day

/-- A number that was sent to the provider. -/
structure Lookup where
  userId : Uuid
  kind : IdentityKind
  identityNumber : String
  sentAt : Timestamp
deriving DecidableEq

/-- The person that was sent with a check, or that the reviewer saw who passed it. -/
structure Voucher where
  checkId : Uuid
  persona : Persona
deriving DecidableEq

/-- The database, and what no row of it keeps: the numbers that were sent, the refusals that were
stored for them, and whom each check was about. -/
structure Verification where
  db : Db
  lookups : List Lookup
  refusals : List (Lookup × Uuid)
  vouchers : List Voucher

/-- What a step is told: the clock and fresh identifiers, and a provider. -/
structure Told where
  ctx : Ctx
  provider : IdentityProvider

/-! ## Requests under way -/

/-- How far a request has come. -/
inductive Thread where
  | identity (userId : Uuid) (dto : VerifyIdentityDto)
  | identityProfile (userId : Uuid) (dto : VerifyIdentityDto)
  | identityBudget (userId : Uuid) (dto : VerifyIdentityDto) (kycProfileId : Uuid)
  | identityName (userId : Uuid) (dto : VerifyIdentityDto) (kycProfileId : Uuid)
      (failures : List KycCheck)
  | identityLookup (userId : Uuid) (dto : VerifyIdentityDto) (kycProfileId : Uuid)
      (failures : List KycCheck) (profile : UserProfile)
  | identityResult (userId : Uuid) (dto : VerifyIdentityDto) (kycProfileId : Uuid)
      (lookup : Lookup) (profile : UserProfile) (outcome : IdentityVerificationOutcome)
  | bank (userId : Uuid) (dto : LinkBankAccountDto)
  | bankProfile (userId : Uuid) (dto : LinkBankAccountDto) (outcome : BankAccountInquiryOutcome)
      (bankName : String)
  | bankAccount (userId : Uuid) (dto : LinkBankAccountDto) (outcome : BankAccountInquiryOutcome)
      (bankName : String) (kycProfileId : Uuid)
  | bankResult (userId : Uuid) (dto : LinkBankAccountDto) (outcome : BankAccountInquiryOutcome)
      (kycProfileId : Uuid)
  | document (userId : Uuid) (dto : UploadIdentityDocumentDto)
  | documentProfile (userId : Uuid) (dto : UploadIdentityDocumentDto)
  | documentResult (userId : Uuid) (dto : UploadIdentityDocumentDto) (kycProfileId : Uuid)
  | address (userId : Uuid) (dto : VerifyAddressDto)
  | addressProfile (userId : Uuid) (dto : VerifyAddressDto)
  | addressBudget (userId : Uuid) (dto : VerifyAddressDto) (kycProfileId : Uuid)
  | addressRecord (userId : Uuid) (dto : VerifyAddressDto) (kycProfileId : Uuid)
  | addressSave (userId : Uuid) (dto : VerifyAddressDto) (kycProfileId : Uuid)
      (ninCheck : Option KycCheck)
  | addressResult (userId : Uuid) (dto : VerifyAddressDto) (kycProfileId : Uuid)
      (ninCheck : Option KycCheck)
  | exhausted (kycProfileId : Uuid)
  | hold (userId kycProfileId : Uuid)
  | basicInfo (userId : Uuid) (dto : UpdateBasicInfoDto)
  | personalDetails (userId : Uuid) (dto : UpdatePersonalDetailsDto)
  | profile (userId : Uuid) (dto : UpdateProfileDto)
  | status (userId : Uuid)
  | statusProfile (userId : Uuid) (level : Nat)
  | sync (userId : Uuid)
  | syncProfile (userId : Uuid) (level : Nat)
  | syncWrite (userId : Uuid) (level : Nat) (existing : Option KycProfile)
  | review (reviewerId kycProfileId : Uuid) (decision : KycReviewDecision) (reason : String)
      (tier : Option KycTier)
  | decide (reviewerId kycProfileId : Uuid) (decision : KycReviewDecision) (reason : String)
      (tier : Option KycTier) (seen : Option Persona)
  /-- A step of the rest of the platform. -/
  | elsewhere (db' : Db)

namespace Verification

/-- A step that only reads: the request goes on with what it read, or is refused. -/
def read {α : Type} (v : Verification) (result : Except ServiceError α) (next : α → Option Thread) :
    Verification × Option Thread :=
  match result with
  | .ok a => (v, next a)
  | .error _ => (v, none)

/-- A step that writes, and leaves everything as it was when it fails. -/
def write {α : Type} (v : Verification) (result : Except ServiceError (α × Db))
    (next : α → Option Thread) : Verification × Option Thread :=
  match result with
  | .ok (a, db) => ({ v with db := db }, next a)
  | .error _ => (v, none)

end Verification

/-- The failures that `assertAttemptsRemain` counts. -/
def failedAttempts (db : Db) (kycProfileId : Uuid) (types : List VerificationType)
    (now : Timestamp) : List KycCheck :=
  db.kyc.checks.findMany fun c ↦ c.kycProfileId = kycProfileId && c.status = .failed &&
    types.contains c.type && now - IDENTITY_ATTEMPT_WINDOW_MS ≤ c.createdAt

theorem attemptsExhausted_eq (db : Db) (kycProfileId : Uuid) (types : List VerificationType)
    (now : Timestamp) : attemptsExhausted db kycProfileId types now =
      hasExhaustedAttempts ((failedAttempts db kycProfileId types now).map (·.createdAt)) now := rfl

/-- The read of `assertAttemptsRemain`: the request goes on, or ends once the profile is marked. -/
def budget (v : Verification) (kycProfileId : Uuid) (types : List VerificationType)
    (now : Timestamp) (next : List KycCheck → Thread) : Verification × Option Thread :=
  if attemptsExhausted v.db kycProfileId types now then (v, some (.exhausted kycProfileId))
  else (v, some (next (failedAttempts v.db kycProfileId types now)))

/-- The checks of `verifyIdentity` before anything is written. -/
def assertIdentityWanted (db : Db) (userId : Uuid) (dto : VerifyIdentityDto) :
    Except ServiceError Unit := do
  require (isValidIdentityNumber dto.kind (normalizeIdentityNumber dto.identityNumber))
    (badRequest ("Enter a valid " ++ dto.kind.text))
  if dto.kind ≠ .bvn then assertNinWanted (readKycFacts db userId) else pure ()

/-- The provider is asked about a number. -/
def lookUp (v : Verification) (told : Told) (userId : Uuid) (dto : VerifyIdentityDto)
    (kycProfileId : Uuid) (profile : UserProfile) : Verification × Option Thread :=
  let lookup : Lookup :=
    ⟨userId, dto.kind, normalizeIdentityNumber dto.identityNumber, told.ctx.now⟩
  Verification.read { v with lookups := v.lookups ++ [lookup] }
    (identityOutcome told.provider dto profile)
    fun outcome ↦ some (.identityResult userId dto kycProfileId lookup profile outcome)

/-- Where `verifyIdentity` goes once the check is stored. -/
def afterIdentity (userId kycProfileId : Uuid) (status : KycCheckStatus) : Option Thread :=
  match status with
  | .pending => some (.hold userId kycProfileId)
  | .passed => some (.sync userId)
  | _ => none

/-- The answer of the provider is stored. -/
def storeIdentity (host : Host) (v : Verification) (ctx : Ctx) (userId : Uuid)
    (dto : VerifyIdentityDto) (kycProfileId : Uuid) (lookup : Lookup) (profile : UserProfile)
    (outcome : IdentityVerificationOutcome) : Verification × Option Thread :=
  let check := identityCheck host ctx kycProfileId dto outcome (legalName profile)
  match createCheck check v.db with
  | .ok (_, db) =>
      ({ v with
          db := db
          refusals := v.refusals ++ if check.status = .failed then [(lookup, check.id)] else []
          vouchers := v.vouchers ++ [⟨check.id, personaOf profile⟩] },
        afterIdentity userId kycProfileId check.status)
  | .error _ => (v, none)

/-- What the provider and the list of banks say of an account. -/
def inquireBankAccount (provider : IdentityProvider) (dto : LinkBankAccountDto) :
    Except ServiceError (BankAccountInquiryOutcome × String) := do
  require (isValidAccountNumber dto.accountNumber) (badRequest "Enter the 10-digit account number")
  let outcome ← provider.inquireAccount dto.bankCode dto.accountNumber
  let banks ← provider.listBanks
  let _ ← orThrow (if outcome.passed then outcome.accountName.filter (· ≠ "") else none)
    (badRequest "We could not find that account. Check the details.")
  let bankName ← orThrow
    (((banks.find? fun bank ↦ bank.code = dto.bankCode).map (·.name)).filter (· ≠ ""))
    (badRequest "Select a bank from the list")
  pure (outcome, bankName)

/-- The checks of `uploadIdentityDocument`; the type is one of the two when the request is valid. -/
def assertDocumentReadable (db : Db) (userId : Uuid) (dto : UploadIdentityDocumentDto) :
    Except ServiceError Unit := do
  require (NIN_DOCUMENT_TYPES.contains dto.type)
    (badRequest "type must be one of the following values: NIN_SLIP, NIN_CARD")
  assertDocumentWanted (readKycFacts db userId)
  let _ ← (inspectDocument dto.data dto.contentType).mapError fun problem ↦
    badRequest (DOCUMENT_PROBLEMS problem)
  pure ()

/-- Where `verifyAddress` goes once the check is stored. -/
def afterAddress (userId kycProfileId : Uuid) : AddressResult → Option Thread
  | .noAddressOnRecord => some (.hold userId kycProfileId)
  | .matched => some (.sync userId)
  | .mismatch _ => none

/-- The person behind a profile under review. -/
def personaUnderReview (db : Db) (kycProfileId : Uuid) : Option Persona :=
  ((db.kyc.profiles.find? fun p ↦ p.id = kycProfileId).bind fun p ↦
    userProfileOf db p.userId).map personaOf

/-- The checks that a decision passes. -/
def passedBy (db : Db) (kycProfileId : Uuid) (decision : KycReviewDecision) (tier : Option KycTier) :
    List KycCheck :=
  match decision with
  | .approve => (heldChecks db kycProfileId).filter fun c ↦
      (((db.kyc.profiles.find? fun p ↦ p.id = kycProfileId).map fun p ↦
        checkTypesApprovedBy (tier.getD p.tier)).getD []).contains c.type
  | _ => []

/-- The same check, with another result. -/
structure SameCheck (c c' : KycCheck) : Prop where
  id : c'.id = c.id
  kycProfileId : c'.kycProfileId = c.kycProfileId
  type : c'.type = c.type

/-- A held check is passed when the tier rests on it, or is failed. -/
inductive Decided (reviewerId : Uuid) (now : Timestamp) (decision : KycReviewDecision)
    (tier : KycTier) (c c' : KycCheck) : Prop
  | passed (hdecision : decision = .approve)
      (htype : (checkTypesApprovedBy tier).contains c.type = true)
      (heq : c' = passCheck reviewerId now c)
  | failed (reason : String) (heq : c' = failCheck reviewerId now reason c)

theorem Decided.sameCheck {reviewerId : Uuid} {now : Timestamp} {decision : KycReviewDecision}
    {tier : KycTier} {c c' : KycCheck} (h : Decided reviewerId now decision tier c c') :
    SameCheck c c' := by
  rcases h with ⟨-, -, rfl⟩ | ⟨_, rfl⟩
  · exact ⟨rfl, rfl, rfl⟩
  · exact ⟨rfl, rfl, rfl⟩

/-- After a decision every check is as it was, or was held and has been decided. -/
theorem mem_checksAfterDecision {ctx : Ctx} {db : Db} {reviewerId kycProfileId : Uuid}
    {decision : KycReviewDecision} {tier : KycTier} {checks : Table KycCheck}
    (h : checksAfterDecision ctx db reviewerId kycProfileId decision tier = .ok checks) :
    ∃ f : KycCheck → KycCheck, checks.rows = db.kyc.checks.rows.map f ∧
      ∀ c ∈ db.kyc.checks.rows, SameCheck c (f c) ∧ (f c = c ∨
        (c ∈ heldChecks db kycProfileId ∧ Decided reviewerId ctx.now decision tier c (f c))) := by
  refine ⟨_, rows_checksAfterDecision h, fun c hc ↦ ?_⟩
  have hcases : decideCheck ctx reviewerId kycProfileId decision tier c = c ∨
      (c ∈ heldChecks db kycProfileId ∧ Decided reviewerId ctx.now decision tier c
        (decideCheck ctx reviewerId kycProfileId decision tier c)) := by
    unfold decideCheck
    split
    · next hin =>
        have hheld : c ∈ heldChecks db kycProfileId := mem_heldChecks.mpr ⟨hc, hin⟩
        cases decision with
        | approve =>
            dsimp only
            split
            · next htype => exact .inr ⟨hheld, .passed rfl htype rfl⟩
            · exact .inl rfl
        | reject | requestInformation => exact .inr ⟨hheld, .failed _ rfl⟩
        | escalate => exact .inl rfl
    · exact .inl rfl
  obtain heq | ⟨hheld, hdecided⟩ := hcases
  · rw [heq]
    exact ⟨⟨rfl, rfl, rfl⟩, .inl rfl⟩
  · exact ⟨hdecided.sameCheck, .inr ⟨hheld, hdecided⟩⟩

/-- The transaction of `decide`. -/
def storeDecision (v : Verification) (ctx : Ctx) (reviewerId kycProfileId : Uuid)
    (decision : KycReviewDecision) (reason : String) (tier : Option KycTier)
    (seen : Option Persona) : Verification × Option Thread :=
  match decideReview ctx v.db reviewerId kycProfileId decision reason tier with
  | .ok (_, db) =>
      ({ v with
          db := db
          vouchers := v.vouchers ++ (passedBy v.db kycProfileId decision tier).flatMap fun c ↦
            (seen.map (Voucher.mk c.id)).toList }, none)
  | .error _ => (v, none)

/-- One step of a request: what it does, and how it goes on. -/
def exec (host : Host) (told : Told) (v : Verification) : Thread → Verification × Option Thread
  | .identity userId dto =>
      v.read (assertIdentityWanted v.db userId dto) fun _ ↦ some (.identityProfile userId dto)
  | .identityProfile userId dto => v.write (ensureKycProfile told.ctx userId v.db)
      fun profile ↦ some (.identityBudget userId dto profile.id)
  | .identityBudget userId dto kycProfileId =>
      budget v kycProfileId [.bvn, .nin, .vnin] told.ctx.now (.identityName userId dto kycProfileId)
  | .identityName userId dto kycProfileId failures =>
      v.read (orThrow (userProfileOf v.db userId) (notFound "Complete your personal details first"))
        fun profile ↦ some (.identityLookup userId dto kycProfileId failures profile)
  | .identityLookup userId dto kycProfileId _ profile =>
      lookUp v told userId dto kycProfileId profile
  | .identityResult userId dto kycProfileId lookup profile outcome =>
      storeIdentity host v told.ctx userId dto kycProfileId lookup profile outcome
  | .bank userId dto => v.read (inquireBankAccount told.provider dto)
      fun answer ↦ some (.bankProfile userId dto answer.1 answer.2)
  | .bankProfile userId dto outcome bankName => v.write (ensureKycProfile told.ctx userId v.db)
      fun profile ↦ some (.bankAccount userId dto outcome bankName profile.id)
  | .bankAccount userId dto outcome bankName kycProfileId =>
      v.write (upsertLinkedBankAccount told.ctx userId bankName (maskIdentityValue dto.accountNumber)
        (host.accountNumberDigest dto.accountNumber) v.db)
        fun _ ↦ some (.bankResult userId dto outcome kycProfileId)
  | .bankResult userId dto outcome kycProfileId =>
      v.write (createCheck (bankAccountCheck told.ctx kycProfileId dto outcome) v.db)
        fun _ ↦ some (.sync userId)
  | .document userId dto =>
      v.read (assertDocumentReadable v.db userId dto) fun _ ↦ some (.documentProfile userId dto)
  | .documentProfile userId dto => v.write (ensureKycProfile told.ctx userId v.db)
      fun profile ↦ some (.documentResult userId dto profile.id)
  | .documentResult userId dto kycProfileId =>
      v.write (storeDocument told.ctx kycProfileId dto.type v.db) fun _ ↦ some (.sync userId)
  | .address userId dto => v.read (assertAddressWanted (readKycFacts v.db userId))
      fun _ ↦ some (.addressProfile userId dto)
  | .addressProfile userId dto => v.write (ensureKycProfile told.ctx userId v.db)
      fun profile ↦ some (.addressBudget userId dto profile.id)
  | .addressBudget userId dto kycProfileId =>
      budget v kycProfileId [.address] told.ctx.now fun _ ↦ .addressRecord userId dto kycProfileId
  | .addressRecord userId dto kycProfileId =>
      (v, some (.addressSave userId dto kycProfileId (passedNinCheck v.db kycProfileId)))
  | .addressSave userId dto kycProfileId ninCheck =>
      -- The address is saved on the user's profile, whose address columns nothing here reads.
      v.read (orThrow (userProfileOf v.db userId) (.database .recordNotFound))
        fun _ ↦ some (.addressResult userId dto kycProfileId ninCheck)
  | .addressResult userId dto kycProfileId ninCheck =>
      let result := Kyc.addressResult host dto.submitted ninCheck
      v.write (createCheck (addressCheck told.ctx kycProfileId ninCheck dto.submitted result) v.db)
        fun _ ↦ afterAddress userId kycProfileId result
  | .exhausted kycProfileId =>
      v.write (updateProfile kycProfileId markRequiresReview v.db) fun _ ↦ none
  | .hold userId kycProfileId =>
      v.write (updateProfile kycProfileId (submitForReview told.ctx.now) v.db)
        fun _ ↦ some (.sync userId)
  | .basicInfo userId dto =>
      v.write (updateDetails told.ctx userId dto v.db) fun _ ↦ some (.sync userId)
  | .personalDetails userId dto =>
      v.write (updateDetails told.ctx userId dto.toUpdateBasicInfoDto v.db)
        fun _ ↦ some (.sync userId)
  | .profile userId dto => v.write (updateUserProfile userId dto.write v.db) fun _ ↦ none
  | .status userId => (v, some (.statusProfile userId (completedLevel (readKycFacts v.db userId))))
  | .statusProfile userId level =>
      (v, if (profileOf v.db userId).any fun p ↦ p.tier ≠ tierForLevel level ∨ p.level ≠ level then
        some (.syncProfile userId level) else none)
  | .sync userId => (v, some (.syncProfile userId (completedLevel (readKycFacts v.db userId))))
  | .syncProfile userId level =>
      (v, if syncNeeded level (profileOf v.db userId) then
        some (.syncWrite userId level (profileOf v.db userId)) else none)
  | .syncWrite userId level existing =>
      v.write (writeTier told.ctx userId level existing v.db) fun _ ↦ none
  | .review reviewerId kycProfileId decision reason tier =>
      (v, some (.decide reviewerId kycProfileId decision reason tier
        (personaUnderReview v.db kycProfileId)))
  | .decide reviewerId kycProfileId decision reason tier seen =>
      storeDecision v told.ctx reviewerId kycProfileId decision reason tier seen
  | .elsewhere db' => ({ v with db := db' }, none)

/-- A request arrives before its first step. -/
def Thread.isRequest : Thread → Bool
  | .identity .. | .bank .. | .document .. | .address .. | .basicInfo .. | .personalDetails ..
  | .profile .. | .status .. | .review .. | .elsewhere .. => true
  | _ => false

/-- The rest of the platform leaves verification alone: it may activate users and set their PINs. -/
structure Elsewhere (db db' : Db) : Prop where
  userProfiles : db'.kyc.userProfiles = db.kyc.userProfiles
  profiles : db'.kyc.profiles = db.kyc.profiles
  checks : db'.kyc.checks = db.kyc.checks
  documents : db'.kyc.documents = db.kyc.documents
  complianceReviews : db'.kyc.complianceReviews = db.kyc.complianceReviews
  active : ∀ userId, (db.users.find? fun u ↦ u.id = userId).any (·.status = .active) →
    (db'.users.find? fun u ↦ u.id = userId).any (·.status = .active)
  pins : ∀ userId, (db.kyc.transactionPins.find? fun p ↦ p.userId = userId).isSome →
    (db'.kyc.transactionPins.find? fun p ↦ p.userId = userId).isSome

/-! ## What a step does -/

/-- The user whose details a request writes, and what it writes. -/
def Thread.details : Thread → Option (Uuid × (UserProfile → UserProfile))
  | .basicInfo userId dto => some (userId, dto.write)
  | .personalDetails userId dto => some (userId, dto.write)
  | .profile userId dto => some (userId, dto.write)
  | _ => none

/-- What one step may do. -/
inductive Effect (host : Host) (told : Told) (v : Verification) : Thread → Verification → Prop
  | idle (t : Thread) : Effect host told v t v
  | sent {userId : Uuid} {dto : VerifyIdentityDto} {kycProfileId : Uuid} {failures : List KycCheck}
      {profile : UserProfile} : Effect host told v
        (.identityLookup userId dto kycProfileId failures profile)
        { v with lookups := v.lookups ++
          [⟨userId, dto.kind, normalizeIdentityNumber dto.identityNumber, told.ctx.now⟩] }
  | profileCreated (t : Thread) {profile : KycProfile} {db' : Db} (htier : profile.tier = .tier1)
      (h : createProfile profile v.db = .ok (profile, db')) :
      Effect host told v t { v with db := db' }
  | profileMarked (t : Thread) {id : Uuid} {write : KycProfile → KycProfile} {db' : Db}
      (hwrite : write = markRequiresReview ∨ write = submitForReview told.ctx.now)
      (h : updateProfile id write v.db = .ok ((), db')) : Effect host told v t { v with db := db' }
  | accountLinked (t : Thread) {accounts : Table LinkedBankAccount} :
      Effect host told v t { v with db := { v.db with linkedBankAccounts := accounts } }
  | checkStored (t : Thread) {check : KycCheck} {db' : Db}
      (htype : check.type ≠ .nin ∧ check.type ≠ .vnin)
      (h : createCheck check v.db = .ok ((), db')) : Effect host told v t { v with db := db' }
  | identityStored {userId : Uuid} {dto : VerifyIdentityDto} {kycProfileId : Uuid} {lookup : Lookup}
      {profile : UserProfile} {outcome : IdentityVerificationOutcome} {check : KycCheck} {db' : Db}
      (hcheck : check = identityCheck host told.ctx kycProfileId dto outcome (legalName profile))
      (h : createCheck check v.db = .ok ((), db')) : Effect host told v
        (.identityResult userId dto kycProfileId lookup profile outcome)
        { v with
          db := db'
          refusals := v.refusals ++ if check.status = .failed then [(lookup, check.id)] else []
          vouchers := v.vouchers ++ [⟨check.id, personaOf profile⟩] }
  | documentStored (t : Thread) {kycProfileId : Uuid} {type : String} {document : VerificationDocument}
      {db' : Db} (h : storeDocument told.ctx kycProfileId type v.db = .ok (document, db'))
      (hof : ∃ userId dto, t = .documentResult userId dto kycProfileId ∧ dto.type = type) :
      Effect host told v t { v with db := db' }
  | detailsWritten {t : Thread} {userId : Uuid} {write : UserProfile → UserProfile} {db' : Db}
      (ht : t.details = some (userId, write))
      (h : updateUserProfile userId write v.db = .ok ((), db')) :
      Effect host told v t { v with db := db' }
  | tierWritten {userId : Uuid} {level : Nat} {existing : Option KycProfile} {db' : Db}
      (h : writeTier told.ctx userId level existing v.db = .ok ((), db')) :
      Effect host told v (.syncWrite userId level existing) { v with db := db' }
  | decided {reviewerId kycProfileId : Uuid} {decision : KycReviewDecision} {reason : String}
      {tier : Option KycTier} {seen : Option Persona} {profile : KycProfile} {db' : Db}
      (h : decideReview told.ctx v.db reviewerId kycProfileId decision reason tier =
        .ok (profile, db')) : Effect host told v
        (.decide reviewerId kycProfileId decision reason tier seen)
        { v with
          db := db'
          vouchers := v.vouchers ++ (passedBy v.db kycProfileId decision tier).flatMap fun c ↦
            (seen.map (Voucher.mk c.id)).toList }
  | elsewhere {db' : Db} : Effect host told v (.elsewhere db') { v with db := db' }

variable {host : Host} {told : Told} {v : Verification} {t : Thread}

theorem Verification.read_effect {α : Type} (t : Thread) (result : Except ServiceError α)
    (next : α → Option Thread) : Effect host told v t (v.read result next).1 := by
  cases result with
  | ok a => exact .idle t
  | error e => exact .idle t

/-- A step that writes has the effect that its successes have. -/
theorem Verification.write_effect {α : Type} (t : Thread) {result : Except ServiceError (α × Db)}
    (next : α → Option Thread)
    (h : ∀ a db', result = .ok (a, db') → Effect host told v t { v with db := db' }) :
    Effect host told v t (v.write result next).1 := by
  cases result with
  | ok answer => exact h answer.1 answer.2 rfl
  | error e => exact .idle t

/-- A request goes on from a read that succeeded. -/
theorem Verification.next_of_read {α : Type} {result : Except ServiceError α}
    {next : α → Option Thread} {t : Thread} (h : (v.read result next).2 = some t) :
    ∃ a, result = .ok a ∧ next a = some t := by
  cases result with
  | ok a => exact ⟨a, rfl, h⟩
  | error e => cases h

/-- A request goes on from a write that succeeded. -/
theorem Verification.next_of_write {α : Type} {result : Except ServiceError (α × Db)}
    {next : α → Option Thread} {t : Thread} (h : (v.write result next).2 = some t) :
    ∃ a db', result = .ok (a, db') ∧ next a = some t ∧ (v.write result next).1.db = db' := by
  cases result with
  | ok answer => exact ⟨answer.1, answer.2, rfl, h, rfl⟩
  | error e => cases h

theorem ensureKycProfile_effect (t : Thread) {userId : Uuid} {profile : KycProfile} {db' : Db}
    (h : ensureKycProfile told.ctx userId v.db = .ok (profile, db')) :
    Effect host told v t { v with db := db' } := by
  unfold ensureKycProfile at h
  split at h
  · cases h
    exact .idle t
  · obtain ⟨_, -, rfl, -⟩ := createProfile_eq_ok h
    exact .profileCreated t rfl h

theorem budget_effect (t : Thread) (kycProfileId : Uuid) (types : List VerificationType)
    (now : Timestamp) (next : List KycCheck → Thread) :
    Effect host told v t (budget v kycProfileId types now next).1 := by
  unfold budget
  split
  · exact .idle t
  · exact .idle t

theorem upsertLinkedBankAccount_effect (t : Thread) {userId : Uuid}
    {bankName masked digest : String} {u : Unit} {db' : Db}
    (h : upsertLinkedBankAccount told.ctx userId bankName masked digest v.db = .ok (u, db')) :
    Effect host told v t { v with db := db' } := by
  simp only [upsertLinkedBankAccount, bind_eq_ok, require_eq_ok, exists_const] at h
  obtain ⟨-, h⟩ := h
  split at h
  · simp only [bind_eq_ok, pure_eq_ok, Prod.mk.injEq] at h
    obtain ⟨_, -, -, rfl⟩ := h
    exact .accountLinked t
  · simp only [bind_eq_ok, pure_eq_ok, Prod.mk.injEq] at h
    obtain ⟨_, -, -, rfl⟩ := h
    exact .accountLinked t

theorem updateDetails_effect {t : Thread} {userId : Uuid} {dto : UpdateBasicInfoDto} {u : Unit}
    {db' : Db} (ht : t.details = some (userId, dto.write))
    (h : updateDetails told.ctx userId dto v.db = .ok (u, db')) :
    Effect host told v t { v with db := db' } := by
  simp only [updateDetails, bind_eq_ok, require_eq_ok, exists_const] at h
  obtain ⟨-, h⟩ := h
  exact .detailsWritten ht h

/-- A request goes on with fewer failures than are allowed. -/
theorem next_of_budget {kycProfileId : Uuid} {types : List VerificationType} {now : Timestamp}
    {next : List KycCheck → Thread} (h : (budget v kycProfileId types now next).2 = some t) :
    t = .exhausted kycProfileId ∨
      ∃ failures, t = next failures ∧ failures.length < IDENTITY_MAX_FAILED_ATTEMPTS := by
  unfold budget at h
  split at h
  · cases h
    exact .inl rfl
  · next hexhausted =>
      cases h
      refine .inr ⟨_, rfl, ?_⟩
      rw [attemptsExhausted_eq, hasExhaustedAttempts, decide_eq_true_eq, Nat.not_le] at hexhausted
      refine lt_of_eq_of_lt ?_ hexhausted
      rw [List.filter_eq_self.mpr, List.length_map]
      intro time htime
      obtain ⟨c, hc, rfl⟩ := List.mem_map.mp htime
      have hp := (Table.mem_findMany.mp hc).2
      exact (Bool.and_eq_true_iff.mp hp).2

theorem next_of_afterIdentity {userId kycProfileId : Uuid} {status : KycCheckStatus}
    (h : afterIdentity userId kycProfileId status = some t) :
    t = .hold userId kycProfileId ∨ t = .sync userId := by
  cases status with
  | pending =>
      cases h
      exact .inl rfl
  | passed =>
      cases h
      exact .inr rfl
  | processing | failed | error => cases h

theorem next_of_storeIdentity {ctx : Ctx} {dto : VerifyIdentityDto} {userId kycProfileId : Uuid}
    {lookup : Lookup} {profile : UserProfile} {outcome : IdentityVerificationOutcome}
    (h : (storeIdentity host v ctx userId dto kycProfileId lookup profile outcome).2 = some t) :
    t = .hold userId kycProfileId ∨ t = .sync userId := by
  unfold storeIdentity at h
  dsimp only at h
  split at h
  · exact next_of_afterIdentity h
  · cases h

theorem next_of_afterAddress {userId kycProfileId : Uuid} {result : AddressResult}
    (h : afterAddress userId kycProfileId result = some t) :
    t = .hold userId kycProfileId ∨ t = .sync userId := by
  cases result with
  | noAddressOnRecord =>
      cases h
      exact .inl rfl
  | matched =>
      cases h
      exact .inr rfl
  | mismatch reason => cases h

theorem next_of_storeDecision (v : Verification) (ctx : Ctx) (reviewerId kycProfileId : Uuid)
    (decision : KycReviewDecision) (reason : String) (tier : Option KycTier)
    (seen : Option Persona) :
    (storeDecision v ctx reviewerId kycProfileId decision reason tier seen).2 = none := by
  unfold storeDecision
  split
  · rfl
  · rfl

/-- Details belong to the user they were read of. -/
theorem Thread.userId_of_details {t : Thread} {userId : Uuid} {write : UserProfile → UserProfile}
    (ht : t.details = some (userId, write)) (p : UserProfile) : (write p).userId = p.userId := by
  cases t with
  | basicInfo | personalDetails | profile =>
      cases ht
      rfl
  | _ => cases ht

/-- Every step has one of the effects. -/
theorem exec_effect (host : Host) (told : Told) (v : Verification) (t : Thread) :
    Effect host told v t (exec host told v t).1 := by
  cases t with
  | identity => exact v.read_effect _ _ _
  | identityName => exact v.read_effect _ _ _
  | bank => exact v.read_effect _ _ _
  | document => exact v.read_effect _ _ _
  | address => exact v.read_effect _ _ _
  | addressSave => exact v.read_effect _ _ _
  | identityProfile => exact v.write_effect _ _ fun _ _ h ↦ ensureKycProfile_effect _ h
  | bankProfile => exact v.write_effect _ _ fun _ _ h ↦ ensureKycProfile_effect _ h
  | documentProfile => exact v.write_effect _ _ fun _ _ h ↦ ensureKycProfile_effect _ h
  | addressProfile => exact v.write_effect _ _ fun _ _ h ↦ ensureKycProfile_effect _ h
  | identityBudget => exact budget_effect _ _ _ _ _
  | addressBudget => exact budget_effect _ _ _ _ _
  | identityLookup userId dto kycProfileId failures profile =>
      show Effect host told v _ (lookUp v told userId dto kycProfileId profile).1
      unfold lookUp Verification.read
      split
      · exact .sent
      · exact .sent
  | identityResult userId dto kycProfileId lookup profile outcome =>
      show Effect host told v _
        (storeIdentity host v told.ctx userId dto kycProfileId lookup profile outcome).1
      unfold storeIdentity
      dsimp only
      split
      · next h => exact .identityStored rfl h
      · exact .idle _
  | bankAccount => exact v.write_effect _ _ fun _ _ h ↦ upsertLinkedBankAccount_effect _ h
  | bankResult userId dto outcome kycProfileId =>
      exact v.write_effect _ _ fun _ _ h ↦
        .checkStored _ ⟨VerificationType.noConfusion, VerificationType.noConfusion⟩ h
  | documentResult userId dto kycProfileId =>
      exact v.write_effect _ _ fun _ _ h ↦ .documentStored _ h ⟨userId, dto, rfl, rfl⟩
  | addressRecord => exact .idle _
  | addressResult userId dto kycProfileId ninCheck =>
      exact v.write_effect _ _ fun _ _ h ↦
        .checkStored _ ⟨VerificationType.noConfusion, VerificationType.noConfusion⟩ h
  | exhausted kycProfileId => exact v.write_effect _ _ fun _ _ h ↦ .profileMarked _ (.inl rfl) h
  | hold userId kycProfileId => exact v.write_effect _ _ fun _ _ h ↦ .profileMarked _ (.inr rfl) h
  | basicInfo userId dto => exact v.write_effect _ _ fun _ _ h ↦ updateDetails_effect rfl h
  | personalDetails userId dto => exact v.write_effect _ _ fun _ _ h ↦ updateDetails_effect rfl h
  | profile userId dto => exact v.write_effect _ _ fun _ _ h ↦ .detailsWritten rfl h
  | status => exact .idle _
  | statusProfile => exact .idle _
  | sync => exact .idle _
  | syncProfile => exact .idle _
  | syncWrite userId level existing => exact v.write_effect _ _ fun _ _ h ↦ .tierWritten h
  | review => exact .idle _
  | decide reviewerId kycProfileId decision reason tier seen =>
      show Effect host told v _
        (storeDecision v told.ctx reviewerId kycProfileId decision reason tier seen).1
      unfold storeDecision
      split
      · next h => exact .decided h
      · exact .idle _
  | elsewhere db' => exact .elsewhere

section Sample

/-- Texts as they are, and accounts by their numbers. -/
def sampleHost : Host := ⟨fun text ↦ text, fun accountNumber ↦ accountNumber⟩

/-- The address on every record. -/
def sampleAddress : PostalAddress := ⟨"12 Allen Avenue", some "Ikeja", none, some "Lagos"⟩

/-- A provider that knows every number as that of one person, or knows none. -/
def sampleProvider (passed : Bool) (name : String) : IdentityProvider where
  verifyIdentity input := .ok
    ⟨"provider", input.identityNumber, passed, "CODE", some name, some sampleAddress, []⟩
  listBanks := .ok []
  inquireAccount _ _ := .error (badRequest "No such account")

/-- What the step number `n` is told. -/
def sampleTold (n : Nat) (passed : Bool) (name : String) : Told :=
  ⟨⟨1000 * n, fun k ↦ .ofNat (1000 + 10 * n + k)⟩, sampleProvider passed name⟩

/-- Several steps of the request at a position, the last one as well as the first. -/
def sampleSteps (position n : Nat) : Nat → List (Move Thread Told)
  | 0 => []
  | steps + 1 => .run position (sampleTold n true "Ada Obi") :: sampleSteps position (n + 1) steps

/-- User number 1 is active. -/
def sampleActive : List User := [⟨.ofNat 1, none, none, .active, none⟩]

/-- User number 1 is active; what is stored of the verification. -/
def samplePlatform (kyc : KycTables) : Pool Verification Thread :=
  ⟨⟨{ Db.empty with
      users := ⟨sampleActive, by decide⟩
      kyc := kyc }, [], [], []⟩, []⟩

/-- The platform after some moves. -/
def sampleRun (kyc : KycTables) (moves : List (Move Thread Told)) : Pool Verification Thread :=
  moves.foldl (Pool.advance (exec sampleHost)) (samplePlatform kyc)

end Sample

end AjoCloud.Kyc
