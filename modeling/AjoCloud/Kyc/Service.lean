import AjoCloud.Kyc.Policy
import AjoCloud.Lib.Triple

/-!
# Verifying a user

`KycService`.  Its statements run outside of a transaction: what one of them has written stays when a
later one fails.  The provider of identity checks is a parameter of each request.
-/

namespace AjoCloud.Kyc

open Lib ServiceError

/-- Statements of the service, one after the other. -/
abbrev Statements := Body ServiceError Db

/-! ## The provider -/

/-- What the provider is asked; of the date of birth it gets the day. -/
structure IdentityInput where
  kind : IdentityKind
  identityNumber : String
  legalName : String
  dateOfBirth : Option Timestamp

/-- `IdentityVerificationOutcome`. -/
structure IdentityVerificationOutcome where
  provider : String
  providerReference : String
  passed : Bool
  resultCode : String
  verifiedName : Option String
  registeredAddress : Option PostalAddress
  riskFlags : List String

/-- `BankAccountInquiryOutcome`. -/
structure BankAccountInquiryOutcome extends IdentityVerificationOutcome where
  accountName : Option String

/-- `ProviderBank`. -/
structure ProviderBank where
  code : String
  name : String

/-- `IdentityProvider`: what it answers, or the error it throws. -/
structure IdentityProvider where
  verifyIdentity : IdentityInput → Except ServiceError IdentityVerificationOutcome
  listBanks : Except ServiceError (List ProviderBank)
  inquireAccount (bankCode accountNumber : String) : Except ServiceError BankAccountInquiryOutcome

/-! ## Single statements -/

/-- The profile of a user. -/
def profileOf (db : Db) (userId : Uuid) : Option KycProfile :=
  db.kyc.profiles.find? fun p ↦ p.userId = userId

/-- Store a new profile. -/
def createProfile (profile : KycProfile) (db : Db) : Except ServiceError (KycProfile × Db) := do
  require ((db.users.find? fun u ↦ u.id = profile.userId).isSome) (.database .foreignKey)
  let profiles ← insertRow db.kyc.profiles profile
  pure (profile, { db with kyc := { db.kyc with profiles := profiles } })

theorem createProfile_eq_ok {profile answer : KycProfile} {db db' : Db}
    (h : createProfile profile db = .ok (answer, db')) :
    ∃ profiles, insertRow db.kyc.profiles profile = .ok profiles ∧ answer = profile ∧
      db' = { db with kyc := { db.kyc with profiles := profiles } } := by
  simp only [createProfile, bind_eq_ok, require_eq_ok, pure_eq_ok, exists_const, Prod.mk.injEq] at h
  obtain ⟨-, profiles, hins, rfl, rfl⟩ := h
  exact ⟨profiles, hins, rfl, rfl⟩

/-- Write on a profile. -/
def updateProfile (id : Uuid) (write : KycProfile → KycProfile) (db : Db) :
    Except ServiceError (Unit × Db) := do
  let profiles ← updateRow db.kyc.profiles (fun p ↦ p.id = id) write
  pure ((), { db with kyc := { db.kyc with profiles := profiles } })

theorem updateProfile_eq_ok {id : Uuid} {write : KycProfile → KycProfile} {db db' : Db} {u : Unit}
    (h : updateProfile id write db = .ok (u, db')) :
    ∃ profiles, updateRow db.kyc.profiles (fun p ↦ p.id = id) write = .ok profiles ∧
      db' = { db with kyc := { db.kyc with profiles := profiles } } := by
  simp only [updateProfile, bind_eq_ok, pure_eq_ok, Prod.mk.injEq] at h
  obtain ⟨profiles, hupdate, -, rfl⟩ := h
  exact ⟨profiles, hupdate, rfl⟩

/-- The columns of a check can hold its texts. -/
def checkFits (check : KycCheck) : Prop :=
  fitsVarChar 64 check.provider ∧ fitsVarChar 191 (check.providerRef.getD "") ∧
    fitsVarChar 64 check.resultCode ∧ fitsVarChar 64 (check.maskedIdentifier.getD "") ∧
    fitsVarChar 500 (check.failureReason.getD "")

instance (check : KycCheck) : Decidable (checkFits check) := by
  unfold checkFits
  infer_instance

/-- Store a new check. -/
def createCheck (check : KycCheck) (db : Db) : Except ServiceError (Unit × Db) := do
  require ((db.kyc.profiles.find? fun p ↦ p.id = check.kycProfileId).isSome) (.database .foreignKey)
  require (checkFits check) (.database .valueTooLong)
  let checks ← insertRow db.kyc.checks check
  pure ((), { db with kyc := { db.kyc with checks := checks } })

/-- A check belongs to a profile. -/
theorem createCheck_eq_ok {check : KycCheck} {db db' : Db} {u : Unit}
    (h : createCheck check db = .ok (u, db')) :
    (∃ p ∈ db.kyc.profiles.rows, p.id = check.kycProfileId) ∧
      ∃ checks, insertRow db.kyc.checks check = .ok checks ∧
        db' = { db with kyc := { db.kyc with checks := checks } } := by
  simp only [createCheck, bind_eq_ok, require_eq_ok, pure_eq_ok, exists_const, Prod.mk.injEq] at h
  obtain ⟨howner, -, checks, hins, -, rfl⟩ := h
  obtain ⟨p, hp⟩ := Option.isSome_iff_exists.mp howner
  exact ⟨⟨p, Table.mem_of_find? hp, by simpa using Table.prop_of_find? hp⟩, checks, hins, rfl⟩

/-- `ensureKycProfile`. -/
def ensureKycProfile (ctx : Ctx) (userId : Uuid) (db : Db) :
    Except ServiceError (KycProfile × Db) :=
  match profileOf db userId with
  | some profile => pure (profile, db)
  | none => createProfile ⟨ctx.uuid 0, userId, .pending, .tier1, 1, some ctx.now, none, none⟩ db

/-- What `sync` writes on a profile. -/
def syncProfile (now : Timestamp) (level : Nat) (verifies : Bool) (profile : KycProfile) :
    KycProfile :=
  { profile with
    tier := tierForLevel level
    level := level
    status := if verifies then .verified else profile.status
    verifiedAt := if verifies then some now else profile.verifiedAt }

/-- `sync`. -/
def sync (ctx : Ctx) (userId : Uuid) (db : Db) : Except ServiceError (Unit × Db) :=
  let level := completedLevel (readKycFacts db userId)
  match profileOf db userId with
  | none =>
      if level = 0 then pure ((), db)
      else do
        let (_, db) ← createProfile
          ⟨ctx.uuid 3, userId, .notStarted, tierForLevel level, level, none, none, none⟩ db
        pure ((), db)
  | some existing =>
      let verified : Bool := level = 3 && existing.status ≠ .requiresReview
      if existing.tier = tierForLevel level ∧ existing.level = level ∧
          (¬ verified ∨ existing.status = .verified) then pure ((), db)
      else updateProfile existing.id
        (syncProfile ctx.now level (verified && existing.status ≠ .verified)) db

/-- A sync leaves all as it is, creates the profile, or writes on it. -/
theorem sync_cases {ctx : Ctx} {userId : Uuid} {db db' : Db} {u : Unit}
    (h : sync ctx userId db = .ok (u, db')) :
    db' = db ∨
    (∃ answer, createProfile ⟨ctx.uuid 3, userId, .notStarted,
      tierForLevel (completedLevel (readKycFacts db userId)), completedLevel (readKycFacts db userId),
      none, none, none⟩ db = .ok (answer, db')) ∨
    ∃ existing, profileOf db userId = some existing ∧
      updateProfile existing.id (syncProfile ctx.now (completedLevel (readKycFacts db userId))
        (completedLevel (readKycFacts db userId) = 3 && existing.status ≠ .requiresReview &&
          existing.status ≠ .verified)) db = .ok (u, db') := by
  rw [sync] at h
  split at h
  · split at h
    · cases h
      exact .inl rfl
    · simp only [bind_eq_ok, pure_eq_ok, Prod.mk.injEq] at h
      obtain ⟨⟨answer, db₁⟩, hcreate, -, rfl⟩ := h
      exact .inr (.inl ⟨answer, hcreate⟩)
  · next existing hfind =>
      dsimp only at h
      split at h
      · cases h
        exact .inl rfl
      · exact .inr (.inr ⟨existing, hfind, h⟩)

/-- The failed attempts of a profile at checks of some types are used up. -/
def attemptsExhausted (db : Db) (kycProfileId : Uuid) (types : List VerificationType)
    (now : Timestamp) : Bool :=
  hasExhaustedAttempts ((db.kyc.checks.findMany fun c ↦ c.kycProfileId = kycProfileId &&
    c.status = .failed && types.contains c.type &&
      now - IDENTITY_ATTEMPT_WINDOW_MS ≤ c.createdAt).map (·.createdAt)) now

/-- The profile waits for a reviewer. -/
def markRequiresReview (profile : KycProfile) : KycProfile :=
  { profile with status := .requiresReview }

/-- The same, submitted now. -/
def submitForReview (now : Timestamp) (profile : KycProfile) : KycProfile :=
  { profile with status := .requiresReview, submittedAt := some now }

/-- `assertAttemptsRemain`. -/
def assertAttemptsRemain (ctx : Ctx) (kycProfileId : Uuid) (types : List VerificationType) :
    Statements Unit := do
  let exhausted ← .read fun db ↦ .ok (attemptsExhausted db kycProfileId types ctx.now)
  if exhausted then do
    .call (updateProfile kycProfileId markRequiresReview)
    .fail (tooManyRequests "Too many verification attempts. Contact support to continue.")
  else pure ()

/-! ## `verifyIdentity` -/

/-- Risk flags that hold a check for a reviewer instead of passing it. -/
def REVIEW_FLAGS : List String := ["NAME_MISMATCH", "DOB_MISMATCH"]

/-- `VerifyIdentityDto`. -/
structure VerifyIdentityDto where
  kind : IdentityKind
  identityNumber : String

/-- The name the provider is given. -/
def legalName (profile : UserProfile) : String := profile.firstName ++ (" " ++ profile.lastName)

/-- The flags of an outcome, with that of a name that does not match. -/
def riskFlagsOf (host : Host) (outcome : IdentityVerificationOutcome) (name : String) :
    List String :=
  if outcome.passed && (outcome.verifiedName.filter (· ≠ "")).any (!namesMatch host · name) then
    outcome.riskFlags ++ ["NAME_MISMATCH"]
  else outcome.riskFlags

/-- A mismatch holds the check for a reviewer rather than passing it. -/
def requiresReview (host : Host) (outcome : IdentityVerificationOutcome) (name : String) : Bool :=
  outcome.passed && (riskFlagsOf host outcome name).any (REVIEW_FLAGS.contains ·)

/-- The check that `verifyIdentity` stores. -/
def identityCheck (host : Host) (ctx : Ctx) (kycProfileId : Uuid) (dto : VerifyIdentityDto)
    (outcome : IdentityVerificationOutcome) (name : String) : KycCheck where
  id := ctx.uuid 1
  kycProfileId := kycProfileId
  type := dto.kind.type
  provider := outcome.provider
  providerRef := some outcome.providerReference
  status := if !outcome.passed then .failed
    else if requiresReview host outcome name then .pending else .passed
  resultCode := outcome.resultCode
  maskedIdentifier := some (maskIdentityValue (normalizeIdentityNumber dto.identityNumber))
  resultSummary := outcome.registeredAddress.map .registeredAddress
  failureReason := if outcome.passed then none else some outcome.resultCode
  riskFlags := riskFlagsOf host outcome name
  reviewerUserId := none
  checkedAt := some ctx.now
  createdAt := ctx.now

/-- A NIN comes after stage 1, and not again while one is verified or being reviewed. -/
def assertNinWanted (facts : KycFacts) : Except ServiceError Unit := do
  require (¬ completedLevel facts < 1)
    (forbidden "Finish stage 1 (Account) before verifying your NIN.")
  require (facts.nin ≠ .passed) (conflict "Your NIN is already verified")
  require (facts.nin ≠ .pending) (conflict "Your NIN is being reviewed. We will let you know.")

/-- What `verifyIdentity` returns. -/
structure VerifyIdentityResult where
  maskedIdentifier : String
  requiresReview : Bool

/-- The profile whose name is verified. -/
def userProfileOf (db : Db) (userId : Uuid) : Option UserProfile :=
  db.kyc.userProfiles.find? fun p ↦ p.userId = userId

/-- What the provider answers about a user. -/
def identityOutcome (provider : IdentityProvider) (dto : VerifyIdentityDto)
    (profile : UserProfile) : Except ServiceError IdentityVerificationOutcome :=
  provider.verifyIdentity ⟨dto.kind, normalizeIdentityNumber dto.identityNumber, legalName profile,
    profile.dateOfBirth⟩

/-- `verifyIdentity`. -/
def verifyIdentity (host : Host) (provider : IdentityProvider) (ctx : Ctx) (userId : Uuid)
    (dto : VerifyIdentityDto) : Statements VerifyIdentityResult := do
  .check (isValidIdentityNumber dto.kind (normalizeIdentityNumber dto.identityNumber))
    (badRequest ("Enter a valid " ++ dto.kind.text))
  .read fun db ↦ if dto.kind ≠ .bvn then assertNinWanted (readKycFacts db userId) else pure ()
  let kycProfile ← .call (ensureKycProfile ctx userId)
  assertAttemptsRemain ctx kycProfile.id [.bvn, .nin, .vnin]
  let profile ← .read fun db ↦ orThrow (userProfileOf db userId)
    (notFound "Complete your personal details first")
  let outcome ← .read fun _ ↦ identityOutcome provider dto profile
  .call (createCheck (identityCheck host ctx kycProfile.id dto outcome (legalName profile)))
  if requiresReview host outcome (legalName profile) then
    .call (updateProfile kycProfile.id (submitForReview ctx.now))
  else pure ()
  .check outcome.passed (badRequest "We could not verify that number. Check it and try again.")
  .call (sync ctx userId)
  pure ⟨maskIdentityValue (normalizeIdentityNumber dto.identityNumber),
    requiresReview host outcome (legalName profile)⟩

/-! ## `linkBankAccount` -/

/-- `LinkBankAccountDto`. -/
structure LinkBankAccountDto where
  bankCode : String
  accountNumber : String

/-- Store the account, or the bank's name on the account that is there. -/
def upsertLinkedBankAccount (ctx : Ctx) (userId : Uuid) (bankName masked digest : String) (db : Db) :
    Except ServiceError (Unit × Db) := do
  require (fitsVarChar 120 bankName) (.database .valueTooLong)
  match db.linkedBankAccounts.find? fun a ↦ a.userId = userId ∧ a.accountDigest = digest with
  | some account => do
      let accounts ← updateRow db.linkedBankAccounts (fun a ↦ a.id = account.id)
        fun a ↦ { a with bankName := bankName }
      pure ((), { db with linkedBankAccounts := accounts })
  | none => do
      let accounts ← insertRow db.linkedBankAccounts ⟨ctx.uuid 2, userId, bankName, masked, digest⟩
      pure ((), { db with linkedBankAccounts := accounts })

theorem kyc_upsertLinkedBankAccount {ctx : Ctx} {userId : Uuid} {bankName masked digest : String}
    {db db' : Db} {u : Unit}
    (h : upsertLinkedBankAccount ctx userId bankName masked digest db = .ok (u, db')) :
    db'.kyc = db.kyc := by
  simp only [upsertLinkedBankAccount, bind_eq_ok, require_eq_ok, exists_const] at h
  obtain ⟨-, h⟩ := h
  split at h
  · simp only [bind_eq_ok, pure_eq_ok, Prod.mk.injEq] at h
    obtain ⟨accounts, -, -, rfl⟩ := h
    rfl
  · simp only [bind_eq_ok, pure_eq_ok, Prod.mk.injEq] at h
    obtain ⟨accounts, -, -, rfl⟩ := h
    rfl

/-- The check that `linkBankAccount` stores. -/
def bankAccountCheck (ctx : Ctx) (kycProfileId : Uuid) (dto : LinkBankAccountDto)
    (outcome : BankAccountInquiryOutcome) : KycCheck where
  id := ctx.uuid 1
  kycProfileId := kycProfileId
  type := .bankAccount
  provider := outcome.provider
  providerRef := some outcome.providerReference
  status := .passed
  resultCode := outcome.resultCode
  maskedIdentifier := some (maskIdentityValue dto.accountNumber)
  resultSummary := none
  failureReason := none
  riskFlags := []
  reviewerUserId := none
  checkedAt := some ctx.now
  createdAt := ctx.now

/-- What `linkBankAccount` returns. -/
structure LinkBankAccountResult where
  accountMasked : String
  accountName : String
  bankName : String

/-- `linkBankAccount`. -/
def linkBankAccount (host : Host) (provider : IdentityProvider) (ctx : Ctx) (userId : Uuid)
    (dto : LinkBankAccountDto) : Statements LinkBankAccountResult := do
  .check (isValidAccountNumber dto.accountNumber) (badRequest "Enter the 10-digit account number")
  let outcome ← .read fun _ ↦ provider.inquireAccount dto.bankCode dto.accountNumber
  let banks ← .read fun _ ↦ provider.listBanks
  let accountName ← .read fun _ ↦
    orThrow (if outcome.passed then outcome.accountName.filter (· ≠ "") else none)
      (badRequest "We could not find that account. Check the details.")
  let bankName ← .read fun _ ↦
    orThrow (((banks.find? fun bank ↦ bank.code = dto.bankCode).map (·.name)).filter (· ≠ ""))
      (badRequest "Select a bank from the list")
  let kycProfile ← .call (ensureKycProfile ctx userId)
  .call (upsertLinkedBankAccount ctx userId bankName (maskIdentityValue dto.accountNumber)
    (host.accountNumberDigest dto.accountNumber))
  .call (createCheck (bankAccountCheck ctx kycProfile.id dto outcome))
  .call (sync ctx userId)
  pure ⟨maskIdentityValue dto.accountNumber, accountName, bankName⟩

/-! ## `uploadIdentityDocument` -/

/-- `UploadIdentityDocumentDto`. -/
structure UploadIdentityDocumentDto where
  type : String
  contentType : String
  data : String

/-- `DOCUMENT_PROBLEMS`. -/
def DOCUMENT_PROBLEMS : DocumentProblem → String
  | .empty => "Choose a photo of your NIN slip or card"
  | .tooLarge => "That file is too large. Retake the photo and try again."
  | .unsupportedType => "Upload a JPEG, PNG or PDF"
  | .typeMismatch => "That file is not the type it claims to be"

/-- A document comes with a NIN, until stage 2 is complete. -/
def assertDocumentWanted (facts : KycFacts) : Except ServiceError Unit := do
  require (¬ (facts.nin = .none ∨ facts.nin = .failed))
    (forbidden "Verify your NIN before uploading the document.")
  require (¬ 2 ≤ completedLevel facts) (conflict "Your NIN document is already on file")

/-- The transaction that stores a document in the place of those before it. -/
def storeDocument (ctx : Ctx) (kycProfileId : Uuid) (type : String) (db : Db) :
    Except ServiceError (VerificationDocument × Db) := do
  let superseded := db.kyc.documents.modify
    (fun d ↦ d.kycProfileId = kycProfileId && NIN_DOCUMENT_TYPES.contains d.type &&
      d.supersededAt.isNone)
    (fun d ↦ { d with supersededAt := some ctx.now }) fun h ↦ h
  let documents ← insertRow superseded ⟨ctx.uuid 1, kycProfileId, type, none⟩
  let profiles ← updateRow db.kyc.profiles (fun p ↦ p.id = kycProfileId)
    fun p ↦ { p with submittedAt := some ctx.now }
  pure (⟨ctx.uuid 1, kycProfileId, type, none⟩,
    { db with kyc := { db.kyc with documents := documents, profiles := profiles } })

theorem storeDocument_eq_ok {ctx : Ctx} {kycProfileId : Uuid} {type : String} {db db' : Db}
    {document : VerificationDocument}
    (h : storeDocument ctx kycProfileId type db = .ok (document, db')) :
    ∃ documents profiles,
      insertRow (db.kyc.documents.modify
        (fun d ↦ d.kycProfileId = kycProfileId && NIN_DOCUMENT_TYPES.contains d.type &&
          d.supersededAt.isNone)
        (fun d ↦ { d with supersededAt := some ctx.now }) fun h ↦ h)
        ⟨ctx.uuid 1, kycProfileId, type, none⟩ = .ok documents ∧
      updateRow db.kyc.profiles (fun p ↦ p.id = kycProfileId)
        (fun p ↦ { p with submittedAt := some ctx.now }) = .ok profiles ∧
      db' = { db with kyc := { db.kyc with documents := documents, profiles := profiles } } := by
  simp only [storeDocument, bind_eq_ok, pure_eq_ok, Prod.mk.injEq] at h
  obtain ⟨documents, hins, profiles, hupdate, -, rfl⟩ := h
  exact ⟨documents, profiles, hins, hupdate, rfl⟩

/-- `uploadIdentityDocument`. -/
def uploadIdentityDocument (ctx : Ctx) (userId : Uuid) (dto : UploadIdentityDocumentDto) :
    Statements VerificationDocument := do
  .read fun db ↦ assertDocumentWanted (readKycFacts db userId)
  let _ ← .read fun _ ↦ (inspectDocument dto.data dto.contentType).mapError fun problem ↦
    badRequest (DOCUMENT_PROBLEMS problem)
  let kycProfile ← .call (ensureKycProfile ctx userId)
  let document ← .call (storeDocument ctx kycProfile.id dto.type)
  .call (sync ctx userId)
  pure document

/-! ## `verifyAddress` -/

/-- `VerifyAddressDto`. -/
structure VerifyAddressDto where
  addressLine : String
  city : String
  lga : Option String
  state : String

/-- The address as it was submitted. -/
def VerifyAddressDto.submitted (dto : VerifyAddressDto) : PostalAddress :=
  ⟨dto.addressLine, some dto.city, dto.lga, some dto.state⟩

/-- `ADDRESS_MISMATCH`. -/
def ADDRESS_MISMATCH : AddressMismatch → String
  | .state => "The state does not match the address on your NIN record."
  | .houseNumber => "The house number does not match the address on your NIN record."
  | .street => "The street does not match the address on your NIN record."

/-- The code of a mismatch. -/
def mismatchCode : AddressMismatch → String
  | .state => "MISMATCH_STATE"
  | .houseNumber => "MISMATCH_HOUSE_NUMBER"
  | .street => "MISMATCH_STREET"

/-- An address comes after stage 2, and not again while one is verified or being reviewed. -/
def assertAddressWanted (facts : KycFacts) : Except ServiceError Unit := do
  require (¬ completedLevel facts < 2)
    (forbidden "Finish stage 2 (Identity) before verifying your address.")
  require (facts.address ≠ .passed) (conflict "Your address is already verified")
  require (facts.address ≠ .pending) (conflict "Your address is being reviewed. We will let you know.")

/-- The latest NIN check that passed. -/
def passedNinCheck (db : Db) (kycProfileId : Uuid) : Option KycCheck :=
  ((db.kyc.checks.findMany fun c ↦ c.kycProfileId = kycProfileId &&
    (c.type = .nin || c.type = .vnin) && c.status = .passed).insertionSort
      fun a b ↦ b.createdAt ≤ a.createdAt).head?

/-- `registeredAddressFrom`. -/
def registeredAddressFrom : Option ResultSummary → Option PostalAddress
  | some (.registeredAddress address) => some address
  | _ => none

/-- What comes of a submitted address. -/
inductive AddressResult where
  | noAddressOnRecord
  | matched
  | mismatch (reason : AddressMismatch)
deriving DecidableEq

/-- The comparison with the address on the NIN record, if there is one to compare with. -/
def addressResult (host : Host) (submitted : PostalAddress) (ninCheck : Option KycCheck) :
    AddressResult :=
  match ((ninCheck.bind (·.resultSummary) |> registeredAddressFrom).filter (isComparable host)) with
  | none => .noAddressOnRecord
  | some registered =>
      match compareAddresses host submitted registered with
      | none => .matched
      | some reason => .mismatch reason

/-- The status of the check. -/
def AddressResult.status : AddressResult → KycCheckStatus
  | .noAddressOnRecord => .pending
  | .matched => .passed
  | .mismatch _ => .failed

/-- The code of the check. -/
def AddressResult.code : AddressResult → String
  | .noAddressOnRecord => "NO_ADDRESS_ON_RECORD"
  | .matched => "MATCHED"
  | .mismatch reason => mismatchCode reason

/-- The check that `verifyAddress` stores. -/
def addressCheck (ctx : Ctx) (kycProfileId : Uuid) (ninCheck : Option KycCheck)
    (submitted : PostalAddress) (result : AddressResult) : KycCheck where
  id := ctx.uuid 1
  kycProfileId := kycProfileId
  type := .address
  provider := (ninCheck.map (·.provider)).getD "manual"
  providerRef := none
  status := result.status
  resultCode := result.code
  maskedIdentifier := none
  resultSummary := some (.submitted submitted)
  failureReason := if result.status = .failed then some result.code else none
  riskFlags := []
  reviewerUserId := none
  checkedAt := some ctx.now
  createdAt := ctx.now

/-- `verifyAddress`; it returns whether the address is verified. -/
def verifyAddress (host : Host) (ctx : Ctx) (userId : Uuid) (dto : VerifyAddressDto) :
    Statements Bool := do
  .read fun db ↦ assertAddressWanted (readKycFacts db userId)
  let kycProfile ← .call (ensureKycProfile ctx userId)
  assertAttemptsRemain ctx kycProfile.id [.address]
  let ninCheck ← .read fun db ↦ .ok (passedNinCheck db kycProfile.id)
  -- The address is saved on the user's profile, whose address columns nothing here reads.
  let _ ← .read fun db ↦ orThrow (userProfileOf db userId) (.database .recordNotFound)
  let result := addressResult host dto.submitted ninCheck
  .call (createCheck (addressCheck ctx kycProfile.id ninCheck dto.submitted result))
  if result.status = .pending then
    .call (updateProfile kycProfile.id (submitForReview ctx.now))
  else pure ()
  match result with
  | .mismatch reason => .fail (unprocessable (ADDRESS_MISMATCH reason))
  | _ => do
      .call (sync ctx userId)
      pure (result.status = .passed)

end AjoCloud.Kyc
