import AjoCloud.Auth.Challenges
import AjoCloud.Auth.Register
import Mathlib

/-!
# The routes into an account

The database steps of registration, e-mail verification, sign-in by password, by code and by Google,
password reset and staff invitations.  Each definition is one transaction, or one read outside of a
transaction.
-/

namespace AjoCloud.Auth

open Lib ServiceError

/-- What a step takes from outside: the clock, the identifiers, and what is drawn at random for it (a
code, a refresh token, a referral code). -/
structure Inputs where
  now : Timestamp
  uuid : Nat → Uuid
  code : String
  rawToken : String
  referralCode : String

/-- The clock and the identifiers alone. -/
def Inputs.ctx (o : Inputs) : Ctx := ⟨o.now, o.uuid⟩

/-! ## Users -/

/-- `findUnique({ where: { email } })`. -/
def userByEmail (store : Store) (email : String) : Option User :=
  store.db.users.find? fun u ↦ u.email = some email

/-- The user with another status. -/
def withStatus (status : UserStatus) (u : User) : User := { u with status := status }

theorem clash_of_withStatus {status : UserStatus} {a b : User}
    (h : Schema.Clash (withStatus status a) b) : Schema.Clash a b := h

/-- The store with another status for the user. -/
def setStatus (userId : Uuid) (status : UserStatus) (store : Store) : Store :=
  { store with
    db := { store.db with
      users := store.db.users.modify (fun u ↦ u.id = userId) (withStatus status)
        clash_of_withStatus } }

/-- The store with the moment at which the user's address was verified. -/
def setVerified (userId : Uuid) (verifiedAt : Option Timestamp) (store : Store) : Store :=
  { store with
    emailVerifiedAt := fun id ↦ if id = userId then verifiedAt else store.emailVerifiedAt id }

/-- `data: { status: ACTIVE, emailVerifiedAt }`. -/
def activate (userId : Uuid) (verifiedAt : Timestamp) (store : Store) : Store :=
  setVerified userId (some verifiedAt) (setStatus userId .active store)

/-- `create` of a session for the user. -/
def openSession (config : Config) (o : Inputs) (store : Store) (userId : Uuid) :
    Except ServiceError (TokenPair × Store) := do
  let (pair, sessions) ← createSession config o.ctx o.rawToken store.sessions userId
  pure (pair, { store with sessions := sessions })

/-! ## `AuthService.register` -/

/-- `role.upsert` of the role of members. -/
def memberRole (o : Inputs) (roles : Table Role) : Except ServiceError (Uuid × Table Role) :=
  match roles.find? fun r ↦ r.name = "MEMBER" with
  | some role => pure (role.id, roles)
  | none => do
      let roles ← insertRow roles ⟨o.uuid 6, "MEMBER", []⟩
      pure (o.uuid 6, roles)

/-- The transaction of `register`, with the rows that only sign-in reads. -/
def registerAccountWithin (config : Config) (o : Inputs) (store : Store) (dto : RegisterDto)
    (passwordHash : String) : Except ServiceError (Uuid × Store) := do
  let (createdId, db) ← registerWithin o.ctx o.referralCode store.db dto
  let (roleId, roles) ← memberRole o store.roles
  let userRoles ← insertRow store.userRoles ⟨o.uuid 7, createdId, roleId, none, none⟩
  let credentials ← insertRow store.credentials ⟨o.uuid 8, createdId, passwordHash, o.now⟩
  let challenges ← insertRow store.challenges
    (newChallenge config o.now (o.uuid 9) o.code .accountVerification
      (toLowerCase (trim dto.email)) createdId)
  pure (createdId, setVerified createdId none
    { store with
      db := db
      roles := roles
      userRoles := userRoles
      credentials := credentials
      challenges := challenges })

/-- `register`, with the hash of the password. -/
def registerAccount (config : Config) (o : Inputs) (store : Store) (dto : RegisterDto)
    (passwordHash : String) : Except ServiceError (Uuid × Store) :=
  (registerAccountWithin config o store dto passwordHash).mapError fun e ↦
    if e = .database .uniqueConstraint then conflict "An account with these details already exists"
    else e

/-! ## Verification of the address -/

/-- The transaction of `verifyEmail`. -/
def verifyEmail (config : Config) (now : Timestamp) (store : Store) (userId : Uuid)
    (code : String) : Redemption × Store :=
  match store.user? userId with
  | none => (.missing, store)
  | some user =>
      if (truthy user.email).isNone then (.missing, store)
      else if (store.emailVerifiedAt userId).isSome ∧ user.status = .active then (.already, store)
      else
        match findNewest store.challenges (openEmail userId) with
        | none => (.expired, store)
        | some challenge =>
            match redeem config now challenge code store.challenges with
            | (.accepted, challenges) =>
                (.accepted, activate userId now { store with challenges := challenges })
            | (other, challenges) => (other, { store with challenges := challenges })

/-- What `verifyEmail` throws after its transaction. -/
def verifyEmailError : Redemption → Option ServiceError
  | .missing => some (notFound "Verification request not found")
  | .already => some (conflict "Email is already verified")
  | .expired => some (badRequest "Verification code has expired")
  | .locked => some (tooManyRequests "Verification attempts exceeded")
  | .invalid => some (.http .unauthorized "Verification code is invalid")
  | .accepted => none

/-- What a request for a code comes to. -/
inductive Resend where
  | missing
  | cooldown (retryAt : Timestamp)
  | created (challengeId : Uuid)
deriving DecidableEq

/-- What `resendVerification` throws after its transaction. -/
def resendVerificationError : Resend → Option ServiceError
  | .missing => some (notFound "Verification request not found")
  | .cooldown retryAt => some (tooManyRequests ("Try again after " ++ toISOString retryAt))
  | .created _ => none

/-- The transaction of `resendVerification`. -/
def resendVerification (config : Config) (o : Inputs) (store : Store) (userId : Uuid) :
    Except ServiceError (Resend × Store) :=
  match (store.user? userId).bind fun u ↦ truthy u.email with
  | none => pure (.missing, store)
  | some destination =>
      if (store.emailVerifiedAt userId).isSome then pure (.missing, store)
      else
        match cooling o.now store.challenges (openEmail userId) with
        | some latest => pure (.cooldown latest.resendAvailableAt, store)
        | none => do
            let challenge := newChallenge config o.now (o.uuid 0) o.code .accountVerification
              destination userId
            let challenges ← issue o.now (openEmail userId) challenge store.challenges
            pure (.created challenge.id, { store with challenges := challenges })

/-! ## `AuthService.login` -/

/-- The read of `login`, and the checks after it. -/
def login (config : Config) (store : Store) (email password : String) : Except ServiceError Uuid :=
  do
    let user ← orThrow (userByEmail store (toLowerCase (trim email)))
      (.http .unauthorized "Invalid credentials")
    let valid := match store.credential? user.id with
      | some credential => config.verify credential.passwordHash password
      | none => false
    require (valid = true ∧ user.status = .active) (.http .unauthorized "Invalid credentials")
    pure user.id

/-! ## Password reset -/

/-- `requestReset` may go on for a user with this status. -/
def resetAllowed (status : UserStatus) : Prop := status ≠ .suspended ∧ status ≠ .deactivated

instance (status : UserStatus) : Decidable (resetAllowed status) :=
  inferInstanceAs (Decidable (_ ∧ _))

/-- The transaction of `requestReset`. -/
def issueReset (config : Config) (o : Inputs) (store : Store) (userId : Uuid) (email : String) :
    Except ServiceError (Uuid × Store) := do
  let challenge := newChallenge config o.now (o.uuid 0) o.code .passwordReset email userId
  let challenges ← issue o.now (openReset userId) challenge store.challenges
  pure (challenge.id, { store with challenges := challenges })

/-- The credential of the user with a new hash. -/
def withPassword (now : Timestamp) (passwordHash : String) (c : UserCredential) : UserCredential :=
  { c with passwordHash := passwordHash, changedAt := now }

theorem clash_of_withPassword {now : Timestamp} {hash : String} {a b : UserCredential}
    (h : Schema.Clash (withPassword now hash a) b) : Schema.Clash a b := h

/-- `userCredential.upsert`. -/
def upsertCredential (o : Inputs) (userId : Uuid) (passwordHash : String)
    (credentials : Table UserCredential) : Except ServiceError (Table UserCredential) :=
  match credentials.find? fun c ↦ c.userId = userId with
  | some _ => pure (credentials.modify (fun c ↦ c.userId = userId) (withPassword o.now passwordHash)
      clash_of_withPassword)
  | none => insertRow credentials ⟨o.uuid 0, userId, passwordHash, o.now⟩

/-- A session that a reset ends.  Its refresh tokens are left alone. -/
def resetSession (now : Timestamp) (userId : Uuid) (s : Session) : Session :=
  if s.userId = userId ∧ s.status = .active then endSession now .revoked "password_reset" s else s

theorem clash_of_resetSession {now : Timestamp} {userId : Uuid} {a b : Session}
    (h : Schema.Clash (resetSession now userId a) b) : Schema.Clash a b := by
  unfold resetSession at h
  split at h
  · exact h
  · exact h

/-- The transaction of `completeReset`, with the hash of the new password. -/
def completeReset (config : Config) (o : Inputs) (store : Store) (challengeId : Uuid)
    (code passwordHash : String) : Except ServiceError (Redemption × Store) :=
  match challengeFor .passwordReset challengeId store.challenges with
  | none => pure (.invalid, store)
  | some challenge =>
      match redeem config o.now challenge code store.challenges with
      | (.accepted, challenges) => do
          let credentials ← upsertCredential o challenge.userId passwordHash store.credentials
          let sessions := store.sessions.sessions.modify (fun _ ↦ true)
            (resetSession o.now challenge.userId) clash_of_resetSession
          pure (.accepted, activate challenge.userId o.now
            { store with
              challenges := challenges
              credentials := credentials
              sessions := { store.sessions with sessions := sessions } })
      | (other, challenges) => pure (other, { store with challenges := challenges })

/-- What `completeReset` throws after its transaction. -/
def completeResetError : Redemption → Option ServiceError
  | .expired => some (badRequest "This code has expired")
  | .locked => some (badRequest "Too many attempts. Request a new code")
  | .accepted => none
  | _ => some (.http .unauthorized "Invalid or expired code")

/-! ## Sign-in by code -/

/-- `ADMIN_PERMISSIONS`. -/
def adminPermissions : List String := ["audit.read", "users.read"]

/-- The roles of the user that have not run out. -/
def currentRoles (now : Timestamp) (store : Store) (userId : Uuid) : List Role :=
  (store.userRoles.findMany fun a ↦
      a.userId = userId && (a.expiresAt.all fun expiresAt ↦ now < expiresAt)).filterMap fun a ↦
    store.roles.find? fun r ↦ r.id = a.roleId

/-- `eligibilityWhere`. -/
def eligible (now : Timestamp) (store : Store) (user : User) : Bool :=
  user.status = .active && (currentRoles now store user.id).any fun role ↦
    role.permissions.any fun key ↦ key ∈ adminPermissions

/-- `findEligibleAdmin`. -/
def findEligibleAdmin (now : Timestamp) (store : Store) (email : String) : Option User :=
  store.db.users.find? fun u ↦ u.email = some email && eligible now store u

/-- The transaction of `requestCode` and of `resendCode`. -/
def issueLogin (config : Config) (o : Inputs) (store : Store) (userId : Uuid) (email : String) :
    Except ServiceError (Uuid × Store) := do
  let challenge := newChallenge config o.now (o.uuid 0) o.code .login email userId
  let challenges ← issue o.now (openLogin userId) challenge store.challenges
  pure (challenge.id, { store with challenges := challenges })

/-- The read of `resendCode`, and the checks after it: for whom, and to which address. -/
def resendCode (now : Timestamp) (store : Store) (challengeId : Uuid) :
    Except ServiceError (Uuid × String) := do
  let current ← orThrow (store.challenges.find? fun c ↦ c.id = challengeId)
    (.http .unauthorized "Sign-in request is no longer valid")
  require (current.purpose = .login ∧ current.consumedAt.isNone)
    (.http .unauthorized "Sign-in request is no longer valid")
  require (current.resendAvailableAt ≤ now)
    (tooManyRequests ("Another code can be sent after " ++ toISOString current.resendAvailableAt))
  let user ← orThrow (store.user? current.userId) (.database .recordNotFound)
  let email ← orThrow (truthy user.email) (.http .unauthorized "Sign-in request is no longer valid")
  pure (user.id, email)

/-- The transaction of `verifyCode`, with the user whose code was redeemed. -/
def verifyCode (config : Config) (now : Timestamp) (store : Store) (challengeId : Uuid)
    (code : String) : (Redemption × Option Uuid) × Store :=
  match challengeFor .login challengeId store.challenges with
  | none => ((.invalid, none), store)
  | some challenge =>
      let (result, challenges) := redeem config now challenge code store.challenges
      ((result, some challenge.userId), { store with challenges := challenges })

/-- What `verifyCode` throws after its transaction. -/
def verifyCodeError : Redemption → Option ServiceError
  | .expired => some (.http .unauthorized "That code has expired — request a new one")
  | .locked => some (tooManyRequests "Too many incorrect codes")
  | .accepted => none
  | _ => some (.http .unauthorized "That code is not correct")

/-! ## Google -/

/-- `GoogleClaims`, once Google has answered for them; `emailVerified` is whether the claim is `true`
or `'true'`. -/
structure GoogleClaims where
  sub : String
  email : Option String
  emailVerified : Bool
  givenName : Option String
  familyName : Option String
  name : Option String

/-- The words of a text. -/
def words (text : String) : List String :=
  ((text.toList.splitOnP isSpace).filter fun w ↦ !w.isEmpty).map String.ofList

/-- `splitName`. -/
def splitName (claims : GoogleClaims) : String × String :=
  let given := truthy (claims.givenName.map trim)
  let family := truthy (claims.familyName.map trim)
  match given, family with
  | some given, family => (given, family.getD "—")
  | none, some family => (family, family)
  | none, none =>
      match (claims.name.map (words ∘ trim)).getD [] with
      | [] => ("Member", "—")
      | [first] => (first, "—")
      | first :: rest => (first, " ".intercalate rest)

/-- The address that Google has verified. -/
def googleEmail (claims : GoogleClaims) : Except ServiceError String := do
  let email ← orThrow (truthy (claims.email.map fun e ↦ toLowerCase (trim e)))
    (badRequest "A verified Google email address is required")
  require (claims.emailVerified = true) (badRequest "A verified Google email address is required")
  pure email

/-- `userIdentity.findUnique`. -/
def identityOf (store : Store) (claims : GoogleClaims) : Option UserIdentity :=
  store.identities.find? fun i ↦ i.providerUserId = claims.sub

/-- The identity after one more sign-in with it. -/
def touch (now : Timestamp) (email : String) (i : UserIdentity) : UserIdentity :=
  { i with lastLoginAt := some now, email := some email }

theorem clash_of_touch {now : Timestamp} {email : String} {a b : UserIdentity}
    (h : Schema.Clash (touch now email a) b) : Schema.Clash a b := h

/-- `userIdentity.update`. -/
def touchIdentity (now : Timestamp) (store : Store) (identityId : Uuid) (email : String) : Store :=
  { store with
    identities := store.identities.modify (fun i ↦ i.id = identityId) (touch now email)
      clash_of_touch }

/-- The transaction that links an account to Google; `verifiedAt` is what was read of it before. -/
def linkGoogle (o : Inputs) (store : Store) (claims : GoogleClaims) (email : String)
    (userId : Uuid) (verifiedAt : Option Timestamp) : Except ServiceError (Unit × Store) := do
  let identities ← insertRow store.identities ⟨o.uuid 0, userId, claims.sub, some email, some o.now⟩
  let _ ← orThrow (store.user? userId) (.database .recordNotFound)
  pure (⟨⟩, activate userId (verifiedAt.getD o.now) { store with identities := identities })

/-- `user.create` for somebody Google sends.  The wallet gets no accounts. -/
def createGoogle (o : Inputs) (store : Store) (claims : GoogleClaims) (email : String) :
    Except ServiceError (Uuid × Store) := do
  let users ← insertRow store.db.users ⟨o.uuid 0, some email, none, .active, none⟩
  let userProfiles ← insertRow store.db.kyc.userProfiles
    ⟨o.uuid 1, o.uuid 0, (splitName claims).1, (splitName claims).2, none, none, none⟩
  let wallets ← insertRow store.db.wallets ⟨o.uuid 2, o.uuid 0, "NGN", .active⟩
  let identities ← insertRow store.identities
    ⟨o.uuid 3, o.uuid 0, claims.sub, some email, some o.now⟩
  pure (o.uuid 0, setVerified (o.uuid 0) (some o.now)
    { store with
      db := { store.db with
        users := users
        kyc := { store.db.kyc with userProfiles := userProfiles }
        wallets := wallets }
      identities := identities })

/-! ## Staff invitations -/

/-- `findLiveInvite`. -/
def findLiveInvite (config : Config) (now : Timestamp) (store : Store) (token : String) :
    Except ServiceError StaffInvite := do
  let invite ← orThrow (store.staffInvites.find? fun i ↦ i.tokenHash = config.digest token)
    (forbidden "This invitation link is invalid or has expired")
  require (invite.status = .pending ∧ now < invite.expiresAt)
    (forbidden "This invitation link is invalid or has expired")
  pure invite

/-- The invitation after it was accepted. -/
def acceptInvite (now : Timestamp) (userId : Uuid) (i : StaffInvite) : StaffInvite :=
  { i with status := .accepted, acceptedAt := some now, acceptedUserId := some userId }

theorem clash_of_acceptInvite {now : Timestamp} {userId : Uuid} {a b : StaffInvite}
    (h : Schema.Clash (acceptInvite now userId a) b) : Schema.Clash a b :=
  StaffInvite.clash_of_closed h rfl rfl nofun

/-- The transaction of `accept`, which creates the account without a wallet. -/
def accept (o : Inputs) (store : Store) (inviteId : Uuid) (passwordHash : String) :
    Except ServiceError (Uuid × Store) := do
  let current ← orThrow (store.staffInvites.find? fun i ↦ i.id = inviteId)
    (forbidden "This invitation is no longer valid")
  require (current.status = .pending) (forbidden "This invitation is no longer valid")
  require (o.now < current.expiresAt) (badRequest "This invitation has expired. Ask for a new one.")
  require ((userByEmail store current.email).isNone)
    (conflict "An account already exists for this email address")
  let users ← insertRow store.db.users ⟨o.uuid 0, some current.email, none, .active, none⟩
  let userProfiles ← insertRow store.db.kyc.userProfiles
    ⟨o.uuid 1, o.uuid 0, current.firstName, current.lastName, none, none, none⟩
  let credentials ← insertRow store.credentials ⟨o.uuid 2, o.uuid 0, passwordHash, o.now⟩
  let userRoles ← insertRow store.userRoles
    ⟨o.uuid 3, o.uuid 0, current.roleId, some current.invitedById, none⟩
  pure (o.uuid 0, setVerified (o.uuid 0) (some o.now)
    { store with
      db := { store.db with
        users := users
        kyc := { store.db.kyc with userProfiles := userProfiles } }
      credentials := credentials
      userRoles := userRoles
      staffInvites := store.staffInvites.modify (fun i ↦ i.id = inviteId)
        (acceptInvite o.now (o.uuid 0)) clash_of_acceptInvite })

/-! ## `AccessTokenGuard` -/

/-- `AuthenticatedUser`. -/
structure AuthenticatedUser where
  userId : Uuid
  sessionId : Uuid
  roles : List String
  permissions : List String

/-- `canActivate`, for an access token whose signature and expiry are in order. -/
def canActivate (now : Timestamp) (store : Store) (claims : AccessClaims) :
    Except ServiceError AuthenticatedUser := do
  let denied := ServiceError.http .unauthorized "Authentication required"
  require (claims.typ = "access") denied
  let session ← orThrow (store.sessions.sessions.find? fun s ↦ s.id = claims.sid) denied
  let user ← orThrow (store.user? session.userId) denied
  require (session.userId = claims.sub ∧ session.status = .active ∧ now < session.expiresAt ∧
    user.status = .active) denied
  let roles := currentRoles now store user.id
  pure ⟨claims.sub, claims.sid, (roles.map (·.name)).dedup, (roles.flatMap (·.permissions)).dedup⟩

end AjoCloud.Auth
