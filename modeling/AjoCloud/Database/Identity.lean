import AjoCloud.Database.Basic

/-!
# The rows of sign-in

Sessions and their refresh tokens, one-time codes, passwords, linked identities, roles and staff
invitations.  `Store` is the database together with them.
-/

namespace AjoCloud

open Lib

/-! ## Sessions -/

/-- `SessionStatus`. -/
inductive SessionStatus where
  | active
  | revoked
  | expired
  | compromised
deriving DecidableEq, Repr

/-- A session of a user. -/
structure Session where
  id : Uuid
  userId : Uuid
  status : SessionStatus
  currentTokenHash : String
  expiresAt : Timestamp
  lastRotatedAt : Timestamp
  revokedAt : Option Timestamp
  revokeReason : Option String
deriving DecidableEq

instance : Schema Session := Schema.primary (·.id)

/-- A refresh token of a session, by its digest. -/
structure RefreshToken where
  id : Uuid
  sessionId : Uuid
  tokenHash : String
  expiresAt : Timestamp
  consumedAt : Option Timestamp
  revokedAt : Option Timestamp
  replacedById : Option Uuid
deriving DecidableEq

instance : Schema RefreshToken := (Schema.primary (·.id)).unique fun t ↦ some t.tokenHash

/-- The tables of sessions. -/
structure SessionTables where
  sessions : Table Session
  refreshTokens : Table RefreshToken

/-- No session. -/
def SessionTables.empty : SessionTables := ⟨.empty, .empty⟩

/-! ## One-time codes -/

/-- `VerificationPurpose`. -/
inductive VerificationPurpose where
  | accountVerification
  | login
  | passwordReset
deriving DecidableEq, Repr

/-- `AccountVerificationChannel`. -/
inductive AccountVerificationChannel where
  | email
  | phone
deriving DecidableEq, Repr

/-- A code that was sent to a user, by its digest. -/
structure AccountVerificationChallenge where
  id : Uuid
  userId : Uuid
  channel : AccountVerificationChannel
  purpose : VerificationPurpose
  codeHash : String
  destinationMasked : String
  expiresAt : Timestamp
  resendAvailableAt : Timestamp
  attemptCount : Nat
  maxAttempts : Nat
  consumedAt : Option Timestamp
  invalidatedAt : Option Timestamp
  createdAt : Timestamp
deriving DecidableEq

instance : Schema AccountVerificationChallenge := Schema.primary (·.id)

/-! ## Passwords, identities and roles -/

/-- The password of a user, by its argon2 hash. -/
structure UserCredential where
  id : Uuid
  userId : Uuid
  passwordHash : String
  changedAt : Timestamp
deriving DecidableEq

instance : Schema UserCredential := (Schema.primary (·.id)).unique fun c ↦ some c.userId

/-- A Google account that is linked to a user; Google is the only provider there is. -/
structure UserIdentity where
  id : Uuid
  userId : Uuid
  providerUserId : String
  email : Option String
  lastLoginAt : Option Timestamp
deriving DecidableEq

instance : Schema UserIdentity :=
  ((Schema.primary (·.id)).unique fun i ↦ some i.providerUserId).unique fun i ↦ some i.userId

/-- A role, with the keys of its permissions. -/
structure Role where
  id : Uuid
  name : String
  permissions : List String
deriving DecidableEq

instance : Schema Role := (Schema.primary (·.id)).unique fun r ↦ some r.name

/-- A role that was given to a user.  The unique key of the table contains the organisation and the
group of the assignment, which are null here, and nulls never clash. -/
structure UserRole where
  id : Uuid
  userId : Uuid
  roleId : Uuid
  grantedById : Option Uuid
  expiresAt : Option Timestamp
deriving DecidableEq

instance : Schema UserRole := Schema.primary (·.id)

/-! ## Staff invitations -/

/-- `StaffInviteStatus`. -/
inductive StaffInviteStatus where
  | pending
  | accepted
  | revoked
  | expired
deriving DecidableEq, Repr

/-- An invitation to the staff, by the digest of the token in its link. -/
structure StaffInvite where
  id : Uuid
  email : String
  firstName : String
  lastName : String
  roleId : Uuid
  tokenHash : String
  status : StaffInviteStatus
  invitedById : Uuid
  expiresAt : Timestamp
  acceptedAt : Option Timestamp
  acceptedUserId : Option Uuid
deriving DecidableEq

/-- An address has one pending invitation: the last index is partial. -/
instance : Schema StaffInvite :=
  ((Schema.primary (·.id)).unique fun i ↦ some i.tokenHash).unique
    fun i ↦ if i.status = .pending then some i.email else none

/-- An invitation that is not pending any more clashes with nothing that it did not clash with before. -/
theorem StaffInvite.clash_of_closed {a a' b : StaffInvite} (h : Schema.Clash a' b)
    (hid : a'.id = a.id) (htoken : a'.tokenHash = a.tokenHash) (hclosed : a'.status ≠ .pending) :
    Schema.Clash a b := by
  rcases h with (h | ⟨-, h⟩) | ⟨h, -⟩
  · exact .inl (.inl (hid.symm.trans h))
  · exact .inl (.inr ⟨rfl, (congrArg some htoken).symm.trans h⟩)
  · dsimp only at h
    rw [if_neg hclosed] at h
    cases h

/-! ## The store -/

/-- The database, with the tables of sign-in and the column `emailVerifiedAt` of the users. -/
structure Store where
  db : Db
  emailVerifiedAt : Uuid → Option Timestamp
  credentials : Table UserCredential
  identities : Table UserIdentity
  roles : Table Role
  userRoles : Table UserRole
  staffInvites : Table StaffInvite
  challenges : Table AccountVerificationChallenge
  sessions : SessionTables

namespace Store

/-- A store with no rows. -/
def empty : Store where
  db := .empty
  emailVerifiedAt _ := none
  credentials := .empty
  identities := .empty
  roles := .empty
  userRoles := .empty
  staffInvites := .empty
  challenges := .empty
  sessions := .empty

/-- The user with the identifier. -/
def user? (store : Store) (userId : Uuid) : Option User := store.db.users.find? fun u ↦ u.id = userId

/-- The password row of the user. -/
def credential? (store : Store) (userId : Uuid) : Option UserCredential :=
  store.credentials.find? fun c ↦ c.userId = userId

end Store

end AjoCloud
