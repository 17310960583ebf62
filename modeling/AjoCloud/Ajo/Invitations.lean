import AjoCloud.Common.Text
import AjoCloud.Database.Basic

/-!
# Invitations

The codes in shared links (`share-code.ts`, `invitation-code.ts`) and `GroupInvitationsService`: an
active member issues an invitation, which admits as many people as it was issued for, and may take
it back.
-/

namespace AjoCloud.Ajo

open Lib ServiceError

/-! ## Codes -/

/-- What the handling of codes takes from outside: the host's upper case, and the HMAC of a code
under the pepper. -/
structure Codec where
  toUpperCase : String → String
  digestInvitationCode : String → String

/-- `SHARE_CODE_ALPHABET`. -/
def shareCodeAlphabet : String := "2345679ACDEFGHJKMNPQRTUVWXYZ"

/-- `PUBLIC_CODE_LENGTH`. -/
def publicCodeLength : Nat := 7

/-- `INVITATION_CODE_LENGTH`. -/
def invitationCodeLength : Nat := 10

/-- `normaliseShareCode`. -/
def normaliseShareCode (codec : Codec) (input : String) (length : Nat) : Option String :=
  let code := (codec.toUpperCase (trim input)).toList.filter fun c ↦ !(isSpace c || c = '-')
  if code.length = length ∧ code.all (shareCodeAlphabet.toList.contains ·) then
    some (String.ofList code)
  else none

/-- `normalisePublicCode`. -/
def normalisePublicCode (codec : Codec) (input : String) : Option String :=
  normaliseShareCode codec input publicCodeLength

/-- `LEGACY_INVITATION_CODE`: 32 to 128 characters of base64url. -/
def isLegacyInvitationCode (input : String) : Bool :=
  32 ≤ input.length && input.length ≤ 128 &&
    input.toList.all fun c ↦ c.isAlphanum || c = '_' || c = '-'

/-- `canonicalInvitationCode`. -/
def canonicalInvitationCode (codec : Codec) (input : String) : Option String :=
  match normaliseShareCode codec input invitationCodeLength with
  | some short => some short
  | none => if isLegacyInvitationCode input then some input else none

/-! ## Issuing and revoking -/

/-- `INVITATION_TTL_MS`. -/
def invitationTtlMs : Int := 14 * 24 * 60 * 60 * 1000

/-- `MAX_LIVE_INVITATIONS_PER_MEMBER`. -/
def maxLiveInvitationsPerMember : Nat := 20

/-- The active membership that the invitation service asks for, with its own refusal. -/
def invitingMember (db : Db) (userId groupId : Uuid) (refusal : String) :
    Except ServiceError AjoGroupMember := do
  let member ← orThrow (db.ajoGroupMembers.find? fun m ↦ m.groupId = groupId ∧ m.userId = userId)
    (forbidden refusal)
  require (member.status = .active) (forbidden refusal)
  pure member

/-- A group that still takes members. -/
def AcceptsMembers (group : AjoGroup) : Prop := group.status = .draft ∨ group.status = .open

instance (group : AjoGroup) : Decidable (AcceptsMembers group) :=
  inferInstanceAs (Decidable (_ ∨ _))

/-- `GroupInvitationsService.create`, for the code it drew. -/
def createInvitation (codec : Codec) (ctx : Ctx) (code : String) (db : Db) (userId groupId : Uuid)
    (maxUses : Nat) : Except ServiceError (GroupInvitation × Db) := do
  let member ← invitingMember db userId groupId
    "Only an active member of this group can invite others"
  let group ← orThrow (db.ajoGroups.find? fun g ↦ g.id = groupId)
    (notFound "Ajo group was not found")
  require (AcceptsMembers group) (conflict "This group no longer accepts members")
  let live := db.groupInvitations.findMany fun i ↦
    i.createdByMemberId = member.id ∧ i.status = .active ∧ ctx.now < i.expiresAt
  require (¬ maxLiveInvitationsPerMember ≤ live.length)
    (conflict ("You have too many open invitations for this group. " ++
      "Revoke one before creating another."))
  let invitation : GroupInvitation :=
    { id := ctx.uuid 0
      groupId := groupId
      createdByMemberId := member.id
      tokenDigest := codec.digestInvitationCode code
      maxUses := maxUses
      expiresAt := ctx.now + invitationTtlMs }
  let groupInvitations ← insertRow db.groupInvitations invitation
  pure (invitation, { db with groupInvitations := groupInvitations })

/-- `GroupInvitationsService.revoke`. -/
def revokeInvitation (db : Db) (userId groupId invitationId : Uuid) :
    Except ServiceError (Unit × Db) := do
  let member ← invitingMember db userId groupId
    "Only an active member of this group can revoke invitations"
  let invitation ← orThrow (db.groupInvitations.find? fun i ↦ i.id = invitationId)
    (notFound "That invitation was not found")
  require (invitation.groupId = groupId ∧ invitation.createdByMemberId = member.id)
    (notFound "That invitation was not found")
  if invitation.status = .active then
    pure ((), { db with
      groupInvitations := db.groupInvitations.modify (fun i ↦ i.id = invitationId)
        (fun i ↦ { i with status := .revoked }) fun h ↦ h })
  else pure ((), db)

end AjoCloud.Ajo
