import AjoCloud.Common.Text
import AjoCloud.Database.Basic

/-!
# Staged verification

`kyc-stage-policy.ts` and `kyc-facts.ts`: what is known about a person, how many stages of
verification that completes, and the refusal of an organiser who has not completed all three.
-/

namespace AjoCloud.Kyc

open Lib ServiceError

/-! ## `kyc-stage-policy.ts` -/

/-- A check's state as far as staging cares. -/
inductive CheckState where
  | none
  | pending
  | passed
  | failed
deriving DecidableEq, Repr

/-- What staging is decided from. -/
structure KycFacts where
  accountActive : Bool
  basicInfoComplete : Bool
  pinSet : Bool
  nin : CheckState
  ninDocumentUploaded : Bool
  address : CheckState
  restricted : Bool

/-- The state of a requirement. -/
inductive RequirementState where
  | complete
  | pending
  | failed
  | missing
deriving DecidableEq, Repr

/-- `requirementState`. -/
def requirementState : CheckState → RequirementState
  | .passed => .complete
  | .pending => .pending
  | .failed => .failed
  | .none => .missing

/-- `flag`. -/
def flag (met : Bool) : RequirementState := if met then .complete else .missing

/-- The states of the requirements of each stage, in order. -/
def stageRequirements (facts : KycFacts) : List (List RequirementState) :=
  [[flag facts.accountActive, flag facts.basicInfoComplete],
    [flag facts.pinSet, requirementState facts.nin, flag facts.ninDocumentUploaded],
    [requirementState facts.address]]

/-- The number of stages complete: a later stage never counts while an earlier one is
incomplete, and a restricted profile counts none. -/
def completedLevel (facts : KycFacts) : Nat :=
  if facts.restricted then 0
  else ((stageRequirements facts).takeWhile fun stage ↦ stage.all (· = .complete)).length

/-! ## `kyc-facts.ts` -/

/-- The document types that satisfy the upload. -/
def NIN_DOCUMENT_TYPES : List String := ["NIN_SLIP", "NIN_CARD"]

/-- A check type's state across every attempt: one pass is enough, otherwise the most recent
attempt decides. -/
def stateOf (checks : List KycCheck) : CheckState :=
  if checks.any (·.status = .passed) then .passed
  else match (checks.insertionSort fun a b ↦ b.createdAt ≤ a.createdAt).head? with
    | none => .none
    | some latest => if latest.status = .failed ∨ latest.status = .error then .failed else .pending

/-- `present`. -/
def present (value : Option String) : Bool := value.any fun text ↦ trim text ≠ ""

/-- The checks on a user's profile. -/
def checksOf (db : Db) (userId : Uuid) : List KycCheck :=
  match db.kyc.profiles.find? fun p ↦ p.userId = userId with
  | none => []
  | some profile => db.kyc.checks.findMany fun c ↦ c.kycProfileId = profile.id

/-- `readKycFacts`. -/
def readKycFacts (db : Db) (userId : Uuid) : KycFacts where
  accountActive := (db.users.find? fun u ↦ u.id = userId).any (·.status = .active)
  basicInfoComplete := (db.kyc.userProfiles.find? fun p ↦ p.userId = userId).any fun p ↦
    present p.firstName && present p.lastName && p.dateOfBirth.isSome && p.gender.isSome &&
      present p.occupation
  pinSet := (db.kyc.transactionPins.find? fun p ↦ p.userId = userId).isSome
  nin := stateOf ((checksOf db userId).filter fun c ↦ c.type = .nin ∨ c.type = .vnin)
  ninDocumentUploaded := (db.kyc.profiles.find? fun p ↦ p.userId = userId).any fun profile ↦
    (db.kyc.documents.find? fun d ↦ d.kycProfileId = profile.id ∧ d.type ∈ NIN_DOCUMENT_TYPES ∧
      d.supersededAt = none).isSome
  address := stateOf ((checksOf db userId).filter fun c ↦ c.type = .address)
  restricted := (db.kyc.profiles.find? fun p ↦ p.userId = userId).any fun profile ↦
    profile.status = .rejected || profile.restrictedAt.isSome

/-- `assertOrganiserVerified`. -/
def assertOrganiserVerified (db : Db) (organiserUserId : Uuid) : Except ServiceError Unit :=
  require (¬ completedLevel (readKycFacts db organiserUserId) < 3)
    (forbidden ("The admin of this group has not finished verification, so it cannot take " ++
      "members or payments yet."))

/-! ### A verified user -/

section Sample

/-- What is stored about a user, number 1, who has completed all three stages. -/
def verifiedUser : KycTables where
  userProfiles := ⟨[⟨.ofNat 2, .ofNat 1, "Ada", "Obi", some 0, some "F", some "trader"⟩], by decide⟩
  transactionPins := ⟨[⟨.ofNat 3, .ofNat 1, "", 0, none, none, 0⟩], by decide⟩
  profiles := ⟨[⟨.ofNat 4, .ofNat 1, .verified, .tier3, 3, some 0, some 0, none⟩], by decide⟩
  checks := ⟨[⟨.ofNat 5, .ofNat 4, .nin, "provider", none, .passed, "", none, none, none, [], none,
      some 0, 0⟩,
    ⟨.ofNat 6, .ofNat 4, .address, "provider", none, .passed, "", none, none, none, [], none, some 0,
      0⟩], by decide⟩
  documents := ⟨[⟨.ofNat 7, .ofNat 4, "NIN_SLIP", none⟩], by decide⟩
  complianceReviews := .empty

end Sample

end AjoCloud.Kyc
