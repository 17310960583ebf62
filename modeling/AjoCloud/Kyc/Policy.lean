import AjoCloud.Kyc.Facts

/-!
# The rules of verification

`identity-verification-policy.ts`, `identity-redaction.ts`, `address-match.ts`,
`identity-document.ts`, `kyc-review-policy.ts` and the tiers of `kyc-stage-policy.ts`.
-/

namespace AjoCloud.Kyc

open Lib

/-- What the rules take from outside: the canonical decomposition of a text, and the digest of an
account number under the deployment's secret. -/
structure Host where
  normalizeNFD : String → String
  accountNumberDigest : String → String

/-! ## `identity-verification-policy.ts` -/

/-- `IdentityKind`. -/
inductive IdentityKind where
  | bvn
  | nin
  | vnin
deriving DecidableEq, Repr

/-- The type under which a check of this kind is stored. -/
def IdentityKind.type : IdentityKind → VerificationType
  | .bvn => .bvn
  | .nin => .nin
  | .vnin => .vnin

/-- The name of the kind. -/
def IdentityKind.text : IdentityKind → String
  | .bvn => "BVN"
  | .nin => "NIN"
  | .vnin => "VNIN"

def IDENTITY_MAX_FAILED_ATTEMPTS : Nat := 5
def IDENTITY_ATTEMPT_WINDOW_MS : Int := 24 * 60 * 60 * 1000

/-- `value.replace(/\s/g, '')`. -/
def withoutSpaces (value : String) : String := String.ofList (value.toList.filter (!isSpace ·))

/-- `normalizeIdentityNumber`. -/
def normalizeIdentityNumber (value : String) : String :=
  String.ofList (value.toList.filter fun c ↦ !(isSpace c || c = '-'))

/-- The text has `n` characters, all of which satisfy `p`. -/
def hasShape (n : Nat) (p : Char → Bool) (text : String) : Bool :=
  text.toList.length = n && text.toList.all p

/-- `isValidIdentityNumber`. -/
def isValidIdentityNumber (kind : IdentityKind) (value : String) : Bool :=
  match kind with
  | .bvn => hasShape 11 Char.isDigit (normalizeIdentityNumber value)
  | .nin => hasShape 11 Char.isDigit (normalizeIdentityNumber value)
  | .vnin => hasShape 16 Char.isAlphanum (normalizeIdentityNumber value)

/-- `isValidAccountNumber`. -/
def isValidAccountNumber (value : String) : Bool := hasShape 10 Char.isDigit (withoutSpaces value)

/-- `hasExhaustedAttempts`. -/
def hasExhaustedAttempts (failedAttemptTimes : List Timestamp) (now : Timestamp) : Bool :=
  IDENTITY_MAX_FAILED_ATTEMPTS ≤
    (failedAttemptTimes.filter (now - IDENTITY_ATTEMPT_WINDOW_MS ≤ ·)).length

/-- The letters of a text without their marks, in lower case. -/
def foldMarks (host : Host) (value : String) : List Char :=
  ((host.normalizeNFD value).toList.filter fun c ↦
    !(0x300 ≤ c.toNat && c.toNat ≤ 0x36F)).map Char.toLower

/-- `nameTokens`. -/
def nameTokens (host : Host) (value : String) : List String :=
  (((foldMarks host value).splitOnP fun c ↦ !c.isLower).map String.ofList).filter
    fun token ↦ 1 < token.length

/-- `namesMatch`. -/
def namesMatch (host : Host) (providerName profileName : String) : Bool :=
  let a := nameTokens host providerName
  let b := nameTokens host profileName
  if a.length = 0 ∨ b.length = 0 then false
  else min 2 (min a.length b.length) ≤ (a.filter (b.contains ·)).length

/-! ## `identity-redaction.ts` -/

/-- `maskIdentityValue`. -/
def maskIdentityValue (value : String) : String :=
  let normalized := (withoutSpaces value).toList
  if normalized.length ≤ 4 then String.ofList (List.replicate normalized.length '*')
  else String.ofList (List.replicate (normalized.length - 4) '*' ++
    normalized.drop (normalized.length - 4))

/-! ## `address-match.ts` -/

/-- `ABBREVIATIONS`. -/
def ABBREVIATIONS : List (String × String) :=
  [("st", "street"), ("str", "street"), ("rd", "road"), ("ave", "avenue"), ("av", "avenue"),
    ("cl", "close"), ("cres", "crescent"), ("cresc", "crescent"), ("est", "estate"),
    ("ext", "extension"), ("off", "off"), ("opp", "opposite"), ("hse", "house"), ("blk", "block"),
    ("apt", "apartment"), ("dr", "drive"), ("ln", "lane"), ("wy", "way")]

/-- `NOISE`. -/
def NOISE : List String :=
  ["no", "number", "the", "of", "and", "by", "at", "along", "beside", "near"]

/-- `tokens`. -/
def tokens (host : Host) (value : Option String) : List String :=
  match value.filter (· ≠ "") with
  | none => []
  | some text =>
      (((foldMarks host text).splitOnP fun c ↦ !(c.isLower || c.isDigit)).map fun token ↦
        (ABBREVIATIONS.lookup (String.ofList token)).getD (String.ofList token)).filter
          fun token ↦ 0 < token.length && !NOISE.contains token

/-- The token has a digit in it. -/
def hasDigit (token : String) : Bool := token.toList.any Char.isDigit

/-- `numbers`. -/
def numbers (host : Host) (value : String) : List String := (tokens host (some value)).filter hasDigit

/-- `normaliseState`. -/
def normaliseState (host : Host) (value : Option String) : String :=
  let joined := " ".intercalate ((tokens host value).filter (· ≠ "state"))
  if joined = "fct" ∨ joined = "federal capital territory" ∨ joined = "abuja" then "fct" else joined

/-- Why two addresses do not match. -/
inductive AddressMismatch where
  | state
  | houseNumber
  | street
deriving DecidableEq, Repr

/-- `compareAddresses`: nothing when the addresses match.  Three fifths of the words on the record
have to be there. -/
def compareAddresses (host : Host) (submitted registered : PostalAddress) : Option AddressMismatch :=
  let registeredState := normaliseState host registered.state
  let typedNumbers := numbers host submitted.line
  let typed := tokens host (some submitted.line) ++ tokens host submitted.city ++
    tokens host submitted.lga
  let expected := (tokens host (some registered.line)).dedup.filter (!hasDigit ·)
  let shared := expected.filter (typed.contains ·)
  if registeredState ≠ "" ∧ normaliseState host submitted.state ≠ registeredState then some .state
  else if (numbers host registered.line).any (!typedNumbers.contains ·) then some .houseNumber
  else if 0 < expected.length ∧ shared.length * 5 < expected.length * 3 then some .street
  else none

/-- `isComparable`. -/
def isComparable (host : Host) (address : PostalAddress) : Bool :=
  0 < (tokens host (some address.line)).length

/-! ## `identity-document.ts` -/

def MAX_DOCUMENT_BYTES : Nat := 1536 * 1024

/-- `SIGNATURES`. -/
def SIGNATURES : List (String × List UInt8) :=
  [("image/jpeg", [0xff, 0xd8, 0xff]),
    ("image/png", [0x89, 0x50, 0x4e, 0x47, 0x0d, 0x0a, 0x1a, 0x0a]),
    ("application/pdf", [0x25, 0x50, 0x44, 0x46])]

/-- `DocumentProblem`. -/
inductive DocumentProblem where
  | empty
  | tooLarge
  | unsupportedType
  | typeMismatch
deriving DecidableEq, Repr

/-- The six bits of a character, in either alphabet. -/
def sixBits (c : Char) : Option Nat :=
  if c.isUpper then some (c.toNat - 65)
  else if c.isLower then some (c.toNat - 71)
  else if c.isDigit then some (c.toNat + 4)
  else if c = '+' ∨ c = '-' then some 62
  else if c = '/' ∨ c = '_' then some 63
  else none

/-- The bytes of groups of six bits. -/
def bytesOf : List Nat → List UInt8
  | a :: b :: c :: d :: rest =>
      .ofNat (a * 4 + b / 16) :: .ofNat (b * 16 + c / 4) :: .ofNat (c * 64 + d) :: bytesOf rest
  | [a, b, c] => [.ofNat (a * 4 + b / 16), .ofNat (b * 16 + c / 4)]
  | [a, b] => [.ofNat (a * 4 + b / 16)]
  | _ => []

/-- `Buffer.from(text, 'base64')`, for the texts that the validation of the request lets through. -/
def fromBase64 (text : List Char) : List UInt8 :=
  bytesOf ((text.takeWhile (· ≠ '=')).filterMap sixBits)

/-- `base64.replace(/^data:[^;]+;base64,/, '')`. -/
def withoutDataUrl (text : List Char) : List Char :=
  let kind := (text.drop 5).takeWhile (· ≠ ';')
  if "data:".toList.isPrefixOf text && !kind.isEmpty &&
      ";base64,".toList.isPrefixOf (text.drop (5 + kind.length)) then
    text.drop (5 + kind.length + 8)
  else text

/-- `inspectDocument`. -/
def inspectDocument (base64 declaredType : String) : Except DocumentProblem (List UInt8) :=
  let bytes := fromBase64 (withoutDataUrl base64.toList)
  if bytes.length = 0 then .error .empty
  else if MAX_DOCUMENT_BYTES < bytes.length then .error .tooLarge
  else match SIGNATURES.find? fun signature ↦ signature.2.isPrefixOf bytes with
    | none => .error .unsupportedType
    | some detected => if detected.1 ≠ declaredType then .error .typeMismatch else .ok bytes

/-! ## `kyc-review-policy.ts` -/

/-- `KycReviewDecision`. -/
inductive KycReviewDecision where
  | approve
  | reject
  | requestInformation
  | escalate
deriving DecidableEq, Repr

/-- Which profile states a compliance officer may act on. -/
def isReviewable (status : KycStatus) : Bool :=
  status = .pending || status = .requiresReview || status = .expired

/-- The profile status each decision moves the applicant to. -/
def statusAfterDecision : KycReviewDecision → KycStatus
  | .approve => .verified
  | .reject => .rejected
  | .requestInformation => .requiresReview
  | .escalate => .requiresReview

/-- How the decision is recorded. -/
def reviewStatusForDecision : KycReviewDecision → ComplianceReviewStatus
  | .approve => .approved
  | .reject => .rejected
  | .escalate => .escalated
  | .requestInformation => .closed

/-- `canGrantTier`. -/
def canGrantTier (tier : KycTier) (checkTypes : List VerificationType) (hasNinDocument : Bool) :
    Bool :=
  let stage2 := (checkTypes.contains .nin || checkTypes.contains .vnin) && hasNinDocument
  match tier with
  | .tier1 => true
  | .tier2 => stage2
  | .tier3 => stage2 && checkTypes.contains .address

/-- Checks an approval of a tier passes, if they are held for review. -/
def checkTypesApprovedBy : KycTier → List VerificationType
  | .tier1 => []
  | .tier2 => [.nin, .vnin]
  | .tier3 => [.nin, .vnin, .address]

/-- The stored tier that mirrors a level. -/
def tierForLevel (level : Nat) : KycTier :=
  if level = 3 then .tier3 else if level = 2 then .tier2 else .tier1

/-- The names that errors give the states and the tiers. -/
def kycStatusText : KycStatus → String
  | .notStarted => "NOT_STARTED"
  | .pending => "PENDING"
  | .verified => "VERIFIED"
  | .rejected => "REJECTED"
  | .requiresReview => "REQUIRES_REVIEW"
  | .expired => "EXPIRED"
def kycTierText : KycTier → String
  | .tier1 => "TIER_1"
  | .tier2 => "TIER_2"
  | .tier3 => "TIER_3"

end AjoCloud.Kyc
