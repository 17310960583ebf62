import AjoCloud.Auth.Sessions
import AjoCloud.Lib.Calendar

/-!
# One-time codes

`verification-policy.ts`, and what the three flows that send codes do to their common table: how a
code is issued, and how it is redeemed.
-/

namespace AjoCloud.Auth

open Lib ServiceError Lib.Calendar

/-! ## `verification-policy.ts` -/

/-- `VERIFICATION_CODE_TTL_MS`. -/
def verificationCodeTtlMs : Int := 10 * 60 * 1000

/-- `VERIFICATION_RESEND_COOLDOWN_MS`. -/
def verificationResendCooldownMs : Int := 60 * 1000

/-- `VERIFICATION_MAX_ATTEMPTS`. -/
def verificationMaxAttempts : Nat := 5

/-- `verificationCodeHash`. -/
def verificationCodeHash (config : Config) (challengeId : Uuid) (code : String) : String :=
  config.hmac (challengeId.toString ++ (":" ++ code))

/-- `verificationCodeMatches`. -/
def verificationCodeMatches (config : Config) (challengeId : Uuid) (code expectedHash : String) :
    Bool := verificationCodeHash config challengeId code = expectedHash

/-- `maskVerificationDestination`. -/
def maskVerificationDestination (value : String) : String :=
  let head := value.toList.takeWhile (· ≠ '@')
  let rest := (value.toList.drop (head.length + 1)).takeWhile (· ≠ '@')
  String.ofList (takeUnits 2 head) ++ "•••@" ++ String.ofList rest

/-- A number with zeros in front of it. -/
def padStart (width : Nat) (value : Int) : String :=
  let digits := toString value
  String.ofList (List.replicate (width - digits.length) '0') ++ digits

/-- `toISOString`, for the years from 0 to 9999. -/
def toISOString (t : Timestamp) : String :=
  let ms := timeWithinDay t
  padStart 4 (utcFullYear t) ++ "-" ++ padStart 2 (utcMonth t + 1) ++ "-" ++
    padStart 2 (utcDate t) ++ "T" ++ padStart 2 (ms / 3600000) ++ ":" ++
    padStart 2 (ms / 60000 % 60) ++ ":" ++ padStart 2 (ms / 1000 % 60) ++ "." ++
    padStart 3 (ms % 1000) ++ "Z"

/-! ## Issuing -/

/-- `newChallenge`, as it is stored for a user. -/
def newChallenge (config : Config) (now : Timestamp) (id : Uuid) (code : String)
    (purpose : VerificationPurpose) (destination : String) (userId : Uuid) :
    AccountVerificationChallenge where
  id := id
  userId := userId
  channel := .email
  purpose := purpose
  codeHash := verificationCodeHash config id code
  destinationMasked := maskVerificationDestination destination
  expiresAt := now + verificationCodeTtlMs
  resendAvailableAt := now + verificationResendCooldownMs
  attemptCount := 0
  maxAttempts := verificationMaxAttempts
  consumedAt := none
  invalidatedAt := none
  createdAt := now

/-- Neither redeemed nor invalidated. -/
def isOpen (c : AccountVerificationChallenge) : Bool := c.consumedAt.isNone && c.invalidatedAt.isNone

/-- The `where` of `verifyEmail` and `resendVerification`; it does not ask for the purpose. -/
def openEmail (userId : Uuid) (c : AccountVerificationChallenge) : Bool :=
  c.userId = userId && c.channel = .email && isOpen c

/-- `openChallengeWhere` of the password reset, which does not ask for the channel. -/
def openReset (userId : Uuid) (c : AccountVerificationChallenge) : Bool :=
  c.userId = userId && c.purpose = .passwordReset && isOpen c

/-- `openChallengeWhere` of the sign-in by code. -/
def openLogin (userId : Uuid) (c : AccountVerificationChallenge) : Bool :=
  c.userId = userId && c.channel = .email && c.purpose = .login && isOpen c

/-- The challenge after it was invalidated. -/
def invalidate (now : Timestamp) (c : AccountVerificationChallenge) :
    AccountVerificationChallenge := { c with invalidatedAt := some now }

theorem clash_of_invalidate {now : Timestamp} {a b : AccountVerificationChallenge}
    (h : Schema.Clash (invalidate now a) b) : Schema.Clash a b := h

/-- Invalidate what `open_` picks, and store the new challenge. -/
def issue (now : Timestamp) (open_ : AccountVerificationChallenge → Bool)
    (challenge : AccountVerificationChallenge) (challenges : Table AccountVerificationChallenge) :
    Except ServiceError (Table AccountVerificationChallenge) :=
  insertRow (challenges.modify open_ (invalidate now) clash_of_invalidate) challenge

/-- The first under `orderBy: { createdAt: 'desc' }`, and of several from the same moment the one that
was stored last. -/
def newest : List AccountVerificationChallenge → Option AccountVerificationChallenge
  | [] => none
  | c :: challenges =>
      match newest challenges with
      | some best => if best.createdAt < c.createdAt then some c else some best
      | none => some c

theorem mem_of_newest {challenges : List AccountVerificationChallenge}
    {c : AccountVerificationChallenge} (h : newest challenges = some c) : c ∈ challenges := by
  induction challenges with
  | nil => cases h
  | cons x challenges ih =>
      rw [newest] at h
      split at h
      · next best hbest =>
          split at h
          · cases h
            exact List.mem_cons_self
          · exact List.mem_cons_of_mem _ (ih (hbest.trans h))
      · cases h
        exact List.mem_cons_self

theorem newest_eq_none {challenges : List AccountVerificationChallenge}
    (h : newest challenges = none) : challenges = [] := by
  cases challenges with
  | nil => rfl
  | cons c challenges =>
      rw [newest] at h
      split at h
      · split at h
        · cases h
        · cases h
      · cases h

theorem le_newest {challenges : List AccountVerificationChallenge}
    {c : AccountVerificationChallenge} (h : newest challenges = some c) :
    ∀ x ∈ challenges, x.createdAt ≤ c.createdAt := by
  induction challenges generalizing c with
  | nil => cases h
  | cons x challenges ih =>
      rw [List.forall_mem_cons]
      rw [newest] at h
      split at h
      · next best hbest =>
          split at h
          · next hlt =>
              cases h
              exact ⟨le_refl _, fun y hy ↦ (ih hbest y hy).trans hlt.le⟩
          · next hle =>
              cases h
              exact ⟨not_lt.mp hle, ih hbest⟩
      · next hnone =>
          cases h
          rw [newest_eq_none hnone]
          exact ⟨le_refl _, by simp⟩

/-- What is stored last is the newest, unless another is from a later moment. -/
theorem newest_append_singleton (challenges : List AccountVerificationChallenge)
    (c : AccountVerificationChallenge) :
    newest (challenges ++ [c]) =
      match newest challenges with
      | some best => if c.createdAt < best.createdAt then some best else some c
      | none => some c := by
  induction challenges with
  | nil => rfl
  | cons x challenges ih =>
      rw [List.cons_append, newest, ih, newest]
      cases newest challenges with
      | none => rfl
      | some best => grind

/-- Rewriting and dropping others leaves the newest where it is. -/
theorem newest_rewrite {challenges : List AccountVerificationChallenge}
    {p : AccountVerificationChallenge → Bool}
    {f : AccountVerificationChallenge → AccountVerificationChallenge}
    {c : AccountVerificationChallenge}
    (hf : ∀ x, p (f x) = true → p x = true ∧ (f x).createdAt = x.createdAt)
    (h : newest (challenges.filter p) = some c) (hc : f c = c) :
    newest ((challenges.map f).filter p) = some c := by
  induction challenges with
  | nil => cases h
  | cons x challenges ih =>
      rw [List.map_cons]
      by_cases hx : p x = true
      · rw [List.filter_cons_of_pos hx, newest] at h
        split at h
        · next best hbest =>
            split at h
            · next hlt =>
                cases h
                rw [hc, List.filter_cons_of_pos hx, newest]
                split
                · next best' hbest' =>
                    obtain ⟨hmem, hpy⟩ := List.mem_filter.mp (mem_of_newest hbest')
                    obtain ⟨y, hy, rfl⟩ := List.mem_map.mp hmem
                    have hle := le_newest hbest y (List.mem_filter.mpr ⟨hy, (hf y hpy).1⟩)
                    rw [if_pos ((hf y hpy).2 ▸ hle.trans_lt hlt)]
                · rfl
            · next hle =>
                cases h
                have hrest := ih hbest
                by_cases hfx : p (f x) = true
                · rw [List.filter_cons_of_pos hfx, newest, hrest, (hf x hfx).2]
                  exact if_neg hle
                · rw [List.filter_cons_of_neg hfx]
                  exact hrest
        · next hnone =>
            cases h
            rw [hc, List.filter_cons_of_pos hx, newest]
            have hempty : (challenges.map f).filter p = [] := by
              rw [List.filter_eq_nil_iff]
              rintro _ hmem hpy
              obtain ⟨y, hy, rfl⟩ := List.mem_map.mp hmem
              exact List.filter_eq_nil_iff.mp (newest_eq_none hnone) y hy (hf y hpy).1
            rw [hempty]
            rfl
      · have hfx : ¬ p (f x) = true := fun hfx ↦ hx (hf x hfx).1
        rw [List.filter_cons_of_neg hx] at h
        rw [List.filter_cons_of_neg hfx]
        exact ih h

/-- `findFirst` of what `open_` picks. -/
def findNewest (challenges : Table AccountVerificationChallenge)
    (open_ : AccountVerificationChallenge → Bool) : Option AccountVerificationChallenge :=
  newest (challenges.findMany open_)

/-- The challenge that keeps the next one from being sent. -/
def cooling (now : Timestamp) (challenges : Table AccountVerificationChallenge)
    (open_ : AccountVerificationChallenge → Bool) : Option AccountVerificationChallenge :=
  (findNewest challenges open_).filter fun c ↦ now < c.resendAvailableAt

/-! ## Redeeming -/

/-- What presenting a code comes to. -/
inductive Redemption where
  | missing
  | already
  | expired
  | locked
  | invalid
  | accepted
deriving DecidableEq, Repr

/-- `validateChallenge`, which the other flows repeat line by line. -/
def validateChallenge (config : Config) (now : Timestamp) (challenge : AccountVerificationChallenge)
    (code : String) : Redemption :=
  if challenge.expiresAt ≤ now then .expired
  else if challenge.attemptCount ≥ challenge.maxAttempts then .locked
  else if verificationCodeMatches config challenge.id code challenge.codeHash then .accepted
  else .invalid

/-- The challenge after one more wrong code. -/
def countAttempt (now : Timestamp) (c : AccountVerificationChallenge) :
    AccountVerificationChallenge :=
  { c with
    attemptCount := c.attemptCount + 1
    invalidatedAt := if c.attemptCount + 1 ≥ c.maxAttempts then some now else c.invalidatedAt }

theorem clash_of_countAttempt {now : Timestamp} {a b : AccountVerificationChallenge}
    (h : Schema.Clash (countAttempt now a) b) : Schema.Clash a b := h

/-- The challenge after its code was redeemed. -/
def consumeChallenge (now : Timestamp) (c : AccountVerificationChallenge) :
    AccountVerificationChallenge := { c with consumedAt := some now }

theorem clash_of_consumeChallenge {now : Timestamp} {a b : AccountVerificationChallenge}
    (h : Schema.Clash (consumeChallenge now a) b) : Schema.Clash a b := h

/-- Check the code against the challenge, and write down the outcome. -/
def redeem (config : Config) (now : Timestamp) (challenge : AccountVerificationChallenge)
    (code : String) (challenges : Table AccountVerificationChallenge) :
    Redemption × Table AccountVerificationChallenge :=
  match validateChallenge config now challenge code with
  | .accepted =>
      (.accepted, challenges.modify (fun c ↦ c.id = challenge.id) (consumeChallenge now)
        clash_of_consumeChallenge)
  | .invalid =>
      (.invalid, challenges.modify (fun c ↦ c.id = challenge.id) (countAttempt now)
        clash_of_countAttempt)
  | other => (other, challenges)

/-- The challenge that `completeReset` or `verifyCode` look up: it must be of their purpose and
open. -/
def challengeFor (purpose : VerificationPurpose) (challengeId : Uuid)
    (challenges : Table AccountVerificationChallenge) : Option AccountVerificationChallenge :=
  (challenges.find? fun c ↦ c.id = challengeId).filter fun c ↦ c.purpose = purpose && isOpen c

end AjoCloud.Auth
