import AjoCloud.Kyc.Service
import AjoCloud.Lib.Run

/-!
# Compliance review

`KycReviewService`, and the requests of users and reviewers one after the other.
-/

namespace AjoCloud.Kyc

open Lib ServiceError

/-! ## `decide` -/

/-- What an approval writes on a check that was held. -/
def passCheck (reviewerId : Uuid) (now : Timestamp) (check : KycCheck) : KycCheck :=
  { check with status := .passed, reviewerUserId := some reviewerId, checkedAt := some now }

/-- What a rejection or a request for information writes on a check that was held. -/
def failCheck (reviewerId : Uuid) (now : Timestamp) (reason : String) (check : KycCheck) : KycCheck :=
  { check with
    status := .failed
    reviewerUserId := some reviewerId
    checkedAt := some now
    failureReason := some reason }

/-- The checks of a profile that passed or are held. -/
def openChecks (db : Db) (kycProfileId : Uuid) : List KycCheck :=
  db.kyc.checks.findMany fun c ↦ c.kycProfileId = kycProfileId &&
    (c.status = .passed || c.status = .pending)

/-- The checks of a profile that are held. -/
def heldChecks (db : Db) (kycProfileId : Uuid) : List KycCheck :=
  (openChecks db kycProfileId).filter (·.status = .pending)

/-- `updateMany` of the checks with the identifiers of some. -/
def rewriteChecks (db : Db) (checks : List KycCheck) (write : KycCheck → KycCheck)
    (keep : ∀ {a b}, Schema.Clash (write a) b → Schema.Clash a b) : Table KycCheck :=
  db.kyc.checks.modify (fun c ↦ (checks.map (·.id)).contains c.id) write keep

/-- The profile has a NIN document that was not superseded. -/
def hasNinDocument (db : Db) (kycProfileId : Uuid) : Bool :=
  (db.kyc.documents.find? fun d ↦ d.kycProfileId = kycProfileId ∧ d.type ∈ NIN_DOCUMENT_TYPES ∧
    d.supersededAt = none).isSome

/-- The checks after a decision. -/
def checksAfterDecision (ctx : Ctx) (db : Db) (reviewerId kycProfileId : Uuid)
    (decision : KycReviewDecision) (tier : KycTier) : Except ServiceError (Table KycCheck) :=
  let held := heldChecks db kycProfileId
  match decision with
  | .approve => do
      require (canGrantTier tier ((openChecks db kycProfileId).map (·.type))
          (hasNinDocument db kycProfileId))
        (unprocessable ("Tier " ++ (kycTierText tier ++
          " requires verification evidence the profile does not have")))
      pure (rewriteChecks db (held.filter fun c ↦ (checkTypesApprovedBy tier).contains c.type)
        (passCheck reviewerId ctx.now) fun h ↦ h)
  | .reject => pure (rewriteChecks db held
      (failCheck reviewerId ctx.now "REJECTED_BY_REVIEW") fun h ↦ h)
  | .requestInformation => pure (rewriteChecks db held
      (failCheck reviewerId ctx.now "INFORMATION_REQUESTED") fun h ↦ h)
  | .escalate => pure db.kyc.checks

/-- What a decision makes of a check. -/
def decideCheck (ctx : Ctx) (reviewerId kycProfileId : Uuid) (decision : KycReviewDecision)
    (tier : KycTier) (check : KycCheck) : KycCheck :=
  if check.kycProfileId = kycProfileId ∧ check.status = .pending then
    match decision with
    | .approve =>
        if (checkTypesApprovedBy tier).contains check.type then passCheck reviewerId ctx.now check
        else check
    | .reject => failCheck reviewerId ctx.now "REJECTED_BY_REVIEW" check
    | .requestInformation => failCheck reviewerId ctx.now "INFORMATION_REQUESTED" check
    | .escalate => check
  else check

theorem mem_heldChecks {db : Db} {kycProfileId : Uuid} {check : KycCheck} :
    check ∈ heldChecks db kycProfileId ↔
      check ∈ db.kyc.checks.rows ∧ check.kycProfileId = kycProfileId ∧ check.status = .pending := by
  simp only [heldChecks, openChecks, List.mem_filter, Table.mem_findMany, Bool.and_eq_true,
    Bool.or_eq_true, decide_eq_true_eq]
  constructor
  · rintro ⟨⟨hmem, hof, -⟩, hpending⟩
    exact ⟨hmem, hof, hpending⟩
  · rintro ⟨hmem, hof, hpending⟩
    exact ⟨⟨hmem, hof, .inr hpending⟩, hpending⟩

/-- Checks are named by their identifiers, which are unique. -/
theorem rows_rewriteChecks {db : Db} {checks : List KycCheck} {write : KycCheck → KycCheck}
    {keep : ∀ {a b}, Schema.Clash (write a) b → Schema.Clash a b} {f : KycCheck → KycCheck}
    (hstored : ∀ c ∈ checks, c ∈ db.kyc.checks.rows)
    (hwrite : ∀ c ∈ db.kyc.checks.rows, c ∈ checks → f c = write c)
    (hsame : ∀ c ∈ db.kyc.checks.rows, c ∉ checks → f c = c) :
    (rewriteChecks db checks write keep).rows = db.kyc.checks.rows.map f := by
  refine List.map_congr_left fun c hc ↦ ?_
  have hmem : (checks.map (·.id)).contains c.id = true ↔ c ∈ checks := by
    rw [List.contains_iff_mem, List.mem_map]
    constructor
    · rintro ⟨x, hx, hid⟩
      exact db.kyc.checks.eq_of_clash (hstored x hx) hc (.inl hid) ▸ hx
    · exact fun hin ↦ ⟨c, hin, rfl⟩
  by_cases hin : c ∈ checks
  · rw [if_pos (hmem.mpr hin), hwrite c hc hin]
  · rw [if_neg (hin ∘ hmem.mp), hsame c hc hin]

/-- A decision is made on each check by itself. -/
theorem rows_checksAfterDecision {ctx : Ctx} {db : Db} {reviewerId kycProfileId : Uuid}
    {decision : KycReviewDecision} {tier : KycTier} {checks : Table KycCheck}
    (h : checksAfterDecision ctx db reviewerId kycProfileId decision tier = .ok checks) :
    checks.rows = db.kyc.checks.rows.map (decideCheck ctx reviewerId kycProfileId decision tier) := by
  have hstored : ∀ c ∈ heldChecks db kycProfileId, c ∈ db.kyc.checks.rows :=
    fun c hc ↦ (mem_heldChecks.mp hc).1
  have hheld : ∀ c ∈ db.kyc.checks.rows, c ∈ heldChecks db kycProfileId ↔
      c.kycProfileId = kycProfileId ∧ c.status = .pending :=
    fun c hc ↦ mem_heldChecks.trans (and_iff_right hc)
  cases decision with
  | approve =>
      simp only [checksAfterDecision, bind_eq_ok, require_eq_ok, exists_const, pure_eq_ok] at h
      obtain ⟨-, rfl⟩ := h
      refine rows_rewriteChecks (fun c hc ↦ hstored c (List.mem_filter.mp hc).1)
        (fun c hc hin ↦ ?_) fun c hc hout ↦ ?_
      · obtain ⟨hin, htype⟩ := List.mem_filter.mp hin
        rw [decideCheck, if_pos ((hheld c hc).mp hin)]
        exact if_pos htype
      · rw [decideCheck]
        split
        · next hin => exact if_neg fun htype ↦ hout (List.mem_filter.mpr ⟨(hheld c hc).mpr hin, htype⟩)
        · rfl
  | reject | requestInformation =>
      simp only [checksAfterDecision, pure_eq_ok] at h
      subst h
      refine rows_rewriteChecks hstored (fun c hc hin ↦ ?_) fun c hc hout ↦ ?_
      · rw [decideCheck, if_pos ((hheld c hc).mp hin)]
      · rw [decideCheck, if_neg (hout ∘ (hheld c hc).mpr)]
  | escalate =>
      simp only [checksAfterDecision, pure_eq_ok] at h
      subst h
      have hsame : decideCheck ctx reviewerId kycProfileId .escalate tier = id := by
        funext c
        simp only [decideCheck, ite_self, id]
      rw [hsame, List.map_id]

/-- What a decision writes on the profile, for the level that the evidence supports after it. -/
def decideProfile (now : Timestamp) (decision : KycReviewDecision) (level : Nat)
    (profile : KycProfile) : KycProfile :=
  { profile with
    status := statusAfterDecision decision
    tier := tierForLevel level
    level := level
    verifiedAt := if decision = .approve then some now else profile.verifiedAt
    restrictedAt := if decision = .reject then some now else profile.restrictedAt }

/-- The review that was open is closed with the decision, or the decision is recorded. -/
def recordReview (ctx : Ctx) (reviews : Table ComplianceReview) (reviewerId kycProfileId : Uuid)
    (decision : KycReviewDecision) (reason : String) :
    Except ServiceError (Table ComplianceReview) :=
  match ((reviews.findMany fun r ↦ r.kycProfileId = kycProfileId && r.status = .open).insertionSort
      fun a b ↦ b.createdAt ≤ a.createdAt).head? with
  | some review => updateRow reviews (fun r ↦ r.id = review.id) fun r ↦
      { r with
        reviewerId := some reviewerId
        status := reviewStatusForDecision decision
        reason := some reason
        decidedAt := some ctx.now }
  | none => insertRow reviews ⟨ctx.uuid 0, kycProfileId, some reviewerId,
      reviewStatusForDecision decision, some reason, some ctx.now, ctx.now⟩

/-- `decide`. -/
def decideReview (ctx : Ctx) (db : Db) (reviewerId kycProfileId : Uuid) (decision : KycReviewDecision)
    (reason : String) (grantedTier : Option KycTier) : Except ServiceError (KycProfile × Db) := do
  let profile ← orThrow (db.kyc.profiles.find? fun p ↦ p.id = kycProfileId)
    (notFound "KYC profile was not found")
  require (isReviewable profile.status) (conflict ("A profile with status " ++
    (kycStatusText profile.status ++ " cannot be reviewed")))
  let checks ← checksAfterDecision ctx db reviewerId kycProfileId decision
    (grantedTier.getD profile.tier)
  let facts := readKycFacts { db with kyc := { db.kyc with checks := checks } } profile.userId
  let level := completedLevel { facts with
    restricted := facts.restricted || decision = .reject }
  let profiles ← updateRow db.kyc.profiles (fun p ↦ p.id = kycProfileId)
    (decideProfile ctx.now decision level)
  let reviews ← recordReview ctx db.kyc.complianceReviews reviewerId kycProfileId decision reason
  pure (decideProfile ctx.now decision level profile,
    { db with kyc := { db.kyc with
      checks := checks, profiles := profiles, complianceReviews := reviews } })

/-- A decision is made on a profile that is open to review, and its level is computed after it. -/
theorem decideReview_eq_ok {ctx : Ctx} {db db' : Db} {reviewerId kycProfileId : Uuid}
    {decision : KycReviewDecision} {reason : String} {tier : Option KycTier} {profile : KycProfile}
    (h : decideReview ctx db reviewerId kycProfileId decision reason tier = .ok (profile, db')) :
    ∃ p checks profiles reviews, db.kyc.profiles.find? (fun p ↦ p.id = kycProfileId) = some p ∧
      isReviewable p.status = true ∧
      checksAfterDecision ctx db reviewerId kycProfileId decision (tier.getD p.tier) = .ok checks ∧
      updateRow db.kyc.profiles (fun p ↦ p.id = kycProfileId) (decideProfile ctx.now decision
        (completedLevel { readKycFacts { db with kyc := { db.kyc with checks := checks } } p.userId with
          restricted := (readKycFacts { db with kyc := { db.kyc with checks := checks } }
            p.userId).restricted || decision = .reject })) = .ok profiles ∧
      recordReview ctx db.kyc.complianceReviews reviewerId kycProfileId decision reason = .ok reviews ∧
      db' = { db with kyc := { db.kyc with
        checks := checks, profiles := profiles, complianceReviews := reviews } } := by
  simp only [decideReview, bind_eq_ok, orThrow_eq_ok, require_eq_ok, pure_eq_ok, exists_const,
    Prod.mk.injEq] at h
  obtain ⟨p, hfind, hreviewable, checks, hchecks, profiles, hupdate, reviews, hreviews, -, rfl⟩ := h
  exact ⟨p, checks, profiles, reviews, hfind, hreviewable, hchecks, hupdate, hreviews, rfl⟩

/-- `approve`. -/
def approve (ctx : Ctx) (db : Db) (reviewerId kycProfileId : Uuid) (tier : Option KycTier)
    (reason : Option String) : Except ServiceError (KycProfile × Db) :=
  decideReview ctx db reviewerId kycProfileId .approve (reason.getD "Approved") tier

/-! ## Requests -/

/-- What users, reviewers and the rest of the platform ask for. -/
inductive Request where
  | verifyIdentity (provider : IdentityProvider) (userId : Uuid) (dto : VerifyIdentityDto)
  | linkBankAccount (provider : IdentityProvider) (userId : Uuid) (dto : LinkBankAccountDto)
  | uploadIdentityDocument (userId : Uuid) (dto : UploadIdentityDocumentDto)
  | verifyAddress (userId : Uuid) (dto : VerifyAddressDto)
  | sync (userId : Uuid)
  | approve (reviewerId kycProfileId : Uuid) (tier : Option KycTier) (reason : Option String)
  | reject (reviewerId kycProfileId : Uuid) (reason : String)
  | requestInformation (reviewerId kycProfileId : Uuid) (reason : String)
  | escalate (reviewerId kycProfileId : Uuid) (reason : String)
  /-- A step of the rest of the platform, to any state in which verification is as it was. -/
  | elsewhere (db' : Db)

/-- The state in which a request leaves the platform. -/
def step (host : Host) (db : Db) : Ctx × Request → Db
  | (ctx, .verifyIdentity provider userId dto) =>
      ((verifyIdentity host provider ctx userId dto).run db).2
  | (ctx, .linkBankAccount provider userId dto) =>
      ((linkBankAccount host provider ctx userId dto).run db).2
  | (ctx, .uploadIdentityDocument userId dto) => ((uploadIdentityDocument ctx userId dto).run db).2
  | (ctx, .verifyAddress userId dto) => ((verifyAddress host ctx userId dto).run db).2
  | (ctx, .sync userId) => committed db (sync ctx userId db)
  | (ctx, .approve reviewerId kycProfileId tier reason) =>
      committed db (approve ctx db reviewerId kycProfileId tier reason)
  | (ctx, .reject reviewerId kycProfileId reason) =>
      committed db (decideReview ctx db reviewerId kycProfileId .reject reason none)
  | (ctx, .requestInformation reviewerId kycProfileId reason) =>
      committed db (decideReview ctx db reviewerId kycProfileId .requestInformation reason none)
  | (ctx, .escalate reviewerId kycProfileId reason) =>
      committed db (decideReview ctx db reviewerId kycProfileId .escalate reason none)
  | (_, .elsewhere db') => db'

/-- The rest of the platform leaves profiles and checks alone. -/
def Admitted (db : Db) : Ctx × Request → Prop
  | (_, .elsewhere db') => db'.kyc.profiles = db.kyc.profiles ∧ db'.kyc.checks = db.kyc.checks
  | _ => True

end AjoCloud.Kyc
