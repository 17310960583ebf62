import AjoCloud.Kyc.Review
import AjoCloud.Kyc.Tiers

/-!
# Rejected profiles

No reviewer decides on a rejected profile, and its user completes no stage, so that a NIN or an address
is refused.  A BVN is not: the lookup marks the profile as one to review when the attempts are used up,
or when the name or the date of birth does not match.
-/

namespace AjoCloud.Kyc

open Lib ServiceError

variable {host : Host} {provider : IdentityProvider} {ctx : Ctx} {db db' : Db} {userId : Uuid}
  {p : KycProfile}

/-- The profile is there, and it is rejected. -/
def StandsRejected (p : KycProfile) (db : Db) : Prop :=
  ∃ q ∈ db.kyc.profiles.rows, q.id = p.id ∧ q.userId = p.userId ∧ q.status = .rejected

namespace StandsRejected

theorem profileOf (h : StandsRejected p db) : ∃ q, Kyc.profileOf db p.userId = some q ∧ q.id = p.id ∧
    q.status = .rejected := by
  obtain ⟨q, hq, hid, huser, hstatus⟩ := h
  exact ⟨q, profileOf_eq_some.mpr ⟨hq, huser⟩, hid, hstatus⟩

/-- No stage counts. -/
theorem completedLevel_eq_zero (h : StandsRejected p db) :
    completedLevel (readKycFacts db p.userId) = 0 := by
  obtain ⟨q, hq, -, huser, hstatus⟩ := h
  rw [← huser, completedLevel_readKycFacts hq, if_pos]
  rw [isRestricted, hstatus]
  rfl

/-- Of this user there is no other profile, and of this profile no other user. -/
theorem user_eq (h : StandsRejected p db) {q : KycProfile} (hq : q ∈ db.kyc.profiles.rows)
    (hid : q.id = p.id) : q.userId = p.userId := by
  obtain ⟨r, hr, hrid, hruser, -⟩ := h
  rw [db.kyc.profiles.eq_of_clash hq hr (.inl (hid.trans hrid.symm)), hruser]

theorem of_same (h : StandsRejected p db) (hprofiles : db'.kyc.profiles = db.kyc.profiles) :
    StandsRejected p db' := by
  rw [StandsRejected, hprofiles]
  exact h

/-- The other profiles may be rewritten at will. -/
theorem of_map (h : StandsRejected p db) {f : KycProfile → KycProfile}
    (hrows : db'.kyc.profiles.rows = db.kyc.profiles.rows.map f)
    (hf : ∀ q, (f q).id = q.id ∧ (f q).userId = q.userId)
    (hstatus : ∀ q, q.id = p.id → q.status = .rejected → (f q).status = .rejected) :
    StandsRejected p db' := by
  obtain ⟨q, hq, hid, huser, hrejected⟩ := h
  exact ⟨f q, hrows ▸ List.mem_map_of_mem hq, (hf q).1.trans hid, (hf q).2.trans huser,
    hstatus q hid hrejected⟩

theorem createProfile {profile answer : KycProfile} (h : StandsRejected p db)
    (hcreate : Kyc.createProfile profile db = .ok (answer, db')) : StandsRejected p db' := by
  obtain ⟨profiles, hinsert, -, rfl⟩ := createProfile_eq_ok hcreate
  obtain ⟨q, hq, hrest⟩ := h
  exact ⟨q, insertRow_eq_ok hinsert ▸ List.mem_append_left _ hq, hrest⟩

theorem updateProfile {id : Uuid} {write : KycProfile → KycProfile} {u : Unit}
    (h : StandsRejected p db) (hupdate : Kyc.updateProfile id write db = .ok (u, db'))
    (hwrite : ∀ q, (write q).id = q.id ∧ (write q).userId = q.userId)
    (hstatus : id = p.id → ∀ q, q.status = .rejected → (write q).status = .rejected) :
    StandsRejected p db' := by
  obtain ⟨profiles, hrow, rfl⟩ := updateProfile_eq_ok hupdate
  refine h.of_map (updateRow_eq_ok hrow) (fun q ↦ ?_) fun q hid hrejected ↦ ?_
  · split
    · exact hwrite q
    · exact ⟨rfl, rfl⟩
  · split
    · next hq => exact hstatus ((of_decide_eq_true hq).symm.trans hid) q hrejected
    · exact hrejected

theorem createCheck {check : KycCheck} {u : Unit} (h : StandsRejected p db)
    (hcreate : Kyc.createCheck check db = .ok (u, db')) : StandsRejected p db' := by
  obtain ⟨-, checks, -, rfl⟩ := createCheck_eq_ok hcreate
  exact h

/-- The profile that is there or created is another one, unless the user is the same. -/
theorem ensureKycProfile {q : KycProfile} (h : StandsRejected p db)
    (hensure : Kyc.ensureKycProfile ctx userId db = .ok (q, db')) :
    StandsRejected p db' ∧ (userId ≠ p.userId → q.id ≠ p.id) := by
  rw [Kyc.ensureKycProfile] at hensure
  split at hensure
  · next profile hfind =>
      cases hensure
      obtain ⟨hmem, rfl⟩ := profileOf_eq_some.mp hfind
      exact ⟨h, fun hne hid ↦ hne (h.user_eq hmem hid)⟩
  · have hkept := h.createProfile hensure
    obtain ⟨profiles, hinsert, rfl, rfl⟩ := createProfile_eq_ok hensure
    refine ⟨hkept, fun hne hid ↦ hne (hkept.user_eq ?_ hid)⟩
    exact insertRow_eq_ok hinsert ▸ List.mem_append_right _ (List.mem_singleton_self _)

/-- The user has a profile already. -/
theorem ensureKycProfile_self {q : KycProfile} (h : StandsRejected p db)
    (hensure : Kyc.ensureKycProfile ctx p.userId db = .ok (q, db')) : db' = db ∧ q.id = p.id := by
  obtain ⟨r, hfind, hid, -⟩ := h.profileOf
  rw [Kyc.ensureKycProfile, hfind] at hensure
  cases hensure
  exact ⟨rfl, hid⟩

/-- A sync writes the level, and a status only for a level that a rejected profile does not have. -/
theorem sync {u : Unit} (h : StandsRejected p db) (hsync : Kyc.sync ctx userId db = .ok (u, db')) :
    StandsRejected p db' := by
  obtain rfl | ⟨answer, hcreate⟩ | ⟨existing, hfind, hupdate⟩ := sync_cases hsync
  · exact h
  · exact h.createProfile hcreate
  · obtain ⟨hmem, rfl⟩ := profileOf_eq_some.mp hfind
    refine h.updateProfile hupdate (fun _ ↦ ⟨rfl, rfl⟩) fun hid q hrejected ↦ ?_
    have hlevel : completedLevel (readKycFacts db existing.userId) = 0 := by
      rw [h.user_eq hmem hid]
      exact h.completedLevel_eq_zero
    simp [syncProfile, hlevel, hrejected]

theorem storeDocument {type : String} {kycProfileId : Uuid} {document : VerificationDocument}
    (h : StandsRejected p db)
    (hstore : Kyc.storeDocument ctx kycProfileId type db = .ok (document, db')) :
    StandsRejected p db' := by
  obtain ⟨documents, profiles, -, hupdate, rfl⟩ := storeDocument_eq_ok hstore
  refine h.of_map (updateRow_eq_ok hupdate) (fun q ↦ ?_) fun q _ hrejected ↦ ?_
  · split
    · exact ⟨rfl, rfl⟩
    · exact ⟨rfl, rfl⟩
  · split
    · exact hrejected
    · exact hrejected

theorem upsertLinkedBankAccount {bankName masked digest : String} {u : Unit}
    (h : StandsRejected p db)
    (hlink : Kyc.upsertLinkedBankAccount ctx userId bankName masked digest db = .ok (u, db')) :
    StandsRejected p db' :=
  h.of_same (congrArg KycTables.profiles (kyc_upsertLinkedBankAccount hlink))

/-- A reviewer decides on other profiles only. -/
theorem decideReview {reviewerId kycProfileId : Uuid} {decision : KycReviewDecision} {reason : String}
    {tier : Option KycTier} {profile : KycProfile} (h : StandsRejected p db)
    (hdecide : Kyc.decideReview ctx db reviewerId kycProfileId decision reason tier =
      .ok (profile, db')) : StandsRejected p db' := by
  obtain ⟨q, checks, profiles, reviews, hfind, hreviewable, -, hupdate, -, rfl⟩ :=
    decideReview_eq_ok hdecide
  have hq := Table.mem_of_find? hfind
  have hqid : q.id = kycProfileId := by simpa using Table.prop_of_find? hfind
  have hne : kycProfileId ≠ p.id := by
    intro hid
    obtain ⟨r, hr, hrid, -, hrejected⟩ := h
    rw [db.kyc.profiles.eq_of_clash hq hr (.inl (hqid.trans (hid.trans hrid.symm))), hrejected]
      at hreviewable
    cases hreviewable
  refine h.of_map (updateRow_eq_ok hupdate) (fun x ↦ ?_) fun x hid hrejected ↦ ?_
  · split
    · exact ⟨rfl, rfl⟩
    · exact ⟨rfl, rfl⟩
  · split
    · next hx => exact absurd ((of_decide_eq_true hx).symm.trans hid) hne
    · exact hrejected

end StandsRejected

/-! ## Statements -/

theorem keeps_sync : (Body.call (sync ctx userId) : Statements Unit).Keeps (StandsRejected p) :=
  .call fun _ _ _ h hsync ↦ h.sync hsync

theorem keeps_createCheck (check : KycCheck) :
    (Body.call (createCheck check) : Statements Unit).Keeps (StandsRejected p) :=
  .call fun _ _ _ h hcreate ↦ h.createCheck hcreate

/-- Another profile is marked. -/
theorem keeps_updateProfile {id : Uuid} {write : KycProfile → KycProfile} (hne : id ≠ p.id)
    (hwrite : ∀ q, (write q).id = q.id ∧ (write q).userId = q.userId) :
    (Body.call (updateProfile id write) : Statements Unit).Keeps (StandsRejected p) :=
  .call fun _ _ _ h hupdate ↦ h.updateProfile hupdate hwrite fun hid ↦ absurd hid hne

theorem keeps_assertAttemptsRemain {id : Uuid} {types : List VerificationType} (hne : id ≠ p.id) :
    (assertAttemptsRemain ctx id types).Keeps (StandsRejected p) := by
  refine .bind (.read _) fun exhausted ↦ .ite (fun _ ↦ ?_) fun _ ↦ .pure ()
  exact .bind (keeps_updateProfile hne fun _ ↦ ⟨rfl, rfl⟩) fun _ ↦ .fail _

/-- What follows on the profile of the user keeps a rejection, if it does for every other profile. -/
theorem keeps_ensureKycProfile {α : Type} {next : KycProfile → Statements α}
    (hnext : ∀ q, (userId ≠ p.userId → q.id ≠ p.id) → (next q).Keeps (StandsRejected p)) :
    (Body.call (ensureKycProfile ctx userId) >>= next).Keeps (StandsRejected p) := by
  refine Triple.bind (R := fun q s ↦ StandsRejected p s ∧ (userId ≠ p.userId → q.id ≠ p.id)) ?_ ?_
  · exact Triple.call (fun _ h ↦ h) fun _ _ _ h hensure ↦ h.ensureKycProfile hensure
  · exact fun q ↦ Triple.of_fact (hnext q)

/-! ## Requests -/

theorem keeps_linkBankAccount (dto : LinkBankAccountDto) :
    (linkBankAccount host provider ctx userId dto).Keeps (StandsRejected p) := by
  refine .bind (.check _ _) fun _ ↦ .bind (.read _) fun outcome ↦ .bind (.read _) fun banks ↦
    .bind (.read _) fun accountName ↦ .bind (.read _) fun bankName ↦
      keeps_ensureKycProfile fun q _ ↦ .bind ?_ fun _ ↦ .bind (keeps_createCheck _) fun _ ↦
        .bind keeps_sync fun _ ↦ .pure _
  exact .call fun _ _ _ h hlink ↦ h.upsertLinkedBankAccount hlink

theorem keeps_uploadIdentityDocument (dto : UploadIdentityDocumentDto) :
    (uploadIdentityDocument ctx userId dto).Keeps (StandsRejected p) := by
  refine .bind (.read _) fun _ ↦ .bind (.read _) fun _ ↦ keeps_ensureKycProfile fun q _ ↦
    .bind ?_ fun document ↦ .bind keeps_sync fun _ ↦ .pure _
  exact .call fun _ _ _ h hstore ↦ h.storeDocument hstore

/-- The user of a rejected profile has not finished stage 2. -/
theorem user_ne_of_addressWanted (h : StandsRejected p db)
    (hwanted : assertAddressWanted (readKycFacts db userId) = .ok ()) : userId ≠ p.userId := by
  rintro rfl
  simp only [assertAddressWanted, h.completedLevel_eq_zero, bind_eq_ok, require_eq_ok, exists_const]
    at hwanted
  omega

theorem keeps_verifyAddress (dto : VerifyAddressDto) :
    (verifyAddress host ctx userId dto).Keeps (StandsRejected p) := by
  refine Triple.bind (R := fun _ s ↦ StandsRejected p s ∧ userId ≠ p.userId)
    (Triple.read (fun _ h ↦ h) fun _ _ h hwanted ↦ ⟨h, user_ne_of_addressWanted h hwanted⟩) fun _ ↦ ?_
  refine Triple.of_fact fun hne ↦ keeps_ensureKycProfile fun q hq ↦
    .bind (keeps_assertAttemptsRemain (hq hne)) fun _ ↦ .bind (.read _) fun ninCheck ↦
      .bind (.read _) fun _ ↦ .bind (keeps_createCheck _) fun _ ↦ ?_
  refine .ite (fun _ ↦ .bind (keeps_updateProfile (hq hne) fun _ ↦ ⟨rfl, rfl⟩) fun _ ↦ ?_) fun _ ↦ ?_
  · split
    · exact .fail _
    · exact .bind keeps_sync fun _ ↦ .pure _
  · split
    · exact .fail _
    · exact .bind keeps_sync fun _ ↦ .pure _

/-! ## A lookup of the user -/

/-- The BVN is held for a reviewer, and its check can be stored. -/
def isHeld (host : Host) (provider : IdentityProvider) (ctx : Ctx) (db : Db) (p : KycProfile)
    (dto : VerifyIdentityDto) : Bool :=
  (userProfileOf db p.userId).any fun profile ↦
    match identityOutcome provider dto profile with
    | .error _ => false
    | .ok outcome => requiresReview host outcome (legalName profile) &&
        (createCheck (identityCheck host ctx p.id dto outcome (legalName profile)) db).isOk

/-- The user of the profile asks for a BVN, and has used up the attempts or is held for a reviewer. -/
def reopens (host : Host) (p : KycProfile) (db : Db) : Ctx × Request → Bool
  | (ctx, .verifyIdentity provider userId dto) =>
      userId = p.userId && dto.kind = .bvn &&
        isValidIdentityNumber dto.kind (normalizeIdentityNumber dto.identityNumber) &&
          (attemptsExhausted db p.id [.bvn, .nin, .vnin] ctx.now || isHeld host provider ctx db p dto)
  | _ => false

/-- The user of a rejected profile has not finished stage 1. -/
theorem not_ninWanted (h : StandsRejected p db) :
    assertNinWanted (readKycFacts db p.userId) ≠ .ok () := by
  intro hwanted
  simp only [assertNinWanted, h.completedLevel_eq_zero, bind_eq_ok, require_eq_ok, exists_const]
    at hwanted
  omega

/-- The lookup of another user. -/
theorem keeps_verifyIdentity_of_ne (dto : VerifyIdentityDto) (hne : userId ≠ p.userId) :
    (verifyIdentity host provider ctx userId dto).Keeps (StandsRejected p) := by
  refine .bind (.check _ _) fun _ ↦ .bind (.read _) fun _ ↦ keeps_ensureKycProfile fun q hq ↦
    .bind (keeps_assertAttemptsRemain (hq hne)) fun _ ↦ .bind (.read _) fun profile ↦
      .bind (.read _) fun outcome ↦ .bind (keeps_createCheck _) fun _ ↦ ?_
  refine .ite (fun _ ↦ .bind ?_ fun _ ↦ ?_) fun _ ↦ ?_
  · exact keeps_updateProfile (hq hne) fun _ ↦ ⟨rfl, rfl⟩
  · exact .bind (.check _ _) fun _ ↦ .bind keeps_sync fun _ ↦ .pure _
  · exact .bind (.check _ _) fun _ ↦ .bind keeps_sync fun _ ↦ .pure _

/-- The lookup of the user, which neither uses up the attempts nor is held. -/
theorem stands_verifyIdentity (dto : VerifyIdentityDto) (h : StandsRejected p db)
    (hreopens : reopens host p db (ctx, .verifyIdentity provider p.userId dto) = false) :
    Triple (· = db) (verifyIdentity host provider ctx p.userId dto) (fun _ ↦ StandsRejected p)
      (StandsRejected p) := by
  have hkept : ∀ s, s = db → StandsRejected p s := fun s hs ↦ hs ▸ h
  refine Triple.bind (R := fun _ s ↦ s = db ∧ isValidIdentityNumber dto.kind
    (normalizeIdentityNumber dto.identityNumber) = true)
      (Triple.check hkept fun _ hs hvalid ↦ ⟨hs, hvalid⟩) fun _ ↦ ?_
  refine Triple.of_fact fun hvalid ↦ ?_
  refine Triple.bind (R := fun _ s ↦ s = db ∧ dto.kind = .bvn)
    (Triple.read hkept fun s _ hs hwanted ↦ ⟨hs, ?_⟩) fun _ ↦ ?_
  · by_contra hkind
    rw [if_pos hkind, hs] at hwanted
    exact not_ninWanted h hwanted
  refine Triple.of_fact fun hkind ↦ ?_
  have hclosed : attemptsExhausted db p.id [.bvn, .nin, .vnin] ctx.now = false ∧
      isHeld host provider ctx db p dto = false := by
    simpa [reopens, hkind, hkind ▸ hvalid] using hreopens
  refine Triple.bind (R := fun q s ↦ s = db ∧ q.id = p.id)
    (Triple.call hkept fun s q s' hs hensure ↦ ?_) fun q ↦ ?_
  · subst hs
    exact h.ensureKycProfile_self hensure
  refine Triple.of_fact fun hid ↦ ?_
  refine Triple.bind (R := fun _ s ↦ s = db) ?_ fun _ ↦ ?_
  · refine Triple.bind (R := fun exhausted s ↦ s = db ∧ exhausted = false)
      (Triple.read hkept fun s exhausted hs hread ↦ ⟨hs, ?_⟩) fun exhausted ↦ ?_
    · cases hread
      rw [hs, hid]
      exact hclosed.1
    · refine Triple.of_fact fun hexhausted ↦ ?_
      rw [hexhausted]
      exact Triple.pure fun _ hs ↦ hs
  refine Triple.bind (R := fun profile s ↦ s = db ∧ userProfileOf db p.userId = some profile)
    (Triple.read hkept fun s profile hs hread ↦ ⟨hs, hs ▸ orThrow_eq_ok.mp hread⟩) fun profile ↦ ?_
  refine Triple.of_fact fun hprofile ↦ ?_
  refine Triple.bind (R := fun outcome s ↦ s = db ∧ identityOutcome provider dto profile = .ok outcome)
    (Triple.read hkept fun s outcome hs hread ↦ ⟨hs, hread⟩) fun outcome ↦ ?_
  refine Triple.of_fact fun houtcome ↦ ?_
  -- A check that is held for a reviewer is not stored.
  refine Triple.bind (R := fun _ s ↦ StandsRejected p s ∧
      requiresReview host outcome (legalName profile) = false)
    (Triple.call hkept fun s _ s' hs hcreate ↦ ⟨(hkept s hs).createCheck hcreate, ?_⟩) fun _ ↦ ?_
  · have hheld := hclosed.2
    rw [isHeld, hprofile, Option.any_some, houtcome] at hheld
    rw [hs, hid] at hcreate
    simpa [hcreate, Except.isOk, Except.toBool] using hheld
  refine Triple.of_fact fun hpasses ↦ ?_
  rw [if_neg (Bool.eq_false_iff.mp hpasses)]
  exact Body.Keeps.bind (.check _ _) fun _ ↦ .bind keeps_sync fun _ ↦ .pure _

/-! ## Runs -/

theorem StandsRejected.committed {α : Type} {result : Except ServiceError (α × Db)}
    (h : StandsRejected p db) (hkept : ∀ a db', result = .ok (a, db') → StandsRejected p db') :
    StandsRejected p (AjoCloud.committed db result) := by
  cases result with
  | error e => exact h
  | ok answer => exact hkept answer.1 answer.2 rfl

/-- Every request but a lookup that reopens the profile leaves it rejected. -/
theorem StandsRejected.step {request : Ctx × Request} (h : StandsRejected p db)
    (hadmitted : Admitted db request) (hreopens : reopens host p db request = false) :
    StandsRejected p (Kyc.step host db request) := by
  obtain ⟨ctx, request⟩ := request
  cases request with
  | verifyIdentity provider userId dto =>
      by_cases huser : userId = p.userId
      · subst huser
        exact (stands_verifyIdentity dto h hreopens).holds rfl
      · exact (keeps_verifyIdentity_of_ne dto huser).holds h
  | linkBankAccount provider userId dto => exact (keeps_linkBankAccount dto).holds h
  | uploadIdentityDocument userId dto => exact (keeps_uploadIdentityDocument dto).holds h
  | verifyAddress userId dto => exact (keeps_verifyAddress dto).holds h
  | sync userId => exact h.committed fun _ _ hsync ↦ h.sync hsync
  | approve reviewerId kycProfileId tier reason =>
      exact h.committed fun _ _ hdecide ↦ h.decideReview hdecide
  | reject reviewerId kycProfileId reason | requestInformation reviewerId kycProfileId reason
  | escalate reviewerId kycProfileId reason =>
      exact h.committed fun _ _ hdecide ↦ h.decideReview hdecide
  | elsewhere db' => exact h.of_same hadmitted.1

/-- **A rejection is final** as long as its user's BVN lookups neither use up the attempts nor are held
for a reviewer: the profile stays rejected, and nobody can decide on it again. -/
theorem rejection_final {start : Db} (hp : p ∈ start.kyc.profiles.rows) (hrejected : p.status = .rejected)
    (hrun : Reaches (step host) (fun s r ↦ Admitted s r ∧ reopens host p s r = false) start db) :
    (∃ q ∈ db.kyc.profiles.rows, q.id = p.id ∧ q.status = .rejected) ∧
      ∀ ctx reviewerId decision reason tier,
        ∃ e, decideReview ctx db reviewerId p.id decision reason tier = .error e := by
  have hstands : StandsRejected p db :=
    hrun.invariant ⟨p, hp, rfl, rfl, hrejected⟩ fun s r hs hok ↦ hs.step hok.1 hok.2
  obtain ⟨q, hq, hid, -, hstatus⟩ := hstands
  refine ⟨⟨q, hq, hid, hstatus⟩, fun ctx reviewerId decision reason tier ↦ ?_⟩
  cases hdecide : decideReview ctx db reviewerId p.id decision reason tier with
  | error e => exact ⟨e, rfl⟩
  | ok answer =>
      obtain ⟨r, -, -, -, hfind, hreviewable, -⟩ := decideReview_eq_ok hdecide
      have hr := Table.mem_of_find? hfind
      have hrid : r.id = p.id := by simpa using Table.prop_of_find? hfind
      rw [db.kyc.profiles.eq_of_clash hr hq (.inl (hrid.trans hid.symm)), hstatus] at hreviewable
      cases hreviewable

/-! ### A rejected applicant -/

section Sample

/-- User number 1, and what is stored of the verification. -/
def sampleUsers (kyc : KycTables) : Db := (samplePlatform kyc).shared.db

/-- The profile of the applicant at the second stage. -/
def sampleProfile : KycProfile := ⟨.ofNat 4, .ofNat 1, .pending, .tier2, 2, some 0, none, none⟩

/-- The call number `n`. -/
def sampleCall (n : Nat) (request : Request) : Ctx × Request :=
  (⟨1000 * n, fun k ↦ .ofNat (1000 + 10 * n + k)⟩, request)

/-- A BVN, which the provider knows as that of the name. -/
def sampleBvn (name : String) : Request :=
  .verifyIdentity (sampleProvider true name) (.ofNat 1) ⟨.bvn, "22211133344"⟩

/-- The applicant is rejected. -/
def sampleRejected : Db :=
  step sampleHost (sampleUsers secondStage)
    (sampleCall 1 (.reject (.ofNat 9) (.ofNat 4) "Not this person"))

/-- The rejected profile. -/
def sampleRejectedProfile : KycProfile :=
  { sampleProfile with status := .rejected, tier := .tier1, level := 0, restrictedAt := some 1000 }

/-- The applicant tries everything. -/
def sampleAppeals : List (Ctx × Request) :=
  [sampleCall 2 (sampleBvn "Ada Obi"),
    sampleCall 3 (.verifyIdentity (sampleProvider true "Ada Obi") (.ofNat 1) ⟨.nin, "12345678901"⟩),
    sampleCall 4 (.verifyAddress (.ofNat 1) ⟨"12 Allen Avenue", "Ikeja", none, "Lagos"⟩),
    sampleCall 5 (.sync (.ofNat 1)),
    sampleCall 6 (.approve (.ofNat 9) (.ofNat 4) none none)]

/-- The requests of the applicant are no steps of the rest of the platform. -/
theorem sampleAppeals_admitted : AllAdmitted (step sampleHost)
    (fun s r ↦ Admitted s r ∧ reopens sampleHost sampleRejectedProfile s r = false) sampleRejected
      sampleAppeals :=
  ⟨⟨trivial, by decide +kernel⟩, ⟨trivial, rfl⟩, ⟨trivial, rfl⟩, ⟨trivial, rfl⟩, ⟨trivial, rfl⟩, trivial⟩

end Sample

/-- A BVN that passes, a NIN, an address, a sync and an approval leave the applicant rejected. -/
theorem rejection_final_sample :
    (∃ q ∈ (sampleAppeals.foldl (step sampleHost) sampleRejected).kyc.profiles.rows,
      q.id = .ofNat 4 ∧ q.status = .rejected) ∧
    sampleRejected.kyc.checks.rows.length <
      (sampleAppeals.foldl (step sampleHost) sampleRejected).kyc.checks.rows.length := by
  have hp : sampleRejectedProfile ∈ sampleRejected.kyc.profiles.rows := by decide +kernel
  have hrun := reaches_of_allAdmitted sampleAppeals_admitted
  have hchecks : sampleRejected.kyc.checks.rows.length <
      (sampleAppeals.foldl (step sampleHost) sampleRejected).kyc.checks.rows.length := by
    decide +kernel
  generalize sampleAppeals.foldl (step sampleHost) sampleRejected = db at hrun hchecks ⊢
  exact ⟨(rejection_final hp rfl hrun).1, hchecks⟩

/-- A BVN of another name puts the rejected profile before a reviewer, who approves it. -/
theorem rejection_reopened :
    (sampleRejected.kyc.profiles.rows.map (·.status),
      (step sampleHost sampleRejected (sampleCall 2 (sampleBvn "Ben Eze"))).kyc.profiles.rows.map
        (·.status),
      ([sampleCall 2 (sampleBvn "Ben Eze"), sampleCall 3 (.approve (.ofNat 9) (.ofNat 4) none none)].foldl
        (step sampleHost) sampleRejected).kyc.profiles.rows.map (·.status)) =
      ([.rejected], [.requiresReview], [.verified]) := by
  decide +kernel

end AjoCloud.Kyc
