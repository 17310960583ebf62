import AjoCloud.Kyc.Tiers

/-!
# Whose identity was checked

A NIN that passed vouches for the names and the day of birth that the provider was asked about, or
that the approving reviewer saw.  This module follows both through the steps of the requests that
write them.
-/

namespace AjoCloud.Kyc

open Lib ServiceError

variable {host : Host} {told : Told} {db db' : Db} {v v' : Verification} {t : Thread}

/-! ## Passed checks -/

/-- A NIN or vNIN that passed. -/
structure PassedNin (c : KycCheck) : Prop where
  type : c.type = .nin ∨ c.type = .vnin
  status : c.status = .passed

/-- The profile of the check is that of the user. -/
def IsCheckOf (db : Db) (c : KycCheck) (userId : Uuid) : Prop :=
  ∃ p ∈ db.kyc.profiles.rows, p.id = c.kycProfileId ∧ p.userId = userId

/-- Each profile has one passed NIN at most, and the person on the user's profile is one that the
check vouches for. -/
structure Vouched (v : Verification) : Prop where
  owners : ∀ c ∈ v.db.kyc.checks.rows, ∃ p ∈ v.db.kyc.profiles.rows, p.id = c.kycProfileId
  one : ∀ c ∈ v.db.kyc.checks.rows, ∀ c' ∈ v.db.kyc.checks.rows, PassedNin c → PassedNin c' →
    c'.kycProfileId = c.kycProfileId → c' = c
  person : ∀ c ∈ v.db.kyc.checks.rows, PassedNin c → ∀ up ∈ v.db.kyc.userProfiles.rows,
    IsCheckOf v.db c up.userId → ⟨c.id, personaOf up⟩ ∈ v.vouchers

/-! ## Steps -/

/-- Checks and the users' profiles stay as they are; every profile is one that was there, or new. -/
structure ProfilesOnly (db db' : Db) : Prop where
  checks : db'.kyc.checks = db.kyc.checks
  userProfiles : db'.kyc.userProfiles = db.kyc.userProfiles
  kept : ∀ p ∈ db.kyc.profiles.rows, ∃ p' ∈ db'.kyc.profiles.rows, p'.id = p.id
  known : ∀ p' ∈ db'.kyc.profiles.rows,
    (∃ p ∈ db.kyc.profiles.rows, p.id = p'.id ∧ p.userId = p'.userId) ∨
      ∀ p ∈ db.kyc.profiles.rows, p.id ≠ p'.id

/-- The rows of profiles are rewritten under their identifiers. -/
theorem ProfilesOnly.of_map {f : KycProfile → KycProfile}
    (hchecks : db'.kyc.checks = db.kyc.checks)
    (husers : db'.kyc.userProfiles = db.kyc.userProfiles)
    (hrows : db'.kyc.profiles.rows = db.kyc.profiles.rows.map f)
    (hf : ∀ p, (f p).id = p.id ∧ (f p).userId = p.userId) : ProfilesOnly db db' where
  checks := hchecks
  userProfiles := husers
  kept := by
    intro p hp
    rw [hrows]
    exact ⟨f p, List.mem_map_of_mem hp, (hf p).1⟩
  known := by
    intro p' hp'
    rw [hrows, List.mem_map] at hp'
    obtain ⟨p, hp, rfl⟩ := hp'
    exact .inl ⟨p, hp, (hf p).1.symm, (hf p).2.symm⟩

theorem createProfile_profilesOnly {profile answer : KycProfile}
    (h : createProfile profile db = .ok (answer, db')) : ProfilesOnly db db' := by
  obtain ⟨profiles, hins, -, rfl⟩ := createProfile_eq_ok h
  refine ⟨rfl, rfl, fun p hp ↦ ⟨p, ?_, rfl⟩, fun p hp ↦ ?_⟩
  · exact insertRow_eq_ok hins ▸ List.mem_append_left _ hp
  · have hmem : p ∈ profiles.rows := hp
    rw [insertRow_eq_ok hins, List.mem_append, List.mem_singleton] at hmem
    rcases hmem with hmem | rfl
    · exact .inl ⟨p, hmem, rfl, rfl⟩
    · exact .inr fun x hx hid ↦ not_clash_of_insertRow hins x hx (.inl hid)

theorem updateProfile_profilesOnly {id : Uuid} {write : KycProfile → KycProfile} {u : Unit}
    (h : updateProfile id write db = .ok (u, db'))
    (hwrite : ∀ p, (write p).id = p.id ∧ (write p).userId = p.userId) : ProfilesOnly db db' := by
  obtain ⟨profiles, hupdate, rfl⟩ := updateProfile_eq_ok h
  refine .of_map rfl rfl (updateRow_eq_ok hupdate) fun p ↦ ?_
  split
  · exact hwrite p
  · exact ⟨rfl, rfl⟩

theorem writeTier_profilesOnly {ctx : Ctx} {userId : Uuid} {level : Nat}
    {existing : Option KycProfile} {u : Unit}
    (h : writeTier ctx userId level existing db = .ok (u, db')) : ProfilesOnly db db' := by
  cases existing with
  | none =>
      simp only [writeTier, bind_eq_ok, pure_eq_ok, Prod.mk.injEq] at h
      obtain ⟨⟨answer, db₁⟩, h, -, rfl⟩ := h
      exact createProfile_profilesOnly h
  | some e => exact updateProfile_profilesOnly h fun _ ↦ ⟨rfl, rfl⟩

theorem storeDocument_profilesOnly {ctx : Ctx} {kycProfileId : Uuid} {type : String}
    {document : VerificationDocument}
    (h : storeDocument ctx kycProfileId type db = .ok (document, db')) : ProfilesOnly db db' := by
  obtain ⟨_, profiles, -, hupdate, rfl⟩ := storeDocument_eq_ok h
  refine .of_map rfl rfl (updateRow_eq_ok hupdate) fun p ↦ ?_
  split
  · exact ⟨rfl, rfl⟩
  · exact ⟨rfl, rfl⟩

theorem Elsewhere.profilesOnly (h : Elsewhere db db') : ProfilesOnly db db' := by
  refine ⟨h.checks, h.userProfiles, ?_, ?_⟩
  · rw [h.profiles]
    exact fun p hp ↦ ⟨p, hp, rfl⟩
  · rw [h.profiles]
    exact fun p hp ↦ .inl ⟨p, hp, rfl, rfl⟩

/-- A step that leaves checks and the users' profiles alone. -/
theorem Vouched.of_profilesOnly (h : Vouched v) (honly : ProfilesOnly v.db db') :
    Vouched { v with db := db' } where
  owners := by
    intro c hc
    rw [honly.checks] at hc
    obtain ⟨p, hp, hid⟩ := h.owners c hc
    obtain ⟨p', hp', hid'⟩ := honly.kept p hp
    exact ⟨p', hp', hid'.trans hid⟩
  one := by
    rw [honly.checks]
    exact h.one
  person := by
    intro c hc hpassed up hup hof
    rw [honly.checks] at hc
    rw [honly.userProfiles] at hup
    obtain ⟨p', hp', hid, huser⟩ := hof
    rcases honly.known p' hp' with ⟨p, hp, hpid, hpuser⟩ | hnew
    · exact h.person c hc hpassed up hup ⟨p, hp, hpid.trans hid, hpuser.trans huser⟩
    · obtain ⟨p, hp, hpid⟩ := h.owners c hc
      exact absurd (hpid.trans hid.symm) (hnew p hp)

/-- A check of another kind is added. -/
theorem createCheck_vouched {check : KycCheck} {u : Unit} (h : Vouched v)
    (htype : check.type ≠ .nin ∧ check.type ≠ .vnin)
    (hok : createCheck check v.db = .ok (u, db')) : Vouched { v with db := db' } := by
  obtain ⟨howner, checks, hins, rfl⟩ := createCheck_eq_ok hok
  -- Every passed NIN among the checks was there before.
  have hold : ∀ c ∈ checks.rows, PassedNin c → c ∈ v.db.kyc.checks.rows := by
    intro c hc hpassed
    rw [insertRow_eq_ok hins, List.mem_append, List.mem_singleton] at hc
    rcases hc with hc | rfl
    · exact hc
    · rcases hpassed.type with htype' | htype'
      · exact absurd htype' htype.1
      · exact absurd htype' htype.2
  refine ⟨fun c hc ↦ ?_, fun c hc c' hc' hp hp' ↦ h.one c (hold c hc hp) c' (hold c' hc' hp') hp hp',
    fun c hc hp ↦ h.person c (hold c hc hp) hp⟩
  have hc : c ∈ checks.rows := hc
  rw [insertRow_eq_ok hins, List.mem_append, List.mem_singleton] at hc
  rcases hc with hc | rfl
  · exact h.owners c hc
  · exact howner

/-- What the provider's answer has to be for the check to pass a NIN. -/
theorem passedNin_identityCheck {ctx : Ctx} {kycProfileId : Uuid} {dto : VerifyIdentityDto}
    {outcome : IdentityVerificationOutcome} {name : String}
    (h : PassedNin (identityCheck host ctx kycProfileId dto outcome name)) :
    dto.kind ≠ .bvn ∧ outcome.passed = true ∧ requiresReview host outcome name = false := by
  have hstatus : (if (!outcome.passed) = true then KycCheckStatus.failed
      else if requiresReview host outcome name = true then .pending else .passed) = .passed := h.status
  refine ⟨fun hkind ↦ ?_, ?_⟩
  · have htype : dto.kind.type = .nin ∨ dto.kind.type = .vnin := h.type
    rw [hkind] at htype
    rcases htype with htype | htype
    · cases htype
    · cases htype
  · split_ifs at hstatus with hfailed hreview
    · exact ⟨by simpa using hfailed, by simpa using hreview⟩

/-- The answer of the provider is stored for a person who is still the one it is about, on a profile
without a passed NIN. -/
theorem identityStored_vouched {dto : VerifyIdentityDto} {kycProfileId : Uuid}
    {profile : UserProfile} {outcome : IdentityVerificationOutcome} {check : KycCheck} {u : Unit}
    {refusals : List (Lookup × Uuid)} (h : Vouched v)
    (hcheck : check = identityCheck host told.ctx kycProfileId dto outcome (legalName profile))
    (hstored : PassedNin check → (∀ c ∈ v.db.kyc.checks.rows, c.kycProfileId = kycProfileId →
        ¬ PassedNin c) ∧
      ∀ up ∈ v.db.kyc.userProfiles.rows, IsCheckOf v.db check up.userId →
        personaOf up = personaOf profile)
    (hok : createCheck check v.db = .ok (u, db')) :
    Vouched { v with
      db := db'
      refusals := refusals
      vouchers := v.vouchers ++ [⟨check.id, personaOf profile⟩] } := by
  have hof : check.kycProfileId = kycProfileId := by
    rw [hcheck]
    rfl
  obtain ⟨howner, checks, hins, rfl⟩ := createCheck_eq_ok hok
  have hmem : ∀ {c}, c ∈ checks.rows → c ∈ v.db.kyc.checks.rows ∨ c = check := by
    intro c hc
    rw [insertRow_eq_ok hins, List.mem_append, List.mem_singleton] at hc
    exact hc
  refine ⟨fun c hc ↦ ?_, fun c hc c' hc' hp hp' hsame ↦ ?_, fun c hc hp up hup hofUser ↦ ?_⟩
  · rcases hmem hc with hc | rfl
    · exact h.owners c hc
    · exact howner
  · rcases hmem hc with hold | rfl
    · rcases hmem hc' with hold' | rfl
      · exact h.one c hold c' hold' hp hp' hsame
      · exact absurd hp ((hstored hp').1 c hold (hsame.symm.trans hof))
    · rcases hmem hc' with hold' | rfl
      · exact absurd hp' ((hstored hp).1 c' hold' (hsame.trans hof))
      · rfl
  · rcases hmem hc with hold | rfl
    · exact List.mem_append_left _ (h.person c hold hp up hup hofUser)
    · refine List.mem_append_right _ (List.mem_singleton.mpr ?_)
      rw [(hstored hp).2 up hup hofUser]

/-- Details are written that leave the person who was checked as they are. -/
theorem updateUserProfile_vouched {userId : Uuid} {write : UserProfile → UserProfile} {u : Unit}
    (h : Vouched v) (hwrite : ∀ p, (write p).userId = p.userId)
    (hperson : ∀ c ∈ v.db.kyc.checks.rows, PassedNin c → IsCheckOf v.db c userId →
      ∀ up ∈ v.db.kyc.userProfiles.rows, up.userId = userId → personaOf (write up) = personaOf up)
    (hok : updateUserProfile userId write v.db = .ok (u, db')) : Vouched { v with db := db' } := by
  obtain ⟨userProfiles, hupdate, rfl⟩ := updateUserProfile_eq_ok hok
  refine ⟨h.owners, h.one, fun c hc hp up hup hof ↦ ?_⟩
  have hup : up ∈ userProfiles.rows := hup
  rw [updateRow_eq_ok hupdate, List.mem_map] at hup
  obtain ⟨x, hx, rfl⟩ := hup
  split at hof
  · next hid =>
      have hid : x.userId = userId := of_decide_eq_true hid
      rw [if_pos (decide_eq_true hid)]
      rw [hwrite x] at hof
      rw [hperson c hc hp (hid ▸ hof) x hx hid]
      exact h.person c hc hp x hx hof
  · next hid =>
      rw [if_neg hid]
      exact h.person c hc hp x hx hof

/-- A decision passes one NIN at most, of a profile without another one, for the person that the
reviewer saw. -/
theorem decided_vouched {ctx : Ctx} {reviewerId kycProfileId : Uuid} {decision : KycReviewDecision}
    {reason : String} {tier : Option KycTier} {seen : Option Persona} {profile : KycProfile}
    (h : Vouched v)
    (hdecided : ∀ c ∈ passedBy v.db kycProfileId decision tier, c.type = .nin ∨ c.type = .vnin →
      (∀ x ∈ v.db.kyc.checks.rows, x.kycProfileId = c.kycProfileId →
        PassedNin x ∨ (x ∈ passedBy v.db kycProfileId decision tier ∧
          (x.type = .nin ∨ x.type = .vnin)) → x = c) ∧
      ∀ up ∈ v.db.kyc.userProfiles.rows, IsCheckOf v.db c up.userId → seen = some (personaOf up))
    (hok : decideReview ctx v.db reviewerId kycProfileId decision reason tier =
      .ok (profile, db')) :
    Vouched { v with
      db := db'
      vouchers := v.vouchers ++ (passedBy v.db kycProfileId decision tier).flatMap fun c ↦
        (seen.map (Voucher.mk c.id)).toList } := by
  obtain ⟨p₀, checks, profiles, reviews, hfind, -, hchecks, hupdate, -, rfl⟩ := decideReview_eq_ok hok
  obtain ⟨f, hrows, hf⟩ := mem_checksAfterDecision hchecks
  -- What has passed now had passed before, or is one of the checks that the decision passes.
  have hpast : ∀ c ∈ v.db.kyc.checks.rows, PassedNin (f c) →
      PassedNin c ∨ (c ∈ passedBy v.db kycProfileId decision tier ∧ (c.type = .nin ∨ c.type = .vnin)) := by
    intro c hc hpassed
    obtain ⟨hsame, heq | ⟨hheld, ⟨rfl, htype, -⟩ | ⟨_, heq⟩⟩⟩ := hf c hc
    · rw [heq] at hpassed
      exact .inl hpassed
    · refine .inr ⟨List.mem_filter.mpr ⟨hheld, ?_⟩, hsame.type ▸ hpassed.type⟩
      rw [hfind]
      exact htype
    · have hst := hpassed.status
      rw [heq] at hst
      cases hst
  have hof : ∀ {c : KycCheck} {userId : Uuid}, c ∈ v.db.kyc.checks.rows →
      (∃ p ∈ profiles.rows, p.id = (f c).kycProfileId ∧ p.userId = userId) →
        IsCheckOf v.db c userId := by
    rintro c userId hc ⟨p', hp', hid, huser⟩
    rw [updateRow_eq_ok hupdate, List.mem_map] at hp'
    obtain ⟨p, hp, rfl⟩ := hp'
    refine ⟨p, hp, ?_⟩
    rw [(hf c hc).1.kycProfileId] at hid
    split at hid
    · next hrow =>
        rw [if_pos hrow] at huser
        exact ⟨hid, huser⟩
    · next hrow =>
        rw [if_neg hrow] at huser
        exact ⟨hid, huser⟩
  refine ⟨fun c' hc' ↦ ?_, fun c' hc' d' hd' hp hp' hprofile ↦ ?_, fun c' hc' hp up hup hofUser ↦ ?_⟩
  · have hc' : c' ∈ checks.rows := hc'
    rw [hrows, List.mem_map] at hc'
    obtain ⟨c, hc, rfl⟩ := hc'
    obtain ⟨p, hp, hid⟩ := h.owners c hc
    refine ⟨_, (updateRow_eq_ok hupdate) ▸ List.mem_map_of_mem hp, ?_⟩
    rw [(hf c hc).1.kycProfileId, ← hid]
    split
    · rfl
    · rfl
  · have hc' : c' ∈ checks.rows := hc'
    have hd' : d' ∈ checks.rows := hd'
    rw [hrows, List.mem_map] at hc' hd'
    obtain ⟨c, hc, rfl⟩ := hc'
    obtain ⟨d, hd, rfl⟩ := hd'
    rw [(hf c hc).1.kycProfileId, (hf d hd).1.kycProfileId] at hprofile
    have hcd : d = c := by
      rcases hpast c hc hp with hold | hnow
      · rcases hpast d hd hp' with hold' | hnow'
        · exact h.one c hc d hd hold hold' hprofile
        · exact ((hdecided d hnow'.1 hnow'.2).1 c hc hprofile.symm (.inl hold)).symm
      · exact (hdecided c hnow.1 hnow.2).1 d hd hprofile (hpast d hd hp')
    rw [hcd]
  · have hc' : c' ∈ checks.rows := hc'
    rw [hrows, List.mem_map] at hc'
    obtain ⟨c, hc, rfl⟩ := hc'
    have hofUser := hof hc hofUser
    rw [(hf c hc).1.id]
    rcases hpast c hc hp with hold | hnow
    · exact List.mem_append_left _ (h.person c hc hold up hup hofUser)
    · refine List.mem_append_right _ (List.mem_flatMap.mpr ⟨c, hnow.1, ?_⟩)
      rw [(hdecided c hnow.1 hnow.2).2 up hup hofUser]
      exact List.mem_singleton_self _

/-! ## Runs -/

/-- A NIN is stored as passed, or passed by a reviewer, only on a profile without another one and for
the person that is still there; and the person is written only while no NIN has passed. -/
structure Consistent (host : Host) (v : Verification) (t : Thread) : Prop where
  stored : ∀ userId dto kycProfileId lookup profile outcome,
    t = .identityResult userId dto kycProfileId lookup profile outcome → dto.kind ≠ .bvn →
    outcome.passed = true → requiresReview host outcome (legalName profile) = false →
      (∀ c ∈ v.db.kyc.checks.rows, c.kycProfileId = kycProfileId → ¬ PassedNin c) ∧
      ∀ up ∈ v.db.kyc.userProfiles.rows,
        (∃ p ∈ v.db.kyc.profiles.rows, p.id = kycProfileId ∧ p.userId = up.userId) →
          personaOf up = personaOf profile
  details : ∀ userId write, t.details = some (userId, write) → ∀ c ∈ v.db.kyc.checks.rows,
    PassedNin c → IsCheckOf v.db c userId → ∀ up ∈ v.db.kyc.userProfiles.rows, up.userId = userId →
      personaOf (write up) = personaOf up
  decided : ∀ reviewerId kycProfileId decision reason tier seen,
    t = .decide reviewerId kycProfileId decision reason tier seen →
    ∀ c ∈ passedBy v.db kycProfileId decision tier, c.type = .nin ∨ c.type = .vnin →
      (∀ x ∈ v.db.kyc.checks.rows, x.kycProfileId = c.kycProfileId →
        PassedNin x ∨ (x ∈ passedBy v.db kycProfileId decision tier ∧
          (x.type = .nin ∨ x.type = .vnin)) → x = c) ∧
      ∀ up ∈ v.db.kyc.userProfiles.rows, IsCheckOf v.db c up.userId → seen = some (personaOf up)
  elsewhere : ∀ db', t = .elsewhere db' → Elsewhere v.db db'

theorem Effect.vouched (he : Effect host told v t v') (h : Vouched v) (hin : Consistent host v t) :
    Vouched v' := by
  cases he with
  | idle => exact h
  | sent => exact ⟨h.owners, h.one, h.person⟩
  | profileCreated _ _ hok => exact h.of_profilesOnly (createProfile_profilesOnly hok)
  | profileMarked _ hwrite hok =>
      refine h.of_profilesOnly (updateProfile_profilesOnly hok fun p ↦ ?_)
      rcases hwrite with rfl | rfl
      · exact ⟨rfl, rfl⟩
      · exact ⟨rfl, rfl⟩
  | accountLinked => exact ⟨h.owners, h.one, h.person⟩
  | checkStored _ htype hok => exact createCheck_vouched h htype hok
  | identityStored hcheck hok =>
      refine identityStored_vouched h hcheck (fun hpassed ↦ ?_) hok
      subst hcheck
      obtain ⟨hkind, hok, hreview⟩ := passedNin_identityCheck hpassed
      exact hin.stored _ _ _ _ _ _ rfl hkind hok hreview
  | documentStored _ hok => exact h.of_profilesOnly (storeDocument_profilesOnly hok)
  | detailsWritten ht hok =>
      exact updateUserProfile_vouched h (Thread.userId_of_details ht) (hin.details _ _ ht) hok
  | tierWritten hok => exact h.of_profilesOnly (writeTier_profilesOnly hok)
  | decided hok => exact decided_vouched h (hin.decided _ _ _ _ _ _ rfl) hok
  | elsewhere => exact h.of_profilesOnly (hin.elsewhere _ rfl).profilesOnly

/-- However the requests of users and reviewers interleave, as long as each step is consistent in this
sense: a profile has one passed NIN or vNIN at most, and while it has one, the names and the day of
birth on the user's profile are those that were sent with the check or that the approving reviewer
saw. -/
theorem identity_stays {start q : Pool Verification Thread}
    (hstart : start.shared.db.kyc.checks.rows = [])
    (hrun : Reaches (Pool.advance (exec host)) (Pool.Admitted (fun _ t ↦ t.isRequest = true)
      fun _ v t ↦ Consistent host v t) start q) :
    (∀ c ∈ q.shared.db.kyc.checks.rows, ∀ c' ∈ q.shared.db.kyc.checks.rows, PassedNin c →
      PassedNin c' → c'.kycProfileId = c.kycProfileId → c' = c) ∧
    ∀ c ∈ q.shared.db.kyc.checks.rows, PassedNin c → ∀ up ∈ q.shared.db.kyc.userProfiles.rows,
      IsCheckOf q.shared.db c up.userId → ⟨c.id, personaOf up⟩ ∈ q.shared.vouchers := by
  have hvouched : Vouched q.shared := by
    refine Pool.invariant_of_steps hrun ?_ fun o v t h hin ↦ (exec_effect host o v t).vouched h hin
    refine ⟨?_, ?_, ?_⟩
    · rw [hstart]
      exact List.forall_mem_nil _
    · rw [hstart]
      exact List.forall_mem_nil _
    · rw [hstart]
      exact List.forall_mem_nil _
  exact ⟨hvouched.one, hvouched.person⟩

/-! ### One person, two numbers -/

section Sample

instance (c : KycCheck) : Decidable (PassedNin c) :=
  decidable_of_iff ((c.type = .nin ∨ c.type = .vnin) ∧ c.status = .passed)
    ⟨fun h ↦ ⟨h.1, h.2⟩, fun h ↦ ⟨h.type, h.status⟩⟩

instance (db : Db) (c : KycCheck) (userId : Uuid) : Decidable (IsCheckOf db c userId) :=
  inferInstanceAs (Decidable (∃ p ∈ _, _ ∧ _))

/-- The details of stage 1 are there, and nothing is verified. -/
def firstStage : KycTables :=
  { verifiedUser with
    profiles := .empty
    checks := .empty
    documents := .empty }

/-- The user's NIN. -/
def sampleNin (identityNumber : String) : Thread := .identity (.ofNat 1) ⟨.nin, identityNumber⟩

/-- A NIN is verified. -/
def sampleNinVerified : Pool Verification Thread :=
  sampleRun firstStage (.spawn (sampleNin "12345678901") :: sampleSteps 0 1 9)

/-- The check that a step is consistent, while there are no checks and nobody writes details. -/
def Thread.isConsistent (v : Verification) : Thread → Bool
  | .identityResult _ _ _ _ sent _ => v.db.kyc.checks.rows.isEmpty &&
      v.db.kyc.userProfiles.rows.all fun up ↦ personaOf up = personaOf sent
  | .decide .. | .elsewhere _ => false
  | t => t.details.isNone

theorem consistent_of_isConsistent (h : t.isConsistent v = true) : Consistent host v t := by
  cases t with
  | identityResult userId dto kycProfileId lookup profile outcome =>
      obtain ⟨hempty, hall⟩ := Bool.and_eq_true_iff.mp h
      have hnone : v.db.kyc.checks.rows = [] := List.isEmpty_iff.mp hempty
      refine ⟨fun _ _ _ _ _ _ heq _ _ _ ↦ ⟨fun c hc ↦ ?_, fun up hup _ ↦ ?_⟩,
        fun _ _ h ↦ (nomatch h), fun _ _ _ _ _ _ h ↦ (nomatch h), fun _ h ↦ (nomatch h)⟩
      · rw [hnone] at hc
        cases hc
      · cases heq
        exact of_decide_eq_true (List.all_eq_true.mp hall up hup)
  | basicInfo | personalDetails | profile | decide | elsewhere => cases h
  | _ => exact ⟨fun _ _ _ _ _ _ h ↦ (nomatch h), fun _ _ h ↦ (nomatch h),
      fun _ _ _ _ _ _ h ↦ (nomatch h), fun _ h ↦ (nomatch h)⟩

theorem identity_stays_sample :
    (∃ c ∈ sampleNinVerified.shared.db.kyc.checks.rows, PassedNin c) ∧
    ∀ c ∈ sampleNinVerified.shared.db.kyc.checks.rows, PassedNin c →
      ∀ up ∈ sampleNinVerified.shared.db.kyc.userProfiles.rows,
        IsCheckOf sampleNinVerified.shared.db c up.userId →
          ⟨c.id, personaOf up⟩ ∈ sampleNinVerified.shared.vouchers := by
  have hpassed : ∃ c ∈ sampleNinVerified.shared.db.kyc.checks.rows, PassedNin c := by
    decide +kernel
  have hrun : Reaches (Pool.advance (exec sampleHost))
      (Pool.Admitted (fun _ t ↦ t.isRequest = true) fun _ v t ↦ t.isConsistent v = true)
      (samplePlatform firstStage) sampleNinVerified := by
    refine reaches_of_allAdmitted ?_
    decide +kernel
  generalize sampleNinVerified = q at hpassed hrun ⊢
  have hin : Reaches (Pool.advance (exec sampleHost))
      (Pool.Admitted (fun _ t ↦ t.isRequest = true) fun _ v t ↦ Consistent sampleHost v t)
      (samplePlatform firstStage) q := by
    refine hrun.mono fun s m hm ↦ ?_
    cases m with
    | spawn t => exact hm
    | run i o => exact fun t ht ↦ consistent_of_isConsistent (hm t ht)
    | stop i => trivial
  exact ⟨hpassed, (identity_stays rfl hin).2⟩

/-- Two numbers are verified side by side. -/
def sampleTwoNins : Pool Verification Thread :=
  sampleRun firstStage
    (.spawn (sampleNin "12345678901") :: .spawn (sampleNin "10987654321") :: sampleSteps 0 1 18)

/-- The name is changed after the NIN has passed. -/
def sampleRenamed : Pool Verification Thread :=
  [.spawn (.profile (.ofNat 1) ⟨some "Eve", none⟩), .run 0 (sampleTold 20 true "")].foldl
    (Pool.advance (exec sampleHost)) sampleNinVerified

/-- Two requests that overlap leave two passed NINs on one profile, and a name can be changed under a
NIN that has passed. -/
theorem identity_replaced :
    (Reaches (Pool.advance (exec sampleHost))
        (Pool.Admitted (fun _ t ↦ t.isRequest = true) fun _ _ _ ↦ True)
        (samplePlatform firstStage) sampleTwoNins ∧
      ∃ c ∈ sampleTwoNins.shared.db.kyc.checks.rows,
        ∃ c' ∈ sampleTwoNins.shared.db.kyc.checks.rows, PassedNin c ∧ PassedNin c' ∧
          c'.kycProfileId = c.kycProfileId ∧ c' ≠ c) ∧
    Reaches (Pool.advance (exec sampleHost))
      (Pool.Admitted (fun _ t ↦ t.isRequest = true) fun _ _ _ ↦ True)
      (samplePlatform firstStage) sampleRenamed ∧
      ∃ c ∈ sampleRenamed.shared.db.kyc.checks.rows, PassedNin c ∧
        ∃ up ∈ sampleRenamed.shared.db.kyc.userProfiles.rows,
          IsCheckOf sampleRenamed.shared.db c up.userId ∧
            ⟨c.id, personaOf up⟩ ∉ sampleRenamed.shared.vouchers := by
  refine ⟨⟨reaches_of_allAdmitted ?_, by decide +kernel⟩, ?_, by decide +kernel⟩
  · decide +kernel
  · refine (reaches_of_allAdmitted ?_).trans
      (reaches_of_allAdmitted ?_)
    · decide +kernel
    · decide +kernel

end Sample

end AjoCloud.Kyc
