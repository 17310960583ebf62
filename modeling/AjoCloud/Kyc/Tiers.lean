import AjoCloud.Food.Applications
import AjoCloud.Kyc.Threads
import AjoCloud.Lib.Frame

/-!
# Stored tiers and the evidence for them

`sync` reads the facts, then the profile, and then writes the tier; a rejection may commit in between.
This module compares the tier that is stored with the stages that the evidence completes.
-/

namespace AjoCloud.Kyc

open Lib ServiceError

variable {host : Host} {told : Told} {db db' : Db} {userId : Uuid}

/-! ## The evidence -/

theorem flag_eq_complete {met : Bool} : flag met = .complete ↔ met = true := by
  cases met with
  | false => exact ⟨nofun, nofun⟩
  | true => exact ⟨fun _ ↦ rfl, fun _ ↦ rfl⟩

theorem requirementState_eq_complete {state : CheckState} :
    requirementState state = .complete ↔ state = .passed := by
  cases state with
  | passed => exact ⟨fun _ ↦ rfl, fun _ ↦ rfl⟩
  | none => exact ⟨nofun, nofun⟩
  | pending => exact ⟨nofun, nofun⟩
  | failed => exact ⟨nofun, nofun⟩

/-- The stages, one inside the other. -/
theorem completedLevel_eq (facts : KycFacts) : completedLevel facts =
    if facts.restricted then 0
    else if facts.accountActive ∧ facts.basicInfoComplete then
      if facts.pinSet ∧ facts.nin = .passed ∧ facts.ninDocumentUploaded then
        if facts.address = .passed then 3 else 2
      else 1
    else 0 := by
  simp only [completedLevel, stageRequirements, List.takeWhile_cons, List.takeWhile_nil,
    List.all_cons, List.all_nil, Bool.and_true, Bool.and_eq_true, decide_eq_true_eq,
    flag_eq_complete, requirementState_eq_complete]
  split_ifs
  all_goals rfl

/-- What was met is still met. -/
structure Supports (facts facts' : KycFacts) : Prop where
  accountActive : facts.accountActive = true → facts'.accountActive = true
  basicInfoComplete : facts.basicInfoComplete = true → facts'.basicInfoComplete = true
  pinSet : facts.pinSet = true → facts'.pinSet = true
  nin : facts.nin = .passed → facts'.nin = .passed
  ninDocumentUploaded : facts.ninDocumentUploaded = true → facts'.ninDocumentUploaded = true
  address : facts.address = .passed → facts'.address = .passed

/-- The stages that the evidence completes, whatever a reviewer thinks of it. -/
def evidence (db : Db) (userId : Uuid) : Nat :=
  completedLevel { readKycFacts db userId with restricted := false }

theorem Supports.completedLevel_le {facts facts' : KycFacts} (h : Supports facts facts')
    (hfree : facts'.restricted = false) : completedLevel facts ≤ completedLevel facts' := by
  rw [completedLevel_eq, completedLevel_eq, hfree, if_neg Bool.false_ne_true]
  by_cases hr : facts.restricted = true
  · rw [if_pos hr]
    exact Nat.zero_le _
  · rw [if_neg hr]
    by_cases h₁ : facts.accountActive = true ∧ facts.basicInfoComplete = true
    · have h₁' : facts'.accountActive = true ∧ facts'.basicInfoComplete = true :=
        ⟨h.accountActive h₁.1, h.basicInfoComplete h₁.2⟩
      rw [if_pos h₁, if_pos h₁']
      by_cases h₂ : facts.pinSet = true ∧ facts.nin = .passed ∧ facts.ninDocumentUploaded = true
      · have h₂' : facts'.pinSet = true ∧ facts'.nin = .passed ∧
            facts'.ninDocumentUploaded = true :=
          ⟨h.pinSet h₂.1, h.nin h₂.2.1, h.ninDocumentUploaded h₂.2.2⟩
        rw [if_pos h₂, if_pos h₂']
        by_cases h₃ : facts.address = .passed
        · rw [if_pos h₃, if_pos (h.address h₃)]
        · rw [if_neg h₃]
          split_ifs
          all_goals omega
      · rw [if_neg h₂]
        split_ifs
        all_goals omega
    · rw [if_neg h₁]
      exact Nat.zero_le _

theorem Supports.evidence_le (h : Supports (readKycFacts db userId) (readKycFacts db' userId)) :
    evidence db userId ≤ evidence db' userId :=
  Supports.completedLevel_le
    ⟨h.accountActive, h.basicInfoComplete, h.pinSet, h.nin, h.ninDocumentUploaded, h.address⟩ rfl

/-! ## What keeps it -/

theorem stateOf_eq_passed {checks : List KycCheck} :
    stateOf checks = .passed ↔ ∃ c ∈ checks, c.status = .passed := by
  unfold stateOf
  split
  · next h =>
      obtain ⟨c, hc, hst⟩ := List.any_eq_true.mp h
      exact ⟨fun _ ↦ ⟨c, hc, of_decide_eq_true hst⟩, fun _ ↦ rfl⟩
  · next h =>
      constructor
      · intro hstate
        split at hstate
        · cases hstate
        · split at hstate
          · cases hstate
          · cases hstate
      · rintro ⟨c, hc, hst⟩
        exact absurd (List.any_eq_true.mpr ⟨c, hc, decide_eq_true hst⟩) h

/-- The profile of a user, by the unique column. -/
theorem profileOf_eq_some {p : KycProfile} :
    profileOf db userId = some p ↔ p ∈ db.kyc.profiles.rows ∧ p.userId = userId := by
  constructor
  · intro h
    exact ⟨Table.mem_of_find? h, by simpa using Table.prop_of_find? h⟩
  · rintro ⟨hp, rfl⟩
    exact db.kyc.profiles.find?_eq_some_of_mem hp (decide_eq_true rfl)
      fun x _ hx ↦ .inr ⟨rfl, congrArg some (of_decide_eq_true hx)⟩

theorem mem_checksOf {c : KycCheck} : c ∈ checksOf db userId ↔
    c ∈ db.kyc.checks.rows ∧ ∃ p ∈ db.kyc.profiles.rows, p.userId = userId ∧
      c.kycProfileId = p.id := by
  unfold checksOf
  cases hfind : db.kyc.profiles.find? fun p ↦ p.userId = userId with
  | none =>
      refine ⟨nofun, ?_⟩
      rintro ⟨-, p, hp, hu, -⟩
      exact absurd (decide_eq_true hu) (Table.not_of_find?_eq_none hfind hp)
  | some p =>
      have hp := profileOf_eq_some.mp hfind
      rw [Table.mem_findMany, decide_eq_true_eq]
      constructor
      · rintro ⟨hc, heq⟩
        exact ⟨hc, p, hp.1, hp.2, heq⟩
      · rintro ⟨hc, p', hp', hu, heq⟩
        have := (profileOf_eq_some.mpr ⟨hp', hu⟩).symm.trans hfind
        cases this
        exact ⟨hc, heq⟩

/-- Profiles stay, and so do passed checks and documents in force. -/
structure Keeps (db db' : Db) : Prop where
  profiles : ∀ p ∈ db.kyc.profiles.rows, ∃ p' ∈ db'.kyc.profiles.rows,
    p'.id = p.id ∧ p'.userId = p.userId ∧ (p.restrictedAt.isSome → p'.restrictedAt.isSome)
  checks : ∀ c ∈ db.kyc.checks.rows, c.status = .passed → ∃ c' ∈ db'.kyc.checks.rows,
    c'.kycProfileId = c.kycProfileId ∧ c'.type = c.type ∧ c'.status = .passed
  documents : ∀ d ∈ db.kyc.documents.rows, d.type ∈ NIN_DOCUMENT_TYPES → d.supersededAt = none →
    ∃ d' ∈ db'.kyc.documents.rows, d'.kycProfileId = d.kycProfileId ∧
      d'.type ∈ NIN_DOCUMENT_TYPES ∧ d'.supersededAt = none

theorem Keeps.stateOf (h : Keeps db db') {p : VerificationType → Bool}
    (hpassed : stateOf ((checksOf db userId).filter fun c ↦ p c.type) = .passed) :
    Kyc.stateOf ((checksOf db' userId).filter fun c ↦ p c.type) = .passed := by
  obtain ⟨c, hc, hst⟩ := stateOf_eq_passed.mp hpassed
  obtain ⟨hc, hp⟩ := List.mem_filter.mp hc
  obtain ⟨hc, profile, hprofile, hu, hid⟩ := mem_checksOf.mp hc
  obtain ⟨c', hc', hid', htype, hst'⟩ := h.checks c hc hst
  obtain ⟨profile', hprofile', hpid, hpu, -⟩ := h.profiles profile hprofile
  refine stateOf_eq_passed.mpr ⟨c', List.mem_filter.mpr ⟨?_, htype ▸ hp⟩, hst'⟩
  exact mem_checksOf.mpr ⟨hc', profile', hprofile', hpu.trans hu, hid'.trans (hid.trans hpid.symm)⟩

/-- A document is uploaded when it is there for the profile. -/
theorem ninDocumentUploaded_eq_true : (readKycFacts db userId).ninDocumentUploaded = true ↔
    ∃ p ∈ db.kyc.profiles.rows, p.userId = userId ∧ ∃ d ∈ db.kyc.documents.rows,
      d.kycProfileId = p.id ∧ d.type ∈ NIN_DOCUMENT_TYPES ∧ d.supersededAt = none := by
  show ((profileOf db userId).any fun profile ↦ _) = true ↔ _
  rw [Option.any_eq_true]
  constructor
  · rintro ⟨p, hp, hd⟩
    obtain ⟨d, hd⟩ := Option.isSome_iff_exists.mp hd
    have hprop := Table.prop_of_find? hd
    rw [decide_eq_true_eq] at hprop
    exact ⟨p, (profileOf_eq_some.mp hp).1, (profileOf_eq_some.mp hp).2, d, Table.mem_of_find? hd,
      hprop⟩
  · rintro ⟨p, hp, hu, d, hd, hprop⟩
    refine ⟨p, profileOf_eq_some.mpr ⟨hp, hu⟩, ?_⟩
    by_contra hnone
    rw [Option.not_isSome_iff_eq_none] at hnone
    exact Table.not_of_find?_eq_none hnone hd (decide_eq_true hprop)

/-- What is kept, with what the other tables say of the user, still supports the stages. -/
theorem Keeps.supports (h : Keeps db db')
    (hactive : (readKycFacts db userId).accountActive = true →
      (readKycFacts db' userId).accountActive = true)
    (hbasic : (readKycFacts db userId).basicInfoComplete = true →
      (readKycFacts db' userId).basicInfoComplete = true)
    (hpin : (readKycFacts db userId).pinSet = true → (readKycFacts db' userId).pinSet = true) :
    Supports (readKycFacts db userId) (readKycFacts db' userId) where
  accountActive := hactive
  basicInfoComplete := hbasic
  pinSet := hpin
  nin := h.stateOf (p := fun type ↦ decide (type = .nin ∨ type = .vnin))
  ninDocumentUploaded := by
    rw [ninDocumentUploaded_eq_true, ninDocumentUploaded_eq_true]
    rintro ⟨p, hp, hu, d, hd, hid, hprop⟩
    obtain ⟨p', hp', hpid, hpu, -⟩ := h.profiles p hp
    obtain ⟨d', hd', hdid, hprop'⟩ := h.documents d hd hprop.1 hprop.2
    exact ⟨p', hp', hpu.trans hu, d', hd', hdid.trans (hid.trans hpid.symm), hprop'⟩
  address := h.stateOf (p := fun type ↦ decide (type = .address))

/-- Writing on the tables of verification alone, and not on the users' profiles. -/
theorem Keeps.evidence_le (h : Keeps db db') (husers : db'.users = db.users)
    (hpins : db'.kyc.transactionPins = db.kyc.transactionPins)
    (hprofiles : db'.kyc.userProfiles = db.kyc.userProfiles) (userId : Uuid) :
    evidence db userId ≤ evidence db' userId := by
  refine (h.supports ?_ ?_ ?_).evidence_le
  · simp only [readKycFacts, husers]
    exact fun h ↦ h
  · simp only [readKycFacts, hprofiles]
    exact fun h ↦ h
  · simp only [readKycFacts, hpins]
    exact fun h ↦ h

/-! ## Backed tiers -/

/-- The number of a tier. -/
def tierLevel : KycTier → Nat
  | .tier1 => 1
  | .tier2 => 2
  | .tier3 => 3

theorem tierLevel_tierForLevel_le {level : Nat} (h : 2 ≤ tierLevel (tierForLevel level)) :
    tierLevel (tierForLevel level) ≤ level := by
  unfold tierForLevel at h ⊢
  split at h
  · next h₃ =>
      rw [if_pos h₃, h₃]
      exact le_rfl
  · split at h
    · next h₃ h₂ =>
        rw [if_neg h₃, if_pos h₂, h₂]
        exact le_rfl
    · exact absurd h (by decide)

/-- A reviewer's rejection is in force. -/
def isRestricted (p : KycProfile) : Bool := p.status = .rejected || p.restrictedAt.isSome

theorem restricted_readKycFacts {p : KycProfile} (hp : p ∈ db.kyc.profiles.rows) :
    (readKycFacts db p.userId).restricted = isRestricted p := by
  show ((profileOf db p.userId).any fun profile ↦ _) = _
  rw [profileOf_eq_some.mpr ⟨hp, rfl⟩]
  rfl

/-- A restricted profile completes no stage. -/
theorem restricted_eq_false {facts : KycFacts} (h : 2 ≤ completedLevel facts) :
    facts.restricted = false := by
  by_contra hr
  rw [Bool.not_eq_false] at hr
  rw [completedLevel_eq, if_pos hr] at h
  exact absurd h (by decide)

/-- The stages that count for a profile. -/
theorem completedLevel_readKycFacts {p : KycProfile} (hp : p ∈ db.kyc.profiles.rows) :
    completedLevel (readKycFacts db p.userId) = if isRestricted p then 0 else evidence db p.userId := by
  rw [← restricted_readKycFacts hp]
  split
  · next h => rw [completedLevel_eq, if_pos h]
  · next h =>
      rw [Bool.not_eq_true] at h
      rw [evidence, ← h]

/-- The evidence completes the stages that the tier stands for. -/
def Backed (db : Db) (p : KycProfile) : Prop :=
  2 ≤ tierLevel p.tier → tierLevel p.tier ≤ completedLevel (readKycFacts db p.userId)

/-- A review of the profile ended with its rejection. -/
def Rejected (db : Db) (p : KycProfile) : Prop :=
  ∃ r ∈ db.kyc.complianceReviews.rows, r.kycProfileId = p.id ∧ r.status = .rejected

/-- No stored tier outruns the evidence, and rejected profiles are restricted. -/
structure TiersBacked (db : Db) : Prop where
  tiers : ∀ p ∈ db.kyc.profiles.rows, Backed db p
  rejections : ∀ r ∈ db.kyc.complianceReviews.rows, r.status = .rejected →
    ∃ p ∈ db.kyc.profiles.rows, p.id = r.kycProfileId ∧ p.restrictedAt.isSome

/-- What a step does to tiers. -/
structure Advances (db db' : Db) : Prop where
  keeps : Keeps db db'
  gains : ∀ userId, 2 ≤ evidence db userId → evidence db userId ≤ evidence db' userId
  profiles : ∀ p' ∈ db'.kyc.profiles.rows, Backed db' p' ∨
    ∃ p ∈ db.kyc.profiles.rows, p'.id = p.id ∧ p'.userId = p.userId ∧ p'.tier = p.tier ∧
      (isRestricted p' = true → isRestricted p = true)
  reviews : ∀ r ∈ db'.kyc.complianceReviews.rows, r.status = .rejected →
    r ∈ db.kyc.complianceReviews.rows ∨
      ∃ p ∈ db'.kyc.profiles.rows, p.id = r.kycProfileId ∧ p.restrictedAt.isSome

theorem TiersBacked.advance (h : TiersBacked db) (ha : Advances db db') : TiersBacked db' where
  tiers := by
    intro p' hp'
    rcases ha.profiles p' hp' with hbacked | ⟨p, hp, -, huser, htier, hrestricted⟩
    · exact hbacked
    · intro htwo
      rw [htier] at htwo ⊢
      have hle := h.tiers p hp htwo
      rw [completedLevel_readKycFacts hp] at hle
      rw [completedLevel_readKycFacts hp']
      by_cases hr : isRestricted p = true
      · rw [if_pos hr] at hle
        omega
      · rw [if_neg hr] at hle
        rw [if_neg fun hr' ↦ hr (hrestricted hr'), huser]
        exact hle.trans (ha.gains p.userId (htwo.trans hle))
  rejections := by
    intro r hr hst
    rcases ha.reviews r hr hst with hr | hnow
    · obtain ⟨p, hp, hid, hsome⟩ := h.rejections r hr hst
      obtain ⟨p', hp', hid', -, hsome'⟩ := ha.keeps.profiles p hp
      exact ⟨p', hp', hid'.trans hid, hsome' hsome⟩
    · exact hnow

/-! ### The statements -/

/-- The rewritten row is stored. -/
theorem mem_of_updateRow {ρ : Type} [Schema ρ] {t t' : Table ρ} {p : ρ → Bool} {f : ρ → ρ} {r : ρ}
    (h : updateRow t p f = .ok t') (hr : r ∈ t.rows) (hp : p r = true) : f r ∈ t'.rows := by
  rw [updateRow_eq_ok h]
  exact List.mem_map.mpr ⟨r, hr, if_pos hp⟩

theorem Keeps.refl (db : Db) : Keeps db db where
  profiles := fun p hp ↦ ⟨p, hp, rfl, rfl, fun h ↦ h⟩
  checks := fun c hc hst ↦ ⟨c, hc, rfl, rfl, hst⟩
  documents := fun d hd htype hin ↦ ⟨d, hd, rfl, htype, hin⟩

theorem Keeps.trans {db₁ : Db} (h : Keeps db db₁) (h' : Keeps db₁ db') : Keeps db db' where
  profiles := by
    intro p hp
    obtain ⟨p₁, hp₁, hid, huser, hsome⟩ := h.profiles p hp
    obtain ⟨p', hp', hid', huser', hsome'⟩ := h'.profiles p₁ hp₁
    exact ⟨p', hp', hid'.trans hid, huser'.trans huser, fun hr ↦ hsome' (hsome hr)⟩
  checks := by
    intro c hc hst
    obtain ⟨c₁, hc₁, hid, htype, hst₁⟩ := h.checks c hc hst
    obtain ⟨c', hc', hid', htype', hst'⟩ := h'.checks c₁ hc₁ hst₁
    exact ⟨c', hc', hid'.trans hid, htype'.trans htype, hst'⟩
  documents := by
    intro d hd htype hin
    obtain ⟨d₁, hd₁, hid, htype₁, hin₁⟩ := h.documents d hd htype hin
    obtain ⟨d', hd', hid', htype', hin'⟩ := h'.documents d₁ hd₁ htype₁ hin₁
    exact ⟨d', hd', hid'.trans hid, htype', hin'⟩

/-- Profiles, checks and documents are left alone. -/
theorem Keeps.of_same (hprofiles : db'.kyc.profiles = db.kyc.profiles)
    (hchecks : db'.kyc.checks = db.kyc.checks) (hdocuments : db'.kyc.documents = db.kyc.documents) :
    Keeps db db' := by
  refine ⟨?_, ?_, ?_⟩
  · rw [hprofiles]
    exact (Keeps.refl db).profiles
  · rw [hchecks]
    exact (Keeps.refl db).checks
  · rw [hdocuments]
    exact (Keeps.refl db).documents

/-- A step that leaves profiles, checks, documents and reviews alone, and takes no evidence. -/
theorem Advances.of_same (hprofiles : db'.kyc.profiles = db.kyc.profiles)
    (hchecks : db'.kyc.checks = db.kyc.checks) (hdocuments : db'.kyc.documents = db.kyc.documents)
    (hreviews : db'.kyc.complianceReviews = db.kyc.complianceReviews)
    (hevidence : ∀ userId, 2 ≤ evidence db userId → evidence db userId ≤ evidence db' userId) :
    Advances db db' where
  keeps := .of_same hprofiles hchecks hdocuments
  gains := hevidence
  profiles := by
    intro p hp
    rw [hprofiles] at hp
    exact .inr ⟨p, hp, rfl, rfl, rfl, fun h ↦ h⟩
  reviews := by
    intro r hr _
    rw [hreviews] at hr
    exact .inl hr

theorem Advances.refl (db : Db) : Advances db db :=
  .of_same rfl rfl rfl rfl fun _ _ ↦ le_rfl

/-- A profile is added, whose tier is backed. -/
theorem createProfile_advances {profile answer : KycProfile}
    (h : createProfile profile db = .ok (answer, db'))
    (hbacked : profile ∈ db'.kyc.profiles.rows →
      evidence db profile.userId ≤ evidence db' profile.userId → Backed db' profile) :
    Advances db db' := by
  obtain ⟨profiles, hins, -, rfl⟩ := createProfile_eq_ok h
  have hrows := insertRow_eq_ok hins
  have hkeeps : Keeps db { db with kyc := { db.kyc with profiles := profiles } } := by
    refine ⟨fun p hp ↦ ⟨p, ?_, rfl, rfl, fun h ↦ h⟩, (Keeps.refl db).checks, (Keeps.refl db).documents⟩
    exact hrows ▸ List.mem_append_left _ hp
  have hevidence := hkeeps.evidence_le rfl rfl rfl
  refine ⟨hkeeps, fun userId _ ↦ hevidence userId, fun p hp ↦ ?_, fun r hr _ ↦ .inl hr⟩
  have hmem : p ∈ profiles.rows := hp
  rw [hrows, List.mem_append, List.mem_singleton] at hmem
  rcases hmem with hmem | rfl
  · exact .inr ⟨p, hmem, rfl, rfl, rfl, fun h ↦ h⟩
  · exact .inl (hbacked hp (hevidence p.userId))

/-- A profile is rewritten: its tier is as before, or is backed. -/
theorem updateProfile_advances {id : Uuid} {write : KycProfile → KycProfile} {u : Unit}
    (h : updateProfile id write db = .ok (u, db'))
    (hwrite : ∀ p, (write p).id = p.id ∧ (write p).userId = p.userId ∧
      (p.restrictedAt.isSome → (write p).restrictedAt.isSome))
    (hbacked : ∀ p ∈ db.kyc.profiles.rows, p.id = id →
      (write p ∈ db'.kyc.profiles.rows → evidence db p.userId ≤ evidence db' p.userId →
        Backed db' (write p)) ∨
        ((write p).tier = p.tier ∧ (isRestricted (write p) = true → isRestricted p = true))) :
    Advances db db' := by
  obtain ⟨profiles, hupdate, rfl⟩ := updateProfile_eq_ok h
  have hrows := updateRow_eq_ok hupdate
  have hkeeps : Keeps db { db with kyc := { db.kyc with profiles := profiles } } := by
    refine ⟨fun p hp ↦ ⟨_, hrows ▸ List.mem_map_of_mem hp, ?_⟩, (Keeps.refl db).checks,
      (Keeps.refl db).documents⟩
    split
    · exact hwrite p
    · exact ⟨rfl, rfl, fun h ↦ h⟩
  have hevidence := hkeeps.evidence_le rfl rfl rfl
  refine ⟨hkeeps, fun userId _ ↦ hevidence userId, fun p' hp' ↦ ?_, fun r hr _ ↦ .inl hr⟩
  have hmem : p' ∈ profiles.rows := hp'
  rw [hrows, List.mem_map] at hmem
  obtain ⟨p, hp, rfl⟩ := hmem
  split
  · next hid =>
      rw [if_pos hid] at hp'
      rcases hbacked p hp (of_decide_eq_true hid) with hb | ⟨htier, hr⟩
      · exact .inl (hb hp' (hevidence p.userId))
      · exact .inr ⟨p, hp, (hwrite p).1, (hwrite p).2.1, htier, hr⟩
  · exact .inr ⟨p, hp, rfl, rfl, rfl, fun h ↦ h⟩

/-- A check is added. -/
theorem createCheck_advances {check : KycCheck} {u : Unit}
    (h : createCheck check db = .ok (u, db')) : Advances db db' := by
  obtain ⟨-, checks, hins, rfl⟩ := createCheck_eq_ok h
  have hkeeps : Keeps db { db with kyc := { db.kyc with checks := checks } } := by
    refine ⟨(Keeps.refl db).profiles, fun c hc hst ↦ ⟨c, ?_, rfl, rfl, hst⟩, (Keeps.refl db).documents⟩
    exact insertRow_eq_ok hins ▸ List.mem_append_left _ hc
  exact ⟨hkeeps, fun userId _ ↦ hkeeps.evidence_le rfl rfl rfl userId,
    fun p hp ↦ .inr ⟨p, hp, rfl, rfl, rfl, fun h ↦ h⟩, fun r hr _ ↦ .inl hr⟩

/-- A document takes the place of those before it. -/
theorem storeDocument_advances {ctx : Ctx} {kycProfileId : Uuid} {type : String}
    {document : VerificationDocument} (htype : type ∈ NIN_DOCUMENT_TYPES)
    (h : storeDocument ctx kycProfileId type db = .ok (document, db')) : Advances db db' := by
  obtain ⟨documents, profiles, hins, hupdate, rfl⟩ := storeDocument_eq_ok h
  have hdocuments := insertRow_eq_ok hins
  have hprofiles := updateRow_eq_ok hupdate
  have hrow : ∀ p : KycProfile, (if decide (p.id = kycProfileId) = true then
      { p with submittedAt := some ctx.now } else p) =
        { p with submittedAt := if p.id = kycProfileId then some ctx.now else p.submittedAt } := by
    intro p
    split_ifs <;> simp_all
  have hkeeps : Keeps db { db with kyc := { db.kyc with
      documents := documents, profiles := profiles } } := by
    refine ⟨fun p hp ↦ ⟨_, hprofiles ▸ List.mem_map_of_mem hp, ?_⟩, (Keeps.refl db).checks,
      fun d hd hdtype hin ↦ ?_⟩
    · rw [hrow]
      exact ⟨rfl, rfl, fun h ↦ h⟩
    · by_cases hid : d.kycProfileId = kycProfileId
      · refine ⟨⟨ctx.uuid 1, kycProfileId, type, none⟩, ?_, hid.symm, htype, rfl⟩
        exact hdocuments ▸ List.mem_append_right _ (List.mem_singleton_self _)
      · refine ⟨d, ?_, rfl, hdtype, hin⟩
        refine hdocuments ▸ List.mem_append_left _ (List.mem_map.mpr ⟨d, hd, if_neg ?_⟩)
        simp [hid]
  refine ⟨hkeeps, fun userId _ ↦ hkeeps.evidence_le rfl rfl rfl userId, fun p' hp' ↦ ?_,
    fun r hr _ ↦ .inl hr⟩
  have hp' : p' ∈ profiles.rows := hp'
  rw [hprofiles, List.mem_map] at hp'
  obtain ⟨p, hp, rfl⟩ := hp'
  rw [hrow]
  exact .inr ⟨p, hp, rfl, rfl, rfl, fun h ↦ h⟩

/-- The level that a sync read, on a profile that has not been restricted since. -/
theorem writeTier_advances {ctx : Ctx} {level : Nat} {existing : Option KycProfile} {u : Unit}
    (hlevel : 2 ≤ level → level ≤ evidence db userId)
    (hfree : 2 ≤ level → (readKycFacts db userId).restricted = false)
    (hexisting : ∀ e, existing = some e → ∃ p ∈ db.kyc.profiles.rows, p.id = e.id ∧ p.userId = userId)
    (h : writeTier ctx userId level existing db = .ok (u, db')) : Advances db db' := by
  cases existing with
  | none =>
      simp only [writeTier, bind_eq_ok, pure_eq_ok, Prod.mk.injEq] at h
      obtain ⟨⟨answer, db₁⟩, h, -, rfl⟩ := h
      refine createProfile_advances h fun hmem hle htwo ↦ ?_
      have htier := tierLevel_tierForLevel_le htwo
      rw [completedLevel_readKycFacts hmem]
      exact htier.trans ((hlevel (htwo.trans htier)).trans hle)
  | some e =>
      obtain ⟨p₀, hp₀, hid₀, rfl⟩ := hexisting e rfl
      refine updateProfile_advances h (fun p ↦ ⟨rfl, rfl, fun h ↦ h⟩) fun p hp hid ↦ .inl ?_
      intro hmem hle htwo
      have hpp : p = p₀ := db.kyc.profiles.eq_of_clash hp hp₀ (.inl (hid.trans hid₀.symm))
      subst hpp
      have htier := tierLevel_tierForLevel_le htwo
      have hlevels := hlevel (htwo.trans htier)
      have hrestricted : isRestricted p = false := by
        rw [← restricted_readKycFacts hp]
        exact hfree (htwo.trans htier)
      have hwritten : isRestricted (syncProfile ctx.now level
          ((level = 3 && e.status ≠ .requiresReview) && e.status ≠ .verified) p) = false := by
        rw [isRestricted, Bool.or_eq_false_iff] at hrestricted ⊢
        refine ⟨?_, hrestricted.2⟩
        rw [syncProfile]
        split
        · rfl
        · exact hrestricted.1
      rw [completedLevel_readKycFacts hmem, hwritten, if_neg Bool.false_ne_true]
      exact htier.trans (hlevels.trans hle)

/-- The database in which a decision computes the level. -/
def withChecks (db : Db) (checks : Table KycCheck) : Db :=
  { db with kyc := { db.kyc with checks := checks } }

/-- A decision passes checks that were held or fails them; what was passed stays. -/
theorem keeps_of_decision {ctx : Ctx} {reviewerId kycProfileId : Uuid}
    {decision : KycReviewDecision} {tier : KycTier} {checks : Table KycCheck}
    (h : checksAfterDecision ctx db reviewerId kycProfileId decision tier = .ok checks) :
    Keeps db (withChecks db checks) where
  profiles := (Keeps.refl db).profiles
  checks := by
    intro c hc hst
    obtain ⟨f, hrows, hf⟩ := mem_checksAfterDecision h
    refine ⟨c, ?_, rfl, rfl, hst⟩
    rcases (hf c hc).2 with heq | ⟨hheld, -⟩
    · show c ∈ checks.rows
      rw [hrows]
      exact List.mem_map.mpr ⟨c, hc, heq⟩
    · have hpending := of_decide_eq_true (List.mem_filter.mp hheld).2
      rw [hst] at hpending
      cases hpending
  documents := (Keeps.refl db).documents

/-- A review that ends with a rejection is one of this profile's. -/
theorem mem_recordReview {ctx : Ctx} {reviews reviews' : Table ComplianceReview}
    {reviewerId kycProfileId : Uuid} {decision : KycReviewDecision} {reason : String}
    (h : recordReview ctx reviews reviewerId kycProfileId decision reason = .ok reviews')
    {r : ComplianceReview} (hr : r ∈ reviews'.rows) (hst : r.status = .rejected) :
    r ∈ reviews.rows ∨ (r.kycProfileId = kycProfileId ∧ decision = .reject) := by
  have hdecision : reviewStatusForDecision decision = .rejected → decision = .reject := by
    cases decision with
    | reject => exact fun _ ↦ rfl
    | approve | requestInformation | escalate => exact nofun
  unfold recordReview at h
  split at h
  · next review hhead =>
      have hof : review ∈ reviews.rows ∧ review.kycProfileId = kycProfileId := by
        have hmem := (List.mem_insertionSort _).mp (List.mem_of_mem_head? hhead)
        obtain ⟨hmem, hp⟩ := Table.mem_findMany.mp hmem
        exact ⟨hmem, of_decide_eq_true (Bool.and_eq_true_iff.mp hp).1⟩
      rw [updateRow_eq_ok h, List.mem_map] at hr
      obtain ⟨x, hx, rfl⟩ := hr
      split at hst
      · next hid =>
          rw [if_pos hid]
          have hxr : x = review := reviews.eq_of_clash hx hof.1 (of_decide_eq_true hid)
          subst hxr
          exact .inr ⟨hof.2, hdecision hst⟩
      · next hid =>
          rw [if_neg hid]
          exact .inl hx
  · rw [insertRow_eq_ok h, List.mem_append, List.mem_singleton] at hr
    rcases hr with hr | rfl
    · exact .inl hr
    · exact .inr ⟨rfl, hdecision hst⟩

theorem restrictedAt_decideProfile {now : Timestamp} {decision : KycReviewDecision} {level : Nat}
    {p : KycProfile} (h : p.restrictedAt.isSome) :
    (decideProfile now decision level p).restrictedAt.isSome := by
  show (if decision = .reject then some now else p.restrictedAt).isSome
  split
  · rfl
  · exact h

theorem decideProfile_restricted {now : Timestamp} {decision : KycReviewDecision} {level : Nat}
    {p : KycProfile} (hp : isRestricted p = false) (hdecision : decision ≠ .reject) :
    isRestricted (decideProfile now decision level p) = false := by
  rw [isRestricted, Bool.or_eq_false_iff] at hp ⊢
  rw [decideProfile, if_neg hdecision]
  refine ⟨?_, hp.2⟩
  cases decision with
  | reject => exact absurd rfl hdecision
  | approve | requestInformation | escalate => rfl

/-- The level of a decision is computed after it, in its own transaction. -/
theorem decideReview_advances {ctx : Ctx} {reviewerId kycProfileId : Uuid}
    {decision : KycReviewDecision} {reason : String} {tier : Option KycTier} {profile : KycProfile}
    (h : decideReview ctx db reviewerId kycProfileId decision reason tier = .ok (profile, db')) :
    Advances db db' := by
  obtain ⟨p₀, checks, profiles, reviews, hfind, -, hchecks, hupdate, hreviews, rfl⟩ :=
    decideReview_eq_ok h
  have hp₀ := Table.mem_of_find? hfind
  have hid₀ : p₀.id = kycProfileId := by simpa using Table.prop_of_find? hfind
  have hkeeps₁ := keeps_of_decision hchecks
  have hrows := updateRow_eq_ok hupdate
  have hkeeps₂ : Keeps (withChecks db checks)
      { db with kyc := { db.kyc with
        checks := checks, profiles := profiles, complianceReviews := reviews } } := by
    refine ⟨fun p hp ↦ ⟨_, hrows ▸ List.mem_map_of_mem hp, ?_⟩, (Keeps.refl _).checks,
      (Keeps.refl _).documents⟩
    split
    · exact ⟨rfl, rfl, restrictedAt_decideProfile⟩
    · exact ⟨rfl, rfl, fun h ↦ h⟩
  have hevidence₂ := hkeeps₂.evidence_le rfl rfl rfl
  refine ⟨hkeeps₁.trans hkeeps₂, fun userId _ ↦ ?_, fun p' hp' ↦ ?_, fun r hr hst ↦ ?_⟩
  · exact (hkeeps₁.evidence_le rfl rfl rfl userId).trans (hevidence₂ userId)
  · have hmem : p' ∈ profiles.rows := hp'
    rw [hrows, List.mem_map] at hmem
    obtain ⟨p, hp, rfl⟩ := hmem
    split
    · next hid =>
        rw [if_pos hid] at hp'
        have hpp : p = p₀ := db.kyc.profiles.eq_of_clash hp hp₀
          (.inl ((of_decide_eq_true hid).trans hid₀.symm))
        subst hpp
        refine .inl fun htwo ↦ ?_
        have htier := tierLevel_tierForLevel_le htwo
        have hlevel := htwo.trans htier
        -- A level of two or more was computed for a profile without a restriction.
        have hr := restricted_eq_false hlevel
        obtain ⟨hfree, hdecision⟩ := Bool.or_eq_false_iff.mp hr
        have hunrestricted : isRestricted p = false :=
          (restricted_readKycFacts hp).symm.trans hfree
        rw [completedLevel_readKycFacts hp',
          decideProfile_restricted hunrestricted (of_decide_eq_false hdecision),
          if_neg Bool.false_ne_true]
        refine htier.trans (le_trans (le_of_eq ?_) (hevidence₂ p.userId))
        exact congrArg (fun restricted ↦ completedLevel
          { readKycFacts (withChecks db checks) p.userId with restricted := restricted }) hr
    · exact .inr ⟨p, hp, rfl, rfl, rfl, fun h ↦ h⟩
  · rcases mem_recordReview hreviews hr hst with hold | ⟨hof, hreject⟩
    · exact .inl hold
    · have hdecided := mem_of_updateRow hupdate hp₀ (decide_eq_true hid₀)
      refine .inr ⟨_, hdecided, hid₀.trans hof.symm, ?_⟩
      show (if decision = .reject then some ctx.now else p₀.restrictedAt).isSome
      rw [if_pos hreject]
      rfl

/-! ### The details -/

/-- The details of stage 1 are there. -/
def basicInfoComplete (p : UserProfile) : Bool :=
  present p.firstName && present p.lastName && p.dateOfBirth.isSome && p.gender.isSome &&
    present p.occupation

/-- Details are written that still complete stage 1, if the user is past it. -/
theorem updateUserProfile_advances {write : UserProfile → UserProfile} {u : Unit}
    (hwrite : ∀ p, (write p).userId = p.userId)
    (hcomplete : 2 ≤ evidence db userId → ∀ p ∈ db.kyc.userProfiles.rows, p.userId = userId →
      basicInfoComplete (write p) = true)
    (h : updateUserProfile userId write db = .ok (u, db')) : Advances db db' := by
  obtain ⟨userProfiles, hupdate, rfl⟩ := updateUserProfile_eq_ok h
  refine .of_same rfl rfl rfl rfl fun user htwo ↦ ?_
  have hkeeps : Keeps db { db with kyc := { db.kyc with userProfiles := userProfiles } } :=
    .of_same rfl rfl rfl
  refine (hkeeps.supports (fun h ↦ h) (fun hbasic ↦ ?_) fun h ↦ h).evidence_le
  have hbasic : (userProfileOf db user).any basicInfoComplete = true := hbasic
  rw [Option.any_eq_true] at hbasic
  obtain ⟨p, hfind, hp⟩ := hbasic
  have hfind' : userProfiles.find? (fun x ↦ x.userId = user) = some
      (if decide (p.userId = userId) = true then write p else p) := by
    rw [Table.find?_of_rows (updateRow_eq_ok hupdate) fun x _ ↦ by rw [hwrite x]]
    exact congrArg (Option.map _) hfind
  show (userProfiles.find? fun x ↦ x.userId = user).any basicInfoComplete = true
  rw [hfind', Option.any_some]
  split
  · next hid =>
      have huser : p.userId = user := by simpa using Table.prop_of_find? hfind
      have hid : p.userId = userId := of_decide_eq_true hid
      rw [← huser, hid] at htwo
      exact hcomplete htwo p (Table.mem_of_find? hfind) hid
  · exact hp

/-! ## Requests in time -/

variable {v v' : Verification} {t : Thread}

/-- What a request under way has read and still relies on. -/
def Standing (v : Verification) : Thread → Prop
  | .documentProfile _ dto | .documentResult _ dto _ => dto.type ∈ NIN_DOCUMENT_TYPES
  | .statusProfile userId level | .syncProfile userId level =>
      2 ≤ level → level ≤ evidence v.db userId
  | .syncWrite userId level existing => (2 ≤ level → level ≤ evidence v.db userId) ∧
      ∀ e, existing = some e → ∃ p ∈ v.db.kyc.profiles.rows, p.id = e.id ∧ p.userId = userId
  | _ => True

/-- No sync writes a second or third stage once the profile has been restricted, and nobody past the
first stage is left without a name or an occupation. -/
structure InTime (v : Verification) (t : Thread) : Prop where
  sync : ∀ userId level existing, t = .syncWrite userId level existing → 2 ≤ level →
    (readKycFacts v.db userId).restricted = false
  details : ∀ userId write, t.details = some (userId, write) → 2 ≤ evidence v.db userId →
    ∀ p ∈ v.db.kyc.userProfiles.rows, p.userId = userId → basicInfoComplete (write p) = true
  elsewhere : ∀ db', t = .elsewhere db' → Elsewhere v.db db'

theorem Elsewhere.advances (h : Elsewhere db db') : Advances db db' := by
  refine .of_same h.profiles h.checks h.documents h.complianceReviews fun userId _ ↦ ?_
  have hkeeps : Keeps db db' := .of_same h.profiles h.checks h.documents
  refine (hkeeps.supports (h.active userId) ?_ (h.pins userId)).evidence_le
  simp only [readKycFacts, h.userProfiles]
  exact fun h ↦ h

/-- Every step that is in time advances tiers and evidence together. -/
theorem Effect.advances (he : Effect host told v t v') (hstanding : Standing v t)
    (hin : InTime v t) : Advances v.db v'.db := by
  cases he with
  | idle => exact .refl v.db
  | sent => exact .refl v.db
  | profileCreated _ htier h =>
      refine createProfile_advances h fun _ _ htwo ↦ ?_
      rw [htier] at htwo
      exact absurd htwo (by decide)
  | profileMarked _ hwrite h =>
      rcases hwrite with rfl | rfl
      · refine updateProfile_advances h (fun _ ↦ ⟨rfl, rfl, fun h ↦ h⟩) fun p _ _ ↦ .inr ⟨rfl, ?_⟩
        intro hr
        exact Bool.or_eq_true_iff.mpr (.inr (by simpa [isRestricted, markRequiresReview] using hr))
      · refine updateProfile_advances h (fun _ ↦ ⟨rfl, rfl, fun h ↦ h⟩) fun p _ _ ↦ .inr ⟨rfl, ?_⟩
        intro hr
        exact Bool.or_eq_true_iff.mpr (.inr (by simpa [isRestricted, submitForReview] using hr))
  | accountLinked => exact .of_same rfl rfl rfl rfl fun _ _ ↦ le_rfl
  | checkStored _ _ h => exact createCheck_advances h
  | identityStored _ h => exact createCheck_advances h
  | documentStored _ h hof =>
      obtain ⟨userId, dto, rfl, rfl⟩ := hof
      exact storeDocument_advances hstanding h
  | detailsWritten ht h =>
      exact updateUserProfile_advances (Thread.userId_of_details ht) (hin.details _ _ ht) h
  | tierWritten h =>
      exact writeTier_advances hstanding.1 (hin.sync _ _ _ rfl) hstanding.2 h
  | decided h => exact decideReview_advances h
  | elsewhere => exact (hin.elsewhere _ rfl).advances

/-- What a request relies on outlasts the steps of others. -/
theorem Standing.advance (h : Standing v t) (ha : Advances v.db v'.db) : Standing v' t := by
  have hlevel : ∀ {userId : Uuid} {level : Nat}, (2 ≤ level → level ≤ evidence v.db userId) →
      2 ≤ level → level ≤ evidence v'.db userId := by
    intro userId level hle htwo
    exact (hle htwo).trans (ha.gains userId (htwo.trans (hle htwo)))
  cases t with
  | documentProfile | documentResult => exact h
  | statusProfile | syncProfile => exact hlevel h
  | syncWrite userId level existing =>
      refine ⟨hlevel h.1, fun e he ↦ ?_⟩
      obtain ⟨p, hp, hid, huser⟩ := h.2 e he
      obtain ⟨p', hp', hid', huser', -⟩ := ha.keeps.profiles p hp
      exact ⟨p', hp', hid'.trans hid, huser'.trans huser⟩
  | _ => trivial

theorem completedLevel_le_evidence (db : Db) (userId : Uuid) :
    completedLevel (readKycFacts db userId) ≤ evidence db userId :=
  Supports.completedLevel_le ⟨fun h ↦ h, fun h ↦ h, fun h ↦ h, fun h ↦ h, fun h ↦ h, fun h ↦ h⟩ rfl

/-- A request goes on with what it has just read. -/
theorem standing_exec {t' : Thread} (hstanding : Standing v t)
    (h : (exec host told v t).2 = some t') : Standing (exec host told v t).1 t' := by
  cases t with
  | document userId dto =>
      obtain ⟨_, hok, hnext⟩ := Verification.next_of_read h
      cases hnext
      simp only [assertDocumentReadable, bind_eq_ok, require_eq_ok, exists_const] at hok
      exact List.contains_iff_mem.mp hok.1
  | documentProfile userId dto =>
      obtain ⟨_, _, -, hnext, -⟩ := Verification.next_of_write h
      cases hnext
      exact hstanding
  | status userId =>
      cases h
      exact fun _ ↦ completedLevel_le_evidence v.db userId
  | sync userId =>
      cases h
      exact fun _ ↦ completedLevel_le_evidence v.db userId
  | statusProfile userId level =>
      have h : (if _ then some (Thread.syncProfile userId level) else none) = some t' := h
      split at h
      · cases h
        exact hstanding
      · cases h
  | syncProfile userId level =>
      have h : (if syncNeeded level (profileOf v.db userId) = true then
        some (Thread.syncWrite userId level (profileOf v.db userId)) else none) = some t' := h
      split at h
      · cases h
        refine ⟨hstanding, fun e he ↦ ?_⟩
        obtain ⟨hp, huser⟩ := profileOf_eq_some.mp he
        exact ⟨e, hp, rfl, huser⟩
      · cases h
  | identity | identityName | bank | address | addressSave =>
      obtain ⟨_, -, hnext⟩ := Verification.next_of_read h
      cases hnext
      trivial
  | identityProfile | bankProfile | addressProfile | bankAccount | bankResult | documentResult
  | hold | basicInfo | personalDetails =>
      obtain ⟨_, _, -, hnext, -⟩ := Verification.next_of_write h
      cases hnext
      trivial
  | exhausted | profile | syncWrite =>
      obtain ⟨_, _, -, hnext, -⟩ := Verification.next_of_write h
      cases hnext
  | identityBudget userId dto kycProfileId =>
      rcases next_of_budget h with rfl | ⟨_, rfl, -⟩
      · trivial
      · trivial
  | addressBudget userId dto kycProfileId =>
      rcases next_of_budget h with rfl | ⟨_, rfl, -⟩
      · trivial
      · trivial
  | identityLookup =>
      obtain ⟨_, -, hnext⟩ := Verification.next_of_read h
      cases hnext
      trivial
  | identityResult userId dto kycProfileId lookup profile outcome =>
      rcases next_of_storeIdentity h with rfl | rfl
      · trivial
      · trivial
  | addressResult userId dto kycProfileId ninCheck =>
      obtain ⟨_, _, -, hnext, -⟩ := Verification.next_of_write h
      rcases next_of_afterAddress hnext with rfl | rfl
      · trivial
      · trivial
  | addressRecord | review =>
      cases h
      trivial
  | decide reviewerId kycProfileId decision reason tier seen =>
      rw [exec, next_of_storeDecision] at h
      cases h
  | elsewhere db' => cases h

/-- However the requests of users and reviewers interleave, as long as no sync writes a second or
third stage for a profile that was restricted after it had read the facts, and nobody past the first
stage is left without a name or an occupation: a stored tier never stands for more stages than the
evidence completes, a rejected profile is never stored as verified with the third tier, and no
coordinator is approved whose evidence does not complete all three stages. -/
theorem tiers_backed {start q : Pool Verification Thread} (hstart : TiersBacked start.shared.db)
    (hidle : start.threads = [])
    (hrun : Reaches (Pool.advance (exec host)) (Pool.Admitted (fun _ t ↦ t.isRequest = true)
      fun _ v t ↦ InTime v t) start q) :
    (∀ p ∈ q.shared.db.kyc.profiles.rows,
      (p.tier = .tier2 → 2 ≤ completedLevel (readKycFacts q.shared.db p.userId)) ∧
      (p.tier = .tier3 → 3 ≤ completedLevel (readKycFacts q.shared.db p.userId)) ∧
      (Rejected q.shared.db p → ¬ (p.status = .verified ∧ p.tier = .tier3))) ∧
    ∀ ctx desk reviewerId applicationId dto userId desk', desk.db = q.shared.db →
      Food.approveApplication ctx desk reviewerId applicationId dto = .ok (userId, desk') →
        3 ≤ completedLevel (readKycFacts q.shared.db userId) := by
  have hholds : Pool.Holds (fun v : Verification ↦ TiersBacked v.db) Standing q := by
    refine Pool.invariant_of_guarantees hrun ⟨hstart, fun t ht ↦ ?_⟩ ?_ ?_
    · rw [hidle] at ht
      cases ht
    · intro v t _ hstarts
      cases t with
      | identity | bank | document | address | basicInfo | personalDetails | profile | status
      | review | elsewhere => trivial
      | _ => cases hstarts
    · intro o v t hv ht hin
      have ha := (exec_effect host o v t).advances ht hin
      exact ⟨hv.advance ha, fun t' ht' ↦ standing_exec ht ht', fun u hu ↦ hu.advance ha⟩
  have hbacked := hholds.shared
  have htier₃ : ∀ p ∈ q.shared.db.kyc.profiles.rows, p.tier = .tier3 →
      3 ≤ completedLevel (readKycFacts q.shared.db p.userId) := by
    intro p hp htier
    have hle := hbacked.tiers p hp
    rw [Backed, htier] at hle
    exact hle (by decide)
  refine ⟨fun p hp ↦ ⟨fun htier ↦ ?_, htier₃ p hp, ?_⟩, ?_⟩
  · have hle := hbacked.tiers p hp
    rw [Backed, htier] at hle
    exact hle (by decide)
  · rintro ⟨r, hr, hid, hst⟩ ⟨-, htier⟩
    obtain ⟨x, hx, hxid, hsome⟩ := hbacked.rejections r hr hst
    have hxp : x = p := q.shared.db.kyc.profiles.eq_of_clash hx hp (.inl (hxid.trans hid))
    subst hxp
    -- A rejection leaves no stage complete.
    have hle := htier₃ x hx htier
    have hrestricted : isRestricted x = true := Bool.or_eq_true_iff.mpr (.inr hsome)
    rw [completedLevel_readKycFacts hx, if_pos hrestricted] at hle
    exact absurd hle (by decide)
  · intro ctx desk reviewerId applicationId dto userId desk' hdesk happrove
    simp only [Food.approveApplication, bind_eq_ok, orThrow_eq_ok, require_eq_ok, pure_eq_ok,
      exists_const, Prod.mk.injEq] at happrove
    obtain ⟨application, -, -, kyc, hkyc, -, -, -, -, -, -, -, -, rfl, -⟩ := happrove
    obtain ⟨hfind, hkyc⟩ := Option.filter_eq_some_iff.mp hkyc
    rw [Food.kycProfileOf, hdesk] at hfind
    obtain ⟨hp, huser⟩ := profileOf_eq_some.mp hfind
    rw [← huser]
    exact htier₃ kyc hp (of_decide_eq_true (Bool.and_eq_true_iff.mp hkyc).2)

/-! ### An applicant at the second stage -/

section Sample

/-- The NIN has passed, and the document is there. -/
def secondStage : KycTables :=
  { verifiedUser with
    profiles := ⟨[⟨.ofNat 4, .ofNat 1, .pending, .tier2, 2, some 0, none, none⟩], by decide⟩
    checks := ⟨[⟨.ofNat 5, .ofNat 4, .nin, "provider", none, .passed, "", none,
      some (.registeredAddress sampleAddress), none, [], none, some 0, 0⟩], by decide⟩ }

/-- The applicant verifies the address on the record, up to the point at which the facts are read. -/
def sampleFactsRead : List (Move Thread Told) :=
  .spawn (.address (.ofNat 1) ⟨"12 Allen Avenue", "Ikeja", none, "Lagos"⟩) :: sampleSteps 0 1 7

/-- A reviewer rejects the profile. -/
def sampleRejection : List (Move Thread Told) :=
  .spawn (.review (.ofNat 9) (.ofNat 4) .reject "Not this person" none) :: sampleSteps 1 20 2

/-- The tier is written, after the facts were read and the profile was rejected. -/
def sampleOutrun : Pool Verification Thread :=
  sampleRun secondStage (sampleFactsRead ++ sampleRejection ++ sampleSteps 0 30 2)

instance (db : Db) (p : KycProfile) : Decidable (Backed db p) := inferInstanceAs (Decidable (_ → _))

instance (db : Db) (p : KycProfile) : Decidable (Rejected db p) :=
  inferInstanceAs (Decidable (∃ r ∈ _, _ ∧ _))

theorem secondStage_backed : TiersBacked (samplePlatform secondStage).shared.db :=
  ⟨by decide +kernel, nofun⟩

/-- The check that a step is in time, for the requests that write no details. -/
def Thread.isInTime (v : Verification) : Thread → Bool
  | .syncWrite userId level _ => level < 2 || !(readKycFacts v.db userId).restricted
  | .elsewhere _ => false
  | t => t.details.isNone

theorem inTime_of_isInTime (h : t.isInTime v = true) : InTime v t := by
  cases t with
  | syncWrite userId level existing =>
      refine ⟨fun _ _ _ heq htwo ↦ ?_, fun _ _ h ↦ (nomatch h), fun _ h ↦ (nomatch h)⟩
      cases heq
      rcases Bool.or_eq_true_iff.mp h with hlow | hfree
      · exact absurd (of_decide_eq_true hlow) (Nat.not_lt.mpr htwo)
      · simpa using hfree
  | basicInfo | personalDetails | profile | elsewhere => cases h
  | _ => exact ⟨fun _ _ _ h ↦ (nomatch h), fun _ _ h ↦ (nomatch h), fun _ h ↦ (nomatch h)⟩

/-- Undisturbed, the applicant reaches the third tier. -/
theorem tiers_backed_sample :
    (∃ p ∈ (sampleRun secondStage (sampleFactsRead ++ sampleSteps 0 30 2)).shared.db.kyc.profiles.rows,
      p.status = .verified ∧ p.tier = .tier3) ∧
    ∀ p ∈ (sampleRun secondStage (sampleFactsRead ++ sampleSteps 0 30 2)).shared.db.kyc.profiles.rows,
      p.tier = .tier3 → 3 ≤ completedLevel
        (readKycFacts (sampleRun secondStage (sampleFactsRead ++ sampleSteps 0 30 2)).shared.db
          p.userId) := by
  have hrun : Reaches (Pool.advance (exec sampleHost))
      (Pool.Admitted (fun _ t ↦ t.isRequest = true) fun _ v t ↦ t.isInTime v = true)
      (samplePlatform secondStage) (sampleRun secondStage (sampleFactsRead ++ sampleSteps 0 30 2)) := by
    refine reaches_of_allAdmitted ?_
    decide +kernel
  have hthird : ∃ p ∈ (sampleRun secondStage
      (sampleFactsRead ++ sampleSteps 0 30 2)).shared.db.kyc.profiles.rows,
      p.status = .verified ∧ p.tier = .tier3 := by
    decide +kernel
  generalize sampleRun secondStage (sampleFactsRead ++ sampleSteps 0 30 2) = q at hrun hthird ⊢
  have hin : Reaches (Pool.advance (exec sampleHost))
      (Pool.Admitted (fun _ t ↦ t.isRequest = true) fun _ v t ↦ InTime v t)
      (samplePlatform secondStage) q := by
    refine hrun.mono fun s m hm ↦ ?_
    cases m with
    | spawn t => exact hm
    | run i o => exact fun t ht ↦ inTime_of_isInTime (hm t ht)
    | stop i => trivial
  exact ⟨hthird, fun p hp ↦ ((tiers_backed secondStage_backed rfl hin).1 p hp).2.1⟩

/-- The application of the applicant to become a coordinator. -/
def sampleCoordinatorDesk (db : Db) : CoordinatorDesk :=
  { CoordinatorDesk.opening db with
    applications := ⟨[Food.submitted 0 (Food.newApplication (sampleTold 50 true "").ctx (.ofNat 1)
      Food.sampleApplication)], by decide⟩ }

/-- A rejection that commits between the reads of a sync is overwritten: the profile is stored as
verified with the third tier, no stage counts, and the applicant is approved as a coordinator. -/
theorem rejection_overwritten :
    TiersBacked (samplePlatform secondStage).shared.db ∧
    Reaches (Pool.advance (exec sampleHost))
      (Pool.Admitted (fun _ t ↦ t.isRequest = true) fun _ _ _ ↦ True)
      (samplePlatform secondStage) sampleOutrun ∧
    (∃ p ∈ sampleOutrun.shared.db.kyc.profiles.rows, p.status = .verified ∧ p.tier = .tier3 ∧
      Rejected sampleOutrun.shared.db p ∧
        completedLevel (readKycFacts sampleOutrun.shared.db p.userId) = 0) ∧
    ∃ answer, Food.approveApplication ⟨0, fun k ↦ .ofNat (2000 + k)⟩
      (sampleCoordinatorDesk sampleOutrun.shared.db) (.ofNat 9) (.ofNat 1500) Food.sampleApproval =
        .ok answer := by
  refine ⟨secondStage_backed, reaches_of_allAdmitted ?_, by decide +kernel, ?_⟩
  · decide +kernel
  · rw [exists_eq_ok_iff]
    decide +kernel

end Sample

end AjoCloud.Kyc
