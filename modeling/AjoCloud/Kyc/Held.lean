import AjoCloud.Kyc.Personas
import AjoCloud.Kyc.Rejections
import AjoCloud.Lib.Sorting

/-!
# Checks that are held for a reviewer

A check that is held puts its profile before a reviewer, who passes it or fails it.  An approval passes
only the checks that its tier rests on, and closes the profile to review all the same.
-/

namespace AjoCloud.Kyc

open Lib ServiceError

variable {host : Host} {provider : IdentityProvider} {ctx : Ctx} {db db' : Db} {userId id : Uuid}
  {checks : List KycCheck} {check : KycCheck} {p : KycProfile} {q : VerificationType → Bool}

/-! ## Pending states -/

/-- The check has not been concluded. -/
def isOpen (check : KycCheck) : Prop := check.status = .pending ∨ check.status = .processing

/-- Nothing passed, and the latest attempt is open. -/
theorem stateOf_eq_pending : stateOf checks = .pending ↔ (∀ c ∈ checks, c.status ≠ .passed) ∧
    ∃ c, (checks.insertionSort fun a b ↦ b.createdAt ≤ a.createdAt).head? = some c ∧ isOpen c := by
  unfold stateOf
  split
  · next h =>
      obtain ⟨c, hc, hst⟩ := List.any_eq_true.mp h
      exact ⟨nofun, fun hnone ↦ absurd (of_decide_eq_true hst) (hnone.1 c hc)⟩
  · next h =>
      have hnone : ∀ c ∈ checks, c.status ≠ .passed := by
        intro c hc hst
        exact h (List.any_eq_true.mpr ⟨c, hc, decide_eq_true hst⟩)
      rw [and_iff_right hnone]
      cases hfirst : (checks.insertionSort fun a b ↦ b.createdAt ≤ a.createdAt).head? with
      | none => simp
      | some c =>
          have hc : c ∈ checks := (List.mem_insertionSort _).mp (List.mem_of_mem_head? hfirst)
          have hpassed := hnone c hc
          simp only [isOpen, Option.some.injEq, exists_eq_left']
          cases hst : c.status <;> simp_all

/-- Without a check, nothing is pending. -/
theorem stateOf_nil_ne_pending : stateOf [] ≠ .pending := by decide

/-- The state of one kind of checks of a profile. -/
def stateFor (checks : List KycCheck) (id : Uuid) (q : VerificationType → Bool) : CheckState :=
  stateOf ((checks.filter fun c ↦ c.kycProfileId = id).filter fun c ↦ q c.type)

/-- The kinds of a NIN. -/
def isNin (type : VerificationType) : Bool := type = .nin ∨ type = .vnin

/-- The kind of an address. -/
def isAddress (type : VerificationType) : Bool := type = .address

/-- A NIN or an address of the profile is held. -/
def Held (checks : List KycCheck) (id : Uuid) : Prop :=
  stateFor checks id isNin = .pending ∨ stateFor checks id isAddress = .pending

theorem checksOf_eq (hp : p ∈ db.kyc.profiles.rows) :
    checksOf db p.userId = db.kyc.checks.rows.filter fun c ↦ c.kycProfileId = p.id := by
  have hfind : db.kyc.profiles.find? (fun x ↦ x.userId = p.userId) = some p :=
    profileOf_eq_some.mpr ⟨hp, rfl⟩
  rw [checksOf, hfind]
  rfl

theorem nin_eq_stateFor (hp : p ∈ db.kyc.profiles.rows) :
    (readKycFacts db p.userId).nin = stateFor db.kyc.checks.rows p.id isNin := by
  rw [stateFor, ← checksOf_eq hp]
  rfl

theorem address_eq_stateFor (hp : p ∈ db.kyc.profiles.rows) :
    (readKycFacts db p.userId).address = stateFor db.kyc.checks.rows p.id isAddress := by
  rw [stateFor, ← checksOf_eq hp]
  rfl

/-- A check that is added makes pending what was pending, or is open itself. -/
theorem stateFor_concat (h : stateFor (checks ++ [check]) id q = .pending) :
    stateFor checks id q = .pending ∨ (check.kycProfileId = id ∧ q check.type = true ∧ isOpen check) := by
  by_cases hof : check.kycProfileId = id ∧ q check.type = true
  · rw [stateFor, List.filter_append, List.filter_append, List.filter_singleton, hof.1] at h
    simp only [decide_true, cond_true, List.filter_singleton, hof.2] at h
    obtain ⟨hnone, c, hfirst, hopen⟩ := stateOf_eq_pending.mp h
    have : Std.Total fun a b : KycCheck ↦ b.createdAt ≤ a.createdAt :=
      ⟨fun a b ↦ le_total b.createdAt a.createdAt⟩
    have : IsTrans KycCheck fun a b ↦ b.createdAt ≤ a.createdAt := ⟨fun _ _ _ h h' ↦ h'.trans h⟩
    obtain rfl | hold := head?_of_concat hfirst
    · exact .inr ⟨hof.1, hof.2, hopen⟩
    · exact .inl (stateOf_eq_pending.mpr ⟨fun x hx ↦ hnone x (List.mem_append_left _ hx), c, hold, hopen⟩)
  · refine .inl ?_
    rw [stateFor, List.filter_append, List.filter_append] at h
    have hnil : ([check].filter fun c ↦ c.kycProfileId = id).filter (fun c ↦ q c.type) = [] := by
      rw [List.filter_filter, List.filter_eq_nil_iff]
      intro c hc
      rw [List.mem_singleton.mp hc]
      simpa [and_comm] using hof
    rw [hnil, List.append_nil] at h
    exact h

/-- What is pending after checks were rewritten was pending before, on a check that was left alone. -/
theorem stateFor_map {f : KycCheck → KycCheck}
    (hf : ∀ c, (f c).kycProfileId = c.kycProfileId ∧ (f c).type = c.type ∧
      (f c).createdAt = c.createdAt)
    (hpassed : ∀ c, c.status = .passed → (f c).status = .passed)
    (hopen : ∀ c, isOpen (f c) → f c = c) (h : stateFor (checks.map f) id q = .pending) :
    stateFor checks id q = .pending ∧ ∃ c ∈ checks, c.kycProfileId = id ∧ q c.type = true ∧
      isOpen c ∧ f c = c := by
  have hfilter : ((checks.map f).filter fun c ↦ c.kycProfileId = id).filter (fun c ↦ q c.type) =
      ((checks.filter fun c ↦ c.kycProfileId = id).filter fun c ↦ q c.type).map f := by
    rw [List.filter_map, List.filter_map]
    simp only [Function.comp_def, (hf _).1, (hf _).2.1]
  rw [stateFor, hfilter] at h
  obtain ⟨hnone, x, hfirst, hx⟩ := stateOf_eq_pending.mp h
  have hsorted (l : List KycCheck) :
      (l.map f).insertionSort (fun a b ↦ b.createdAt ≤ a.createdAt) =
        (l.insertionSort fun a b ↦ b.createdAt ≤ a.createdAt).map f :=
    (List.map_insertionSort _ _ f l fun a _ b _ ↦ by rw [(hf a).2.2, (hf b).2.2]).symm
  rw [hsorted, List.head?_map, Option.map_eq_some_iff] at hfirst
  obtain ⟨c, hfirst, rfl⟩ := hfirst
  have hsame := hopen c hx
  rw [hsame] at hx
  have hmem := (List.mem_insertionSort _).mp (List.mem_of_mem_head? hfirst)
  simp only [List.mem_filter, decide_eq_true_eq] at hmem
  refine ⟨stateOf_eq_pending.mpr ⟨fun y hy hst ↦ ?_, c, hfirst, hx⟩, c, hmem.1.1, hmem.1.2, hmem.2,
    hx, hsame⟩
  exact hnone (f y) (List.mem_map_of_mem hy) (hpassed y hst)

/-! ## Attended checks -/

/-- Whoever has a check that is held is before a reviewer, but for the profiles that are waived. -/
structure Attended (waived : Uuid → Prop) (db : Db) : Prop where
  reviewable : ∀ p ∈ db.kyc.profiles.rows, Held db.kyc.checks.rows p.id → ¬ waived p.id →
    isReviewable p.status = true
  owned : ∀ c ∈ db.kyc.checks.rows, ∃ p ∈ db.kyc.profiles.rows, p.id = c.kycProfileId
  concluded : ∀ c ∈ db.kyc.checks.rows, c.status ≠ .processing

/-- No profile is waived. -/
def nobody : Uuid → Prop := fun _ ↦ False

namespace Attended

variable {waived waived' : Uuid → Prop}

theorem mono (h : Attended waived db) (hwaived : ∀ x, waived x → waived' x) : Attended waived' db :=
  ⟨fun p hp hheld hnot ↦ h.reviewable p hp hheld fun hx ↦ hnot (hwaived _ hx), h.owned, h.concluded⟩

theorem of_same (h : Attended waived db) (hprofiles : db'.kyc.profiles = db.kyc.profiles)
    (hchecks : db'.kyc.checks = db.kyc.checks) : Attended waived db' := by
  refine ⟨?_, ?_, ?_⟩
  · rw [hprofiles, hchecks]
    exact h.reviewable
  · rw [hprofiles, hchecks]
    exact h.owned
  · rw [hchecks]
    exact h.concluded

/-- A profile is created without checks. -/
theorem createProfile {profile answer : KycProfile} (h : Attended waived db)
    (hcreate : Kyc.createProfile profile db = .ok (answer, db')) : Attended waived db' := by
  obtain ⟨profiles, hinsert, -, rfl⟩ := createProfile_eq_ok hcreate
  have hrows := insertRow_eq_ok hinsert
  have hunheld : ¬ Held db.kyc.checks.rows profile.id := by
    have hnone : ∀ q, stateFor db.kyc.checks.rows profile.id q ≠ .pending := by
      intro q hpending
      obtain ⟨-, c, hfirst, -⟩ := stateOf_eq_pending.mp hpending
      have hc := (List.mem_insertionSort _).mp (List.mem_of_mem_head? hfirst)
      simp only [List.mem_filter, decide_eq_true_eq] at hc
      obtain ⟨x, hx, hid⟩ := h.owned c hc.1.1
      exact not_clash_of_insertRow hinsert x hx (.inl (hid.trans hc.1.2))
    rintro (hnin | haddress)
    · exact hnone _ hnin
    · exact hnone _ haddress
  refine ⟨fun x hx hheld hnot ↦ ?_, fun c hc ↦ ?_, h.concluded⟩
  · have hx : x ∈ profiles.rows := hx
    rw [hrows, List.mem_append, List.mem_singleton] at hx
    obtain hx | rfl := hx
    · exact h.reviewable x hx hheld hnot
    · exact absurd hheld hunheld
  · obtain ⟨x, hx, hid⟩ := h.owned c hc
    exact ⟨x, hrows ▸ List.mem_append_left _ hx, hid⟩

/-- Profiles are rewritten, and those with held checks are left before a reviewer. -/
theorem of_map (h : Attended waived db) {f : KycProfile → KycProfile}
    (hrows : db'.kyc.profiles.rows = db.kyc.profiles.rows.map f)
    (hchecks : db'.kyc.checks = db.kyc.checks) (hf : ∀ x, (f x).id = x.id)
    (hstatus : ∀ x ∈ db.kyc.profiles.rows, Held db.kyc.checks.rows x.id → ¬ waived' x.id →
      (¬ waived x.id → isReviewable x.status = true) → isReviewable (f x).status = true) :
    Attended waived' db' := by
  refine ⟨fun y hy hheld hnot ↦ ?_, fun c hc ↦ ?_, ?_⟩
  · rw [hrows] at hy
    obtain ⟨x, hx, rfl⟩ := List.mem_map.mp hy
    rw [hf] at hheld hnot
    rw [hchecks] at hheld
    exact hstatus x hx hheld hnot (h.reviewable x hx hheld)
  · rw [hchecks] at hc
    obtain ⟨x, hx, hid⟩ := h.owned c hc
    exact ⟨f x, hrows ▸ List.mem_map_of_mem hx, (hf x).trans hid⟩
  · rw [hchecks]
    exact h.concluded

theorem updateProfile {write : KycProfile → KycProfile} {u : Unit} (h : Attended waived db)
    (hupdate : Kyc.updateProfile id write db = .ok (u, db')) (hwrite : ∀ x, (write x).id = x.id)
    (hwaived : ∀ x, x ≠ id → waived x → waived' x)
    (hstatus : ∀ x ∈ db.kyc.profiles.rows, x.id = id → Held db.kyc.checks.rows x.id →
      (¬ waived x.id → isReviewable x.status = true) → isReviewable (write x).status = true) :
    Attended waived' db' := by
  obtain ⟨profiles, hrow, rfl⟩ := updateProfile_eq_ok hupdate
  refine h.of_map (updateRow_eq_ok hrow) rfl (fun x ↦ ?_) fun x hx hheld hnot hbefore ↦ ?_
  · split
    · exact hwrite x
    · rfl
  · split
    · next hid => exact hstatus x hx (of_decide_eq_true hid) hheld hbefore
    · next hid => exact hbefore fun hx ↦ hnot (hwaived _ (by simpa using hid) hx)

/-- A check is added, and its profile is waived if it is held. -/
theorem createCheck {check : KycCheck} {u : Unit} (h : Attended nobody db)
    (hcreate : Kyc.createCheck check db = .ok (u, db')) (hconcluded : check.status ≠ .processing) :
    Attended (fun x ↦ x = check.kycProfileId ∧ check.status = .pending) db' ∧
      ∃ x ∈ db'.kyc.profiles.rows, x.id = check.kycProfileId := by
  obtain ⟨howner, checks, hinsert, rfl⟩ := createCheck_eq_ok hcreate
  have hrows := insertRow_eq_ok hinsert
  refine ⟨⟨fun x hx hheld hnot ↦ ?_, fun c hc ↦ ?_, fun c hc ↦ ?_⟩, howner⟩
  · have hbefore : ∀ q, stateFor checks.rows x.id q = .pending →
        stateFor db.kyc.checks.rows x.id q = .pending := by
      intro q hpending
      rw [hrows] at hpending
      obtain hold | ⟨hof, -, hopen⟩ := stateFor_concat hpending
      · exact hold
      · exact absurd ⟨hof.symm, hopen.resolve_right hconcluded⟩ hnot
    exact h.reviewable x hx (hheld.imp (hbefore _) (hbefore _)) fun hfalse ↦ hfalse
  · have hc : c ∈ checks.rows := hc
    rw [hrows, List.mem_append, List.mem_singleton] at hc
    obtain hc | rfl := hc
    · exact h.owned c hc
    · exact howner
  · have hc : c ∈ checks.rows := hc
    rw [hrows, List.mem_append, List.mem_singleton] at hc
    obtain hc | rfl := hc
    · exact h.concluded c hc
    · exact hconcluded

/-- A sync verifies a profile only when its NIN and its address have passed. -/
theorem sync {u : Unit} (h : Attended nobody db) (hsync : Kyc.sync ctx userId db = .ok (u, db')) :
    Attended nobody db' := by
  obtain rfl | ⟨answer, hcreate⟩ | ⟨existing, hfind, hupdate⟩ := sync_cases hsync
  · exact h
  · exact h.createProfile hcreate
  · obtain ⟨hmem, rfl⟩ := profileOf_eq_some.mp hfind
    refine h.updateProfile hupdate (fun _ ↦ rfl) (fun _ _ hx ↦ hx) fun x hx hid hheld hbefore ↦ ?_
    have hsame : x = existing := db.kyc.profiles.eq_of_clash hx hmem (.inl hid)
    subst hsame
    have hlevel : completedLevel (readKycFacts db x.userId) ≠ 3 := by
      rw [completedLevel_eq]
      rw [Held, ← nin_eq_stateFor hx, ← address_eq_stateFor hx] at hheld
      split_ifs <;> grind
    simpa [syncProfile, hlevel] using hbefore fun hfalse ↦ hfalse

theorem storeDocument {type : String} {kycProfileId : Uuid} {document : VerificationDocument}
    (h : Attended nobody db) (hstore : Kyc.storeDocument ctx kycProfileId type db = .ok (document, db')) :
    Attended nobody db' := by
  obtain ⟨documents, profiles, -, hupdate, rfl⟩ := storeDocument_eq_ok hstore
  refine h.of_map (updateRow_eq_ok hupdate) rfl (fun x ↦ ?_) fun x _ _ hnot hbefore ↦ ?_
  · split
    · rfl
    · rfl
  · split
    · exact hbefore hnot
    · exact hbefore hnot

theorem upsertLinkedBankAccount {bankName masked digest : String} {u : Unit} (h : Attended nobody db)
    (hlink : Kyc.upsertLinkedBankAccount ctx userId bankName masked digest db = .ok (u, db')) :
    Attended nobody db' :=
  have hkyc := kyc_upsertLinkedBankAccount hlink
  h.of_same (congrArg KycTables.profiles hkyc) (congrArg KycTables.checks hkyc)

end Attended

/-! ## Decisions -/

section Decisions

variable {reviewerId kycProfileId : Uuid} {decision : KycReviewDecision} {tier : KycTier}

theorem decideCheck_same (c : KycCheck) :
    (decideCheck ctx reviewerId kycProfileId decision tier c).kycProfileId = c.kycProfileId ∧
      (decideCheck ctx reviewerId kycProfileId decision tier c).type = c.type ∧
        (decideCheck ctx reviewerId kycProfileId decision tier c).createdAt = c.createdAt := by
  unfold decideCheck
  split
  · cases decision with
    | approve =>
        dsimp only
        split <;> exact ⟨rfl, rfl, rfl⟩
    | reject | requestInformation | escalate => exact ⟨rfl, rfl, rfl⟩
  · exact ⟨rfl, rfl, rfl⟩

/-- A decision leaves a check as it is, or concludes it. -/
theorem decideCheck_cases (ctx : Ctx) (c : KycCheck) :
    decideCheck ctx reviewerId kycProfileId decision tier c = c ∨
      (c.status = .pending ∧
        ((decideCheck ctx reviewerId kycProfileId decision tier c).status = .passed ∨
          (decideCheck ctx reviewerId kycProfileId decision tier c).status = .failed)) := by
  unfold decideCheck
  split
  · next hheld =>
      cases decision with
      | approve =>
          dsimp only
          split
          · exact .inr ⟨hheld.2, .inl rfl⟩
          · exact .inl rfl
      | reject | requestInformation => exact .inr ⟨hheld.2, .inr rfl⟩
      | escalate => exact .inl rfl
  · exact .inl rfl

theorem passed_decideCheck {c : KycCheck} (h : c.status = .passed) :
    (decideCheck ctx reviewerId kycProfileId decision tier c).status = .passed := by
  obtain hsame | ⟨hpending, -⟩ := decideCheck_cases ctx c
  · rw [hsame, h]
  · rw [h] at hpending
    cases hpending

theorem isOpen_decideCheck {c : KycCheck}
    (h : isOpen (decideCheck ctx reviewerId kycProfileId decision tier c)) :
    decideCheck ctx reviewerId kycProfileId decision tier c = c := by
  obtain hsame | ⟨-, hpassed | hfailed⟩ := decideCheck_cases ctx c
  · exact hsame
  · rw [isOpen, hpassed] at h
    exact h.elim nofun nofun
  · rw [isOpen, hfailed] at h
    exact h.elim nofun nofun

/-- A held check of the profile is left alone only by an escalation, or by an approval of a tier that
does not rest on it. -/
theorem left_alone {c : KycCheck} (hof : c.kycProfileId = kycProfileId) (hpending : c.status = .pending)
    (h : decideCheck ctx reviewerId kycProfileId decision tier c = c) :
    decision = .escalate ∨ (decision = .approve ∧ (checkTypesApprovedBy tier).contains c.type = false) := by
  have hstatus := congrArg KycCheck.status h
  unfold decideCheck at hstatus
  rw [if_pos ⟨hof, hpending⟩] at hstatus
  cases decision with
  | approve =>
      refine .inr ⟨rfl, Bool.eq_false_iff.mpr fun htype ↦ ?_⟩
      simp only [htype, if_true, passCheck, hpending] at hstatus
      cases hstatus
  | reject | requestInformation =>
      simp only [failCheck, hpending] at hstatus
      cases hstatus
  | escalate => exact .inl rfl

end Decisions

/-- The approval of a tier that does not rest on a check which is held. -/
def strands (db : Db) : Ctx × Request → Bool
  | (_, .approve _ kycProfileId tier _) =>
      (db.kyc.profiles.find? fun p ↦ p.id = kycProfileId).any fun p ↦
        isReviewable p.status &&
          canGrantTier (tier.getD p.tier) ((openChecks db kycProfileId).map (·.type))
            (hasNinDocument db kycProfileId) &&
          ((readKycFacts db p.userId).nin = .pending && tier.getD p.tier = .tier1 ||
            (readKycFacts db p.userId).address = .pending && tier.getD p.tier ≠ .tier3)
  | _ => false

/-- The types of an approval are those of its tier. -/
theorem tier_of_not_approved {tier : KycTier} {type : VerificationType}
    (h : (checkTypesApprovedBy tier).contains type = false) :
    (isNin type = true → tier = .tier1) ∧ (isAddress type = true → tier ≠ .tier3) := by
  cases tier <;> cases type <;> simp_all [checkTypesApprovedBy, isNin, isAddress]

/-- A decision that strands nothing fails what was held, passes it, or keeps the profile before a
reviewer. -/
theorem Attended.decideReview {reviewerId kycProfileId : Uuid} {decision : KycReviewDecision}
    {reason : String} {tier : Option KycTier} {profile : KycProfile}
    (h : Attended nobody db)
    (hdecide : Kyc.decideReview ctx db reviewerId kycProfileId decision reason tier =
      .ok (profile, db'))
    (hstrands : decision = .approve →
      ∀ text, strands db (ctx, .approve reviewerId kycProfileId tier text) = false) :
    Attended nobody db' := by
  obtain ⟨p, checks, profiles, reviews, hfind, hreviewable, hchecks, hupdate, -, rfl⟩ :=
    decideReview_eq_ok hdecide
  have hp := Table.mem_of_find? hfind
  have hid : p.id = kycProfileId := by simpa using Table.prop_of_find? hfind
  have hcheckRows := rows_checksAfterDecision hchecks
  have hprofileRows := updateRow_eq_ok hupdate
  refine ⟨fun y hy hheld hnot ↦ ?_, fun c hc ↦ ?_, fun c hc ↦ ?_⟩
  · have hy : y ∈ profiles.rows := hy
    rw [hprofileRows, List.mem_map] at hy
    obtain ⟨x, hx, rfl⟩ := hy
    have hheld : Held checks.rows x.id := by
      split at hheld
      · exact hheld
      · exact hheld
    rw [hcheckRows] at hheld
    have hbefore : ∀ q, stateFor (db.kyc.checks.rows.map (decideCheck ctx reviewerId kycProfileId decision
          (tier.getD p.tier))) x.id q = .pending →
        stateFor db.kyc.checks.rows x.id q = .pending ∧ ∃ c ∈ db.kyc.checks.rows,
          c.kycProfileId = x.id ∧ q c.type = true ∧ c.status = .pending ∧
            decideCheck ctx reviewerId kycProfileId decision (tier.getD p.tier) c = c := by
      intro q hpending
      obtain ⟨hold, c, hc, hof, htype, hopen, hsame⟩ := stateFor_map decideCheck_same
        (fun _ ↦ passed_decideCheck) (fun _ ↦ isOpen_decideCheck) hpending
      exact ⟨hold, c, hc, hof, htype, hopen.resolve_right (h.concluded c hc), hsame⟩
    split
    · next hxid =>
        have hxp : x = p :=
          db.kyc.profiles.eq_of_clash hx hp (.inl ((of_decide_eq_true hxid).trans hid.symm))
        subst hxp
        -- The check that is still held was left alone, so the profile stays open to review.
        have hescalates : ∀ q, stateFor (db.kyc.checks.rows.map (decideCheck ctx reviewerId
            kycProfileId decision (tier.getD x.tier))) x.id q = .pending →
            (q = isNin ∨ q = isAddress) → decision = .escalate := by
          intro q hpending hkind
          obtain ⟨hold, c, -, hof, htype, hstatus, hsame⟩ := hbefore q hpending
          obtain hdecision | ⟨rfl, hout⟩ := left_alone (hof.trans hid) hstatus hsame
          · exact hdecision
          · simp only [checksAfterDecision, bind_eq_ok, require_eq_ok, exists_const] at hchecks
            have hnone := hstrands rfl none
            simp only [strands, hfind, Option.any_some, hreviewable, hchecks.1, Bool.true_and,
              Bool.or_eq_false_iff, Bool.and_eq_false_iff, decide_eq_false_iff_not,
              nin_eq_stateFor hx, address_eq_stateFor hx] at hnone
            obtain ⟨hnin, haddress⟩ := tier_of_not_approved hout
            obtain rfl | rfl := hkind
            · exact absurd (hnin htype) (hnone.1.resolve_left fun hfalse ↦ hfalse hold)
            · exact absurd (haddress htype) (hnone.2.resolve_left fun hfalse ↦ hfalse hold)
        have hdecision : decision = .escalate :=
          hheld.elim (fun hnin ↦ hescalates _ hnin (.inl rfl)) fun haddress ↦
            hescalates _ haddress (.inr rfl)
        rw [hdecision]
        rfl
    · exact h.reviewable x hx (hheld.imp (fun hnin ↦ (hbefore _ hnin).1)
        fun haddress ↦ (hbefore _ haddress).1) fun hfalse ↦ hfalse
  · have hc : c ∈ checks.rows := hc
    rw [hcheckRows, List.mem_map] at hc
    obtain ⟨c₀, hc₀, rfl⟩ := hc
    obtain ⟨x, hx, hof⟩ := h.owned c₀ hc₀
    refine ⟨_, hprofileRows ▸ List.mem_map_of_mem hx, ?_⟩
    rw [(decideCheck_same c₀).1, ← hof]
    split
    · rfl
    · rfl
  · have hc : c ∈ checks.rows := hc
    rw [hcheckRows, List.mem_map] at hc
    obtain ⟨c₀, hc₀, rfl⟩ := hc
    obtain hsame | ⟨-, hpassed | hfailed⟩ := decideCheck_cases ctx c₀
    · rw [hsame]
      exact h.concluded c₀ hc₀
    · rw [hpassed]
      simp
    · rw [hfailed]
      simp

/-! ## Requests -/

theorem attends_sync : (Body.call (sync ctx userId) : Statements Unit).Keeps (Attended nobody) :=
  .call fun _ _ _ h hsync ↦ h.sync hsync

theorem attends_ensureKycProfile :
    (Body.call (ensureKycProfile ctx userId) : Statements KycProfile).Keeps (Attended nobody) := by
  refine .call fun s q s' h hensure ↦ ?_
  rw [ensureKycProfile] at hensure
  split at hensure
  · cases hensure
    exact h
  · exact h.createProfile hensure

theorem attends_assertAttemptsRemain {types : List VerificationType} :
    (assertAttemptsRemain ctx id types).Keeps (Attended nobody) := by
  refine .bind (.read _) fun exhausted ↦ .ite (fun _ ↦ .bind ?_ fun _ ↦ .fail _) fun _ ↦ .pure ()
  exact .call fun _ _ _ h hupdate ↦
    h.updateProfile hupdate (fun _ ↦ rfl) (fun _ _ hx ↦ hx) fun _ _ _ _ _ ↦ rfl

/-- A check is stored, and its profile is submitted for review if the check is held. -/
theorem attends_createCheck {α : Type} {check : KycCheck} {body : Statements α} {held : Prop}
    [Decidable held] (hconcluded : check.status ≠ .processing)
    (hheld : held ↔ check.status = .pending) (hbody : body.Keeps (Attended nobody)) :
    (Body.call (createCheck check) >>= fun _ ↦ if held then
      (Body.call (updateProfile check.kycProfileId (submitForReview ctx.now)) >>= fun _ ↦ body)
      else body).Keeps (Attended nobody) := by
  refine Triple.bind (R := fun _ s ↦ Attended (fun x ↦ x = check.kycProfileId ∧ check.status = .pending) s ∧
    ∃ x ∈ s.kyc.profiles.rows, x.id = check.kycProfileId)
      (Triple.call (fun _ h ↦ h) fun _ _ _ h hcreate ↦ h.createCheck hcreate hconcluded) fun _ ↦ ?_
  split
  · next hpending =>
      refine Triple.bind (R := fun _ ↦ Attended nobody) ?_ fun _ ↦ hbody
      refine Triple.call_of ?_ fun s _ s' h hupdate ↦ ?_
      · -- The profile is there, so it is submitted.
        rintro s e ⟨-, x, hx, hxid⟩ hfails
        obtain ⟨profiles, hrow⟩ := exists_updateRow (p := fun x ↦ x.id = check.kycProfileId)
          (f := submitForReview ctx.now) hx (decide_eq_true hxid) fun hclash ↦ hclash
        rw [updateProfile, hrow] at hfails
        cases hfails
      · refine h.1.updateProfile hupdate (fun _ ↦ rfl) (fun x hne hx ↦ hne hx.1) fun _ _ _ _ _ ↦ rfl
  · next hpending =>
      refine hbody.of_imp fun s h ↦ h.1.mono fun x hx ↦ ?_
      exact hpending (hheld.mpr hx.2)

theorem attends_verifyIdentity (dto : VerifyIdentityDto) :
    (verifyIdentity host provider ctx userId dto).Keeps (Attended nobody) := by
  refine .bind (.check _ _) fun _ ↦ .bind (.read _) fun _ ↦ .bind attends_ensureKycProfile fun q ↦
    .bind attends_assertAttemptsRemain fun _ ↦ .bind (.read _) fun profile ↦
      .bind (.read _) fun outcome ↦ attends_createCheck ?_ ?_ ?_
  · simp only [identityCheck]
    split_ifs <;> exact nofun
  · cases hpassed : outcome.passed <;>
      cases hreview : requiresReview host outcome (legalName profile) <;>
        simp_all [identityCheck, requiresReview]
  · exact .bind (.check _ _) fun _ ↦ .bind attends_sync fun _ ↦ .pure _

theorem attends_linkBankAccount (dto : LinkBankAccountDto) :
    (linkBankAccount host provider ctx userId dto).Keeps (Attended nobody) := by
  refine .bind (.check _ _) fun _ ↦ .bind (.read _) fun outcome ↦ .bind (.read _) fun banks ↦
    .bind (.read _) fun accountName ↦ .bind (.read _) fun bankName ↦
      .bind attends_ensureKycProfile fun q ↦ .bind ?_ fun _ ↦ .bind ?_ fun _ ↦
        .bind attends_sync fun _ ↦ .pure _
  · exact .call fun _ _ _ h hlink ↦ h.upsertLinkedBankAccount hlink
  · exact .call fun _ _ _ h hcreate ↦ (h.createCheck hcreate nofun).1.mono fun _ hx ↦ nomatch hx.2

theorem attends_uploadIdentityDocument (dto : UploadIdentityDocumentDto) :
    (uploadIdentityDocument ctx userId dto).Keeps (Attended nobody) := by
  refine .bind (.read _) fun _ ↦ .bind (.read _) fun _ ↦ .bind attends_ensureKycProfile fun q ↦
    .bind ?_ fun document ↦ .bind attends_sync fun _ ↦ .pure _
  exact .call fun _ _ _ h hstore ↦ h.storeDocument hstore

theorem attends_verifyAddress (dto : VerifyAddressDto) :
    (verifyAddress host ctx userId dto).Keeps (Attended nobody) := by
  refine .bind (.read _) fun _ ↦ .bind attends_ensureKycProfile fun q ↦
    .bind attends_assertAttemptsRemain fun _ ↦ .bind (.read _) fun ninCheck ↦
      .bind (.read _) fun _ ↦ attends_createCheck ?_ Iff.rfl ?_
  · show AddressResult.status _ ≠ .processing
    cases addressResult host dto.submitted ninCheck <;> exact nofun
  · cases addressResult host dto.submitted ninCheck with
    | mismatch reason => exact .fail _
    | noAddressOnRecord | matched => exact .bind attends_sync fun _ ↦ .pure _

/-! ## Runs -/

theorem Attended.step {request : Ctx × Request} (h : Attended nobody db)
    (hadmitted : Admitted db request) (hstrands : strands db request = false) :
    Attended nobody (Kyc.step host db request) := by
  have hcommitted {α : Type} {result : Except ServiceError (α × Db)}
      (hkept : ∀ a db', result = .ok (a, db') → Attended nobody db') :
      Attended nobody (AjoCloud.committed db result) := by
    cases result with
    | error e => exact h
    | ok answer => exact hkept answer.1 answer.2 rfl
  obtain ⟨ctx, request⟩ := request
  cases request with
  | verifyIdentity provider userId dto => exact (attends_verifyIdentity dto).holds h
  | linkBankAccount provider userId dto => exact (attends_linkBankAccount dto).holds h
  | uploadIdentityDocument userId dto => exact (attends_uploadIdentityDocument dto).holds h
  | verifyAddress userId dto => exact (attends_verifyAddress dto).holds h
  | sync userId => exact hcommitted fun _ _ hsync ↦ h.sync hsync
  | approve reviewerId kycProfileId tier reason =>
      exact hcommitted fun _ _ hdecide ↦ h.decideReview hdecide fun _ _ ↦ hstrands
  | reject reviewerId kycProfileId reason | requestInformation reviewerId kycProfileId reason
  | escalate reviewerId kycProfileId reason =>
      exact hcommitted fun _ _ hdecide ↦ h.decideReview hdecide nofun
  | elsewhere db' => exact h.of_same hadmitted.1 hadmitted.2

/-- **No check is stranded** as long as no approval leaves out a check that is held: whenever the facts
report the NIN or the address as pending, a reviewer can decide on the profile. -/
theorem no_check_stranded {start : Db} (hstart : start.kyc.checks.rows = [])
    (hrun : Reaches (step host) (fun s r ↦ Admitted s r ∧ strands s r = false) start db)
    (hpending : (readKycFacts db userId).nin = .pending ∨ (readKycFacts db userId).address = .pending) :
    ∃ p, profileOf db userId = some p ∧ isReviewable p.status = true := by
  have hempty : Attended nobody start := by
    refine ⟨fun p _ hheld _ ↦ ?_, ?_, ?_⟩
    · rw [hstart] at hheld
      exact hheld.elim (absurd · stateOf_nil_ne_pending) (absurd · stateOf_nil_ne_pending)
    · rw [hstart]
      exact List.forall_mem_nil _
    · rw [hstart]
      exact List.forall_mem_nil _
  have hattended : Attended nobody db :=
    hrun.invariant hempty fun s r hs hok ↦ hs.step hok.1 hok.2
  cases hfind : profileOf db userId with
  | none =>
      have hnone : checksOf db userId = [] := by
        rw [checksOf]
        simp only [profileOf] at hfind
        rw [hfind]
      simp only [readKycFacts, hnone] at hpending
      exact hpending.elim (absurd · stateOf_nil_ne_pending) (absurd · stateOf_nil_ne_pending)
  | some p =>
      obtain ⟨hp, rfl⟩ := profileOf_eq_some.mp hfind
      rw [nin_eq_stateFor hp, address_eq_stateFor hp] at hpending
      exact ⟨p, rfl, hattended.reviewable p hp hpending fun hfalse ↦ hfalse⟩

/-! ### A NIN that is held -/

section Sample

/-- The NIN of another person is held, and escalated. -/
def sampleHeld : List (Ctx × Request) :=
  [sampleCall 2 (.verifyIdentity (sampleProvider true "Ben Eze") (.ofNat 1) ⟨.nin, "12345678901"⟩),
    sampleCall 3 (.escalate (.ofNat 9) (.ofNat 1020) "Two names")]

/-- The same, and then the profile is approved for the tier that is stored. -/
def sampleApproved : List (Ctx × Request) :=
  sampleHeld ++ [sampleCall 4 (.approve (.ofNat 9) (.ofNat 1020) none none)]

/-- Where the calls lead from a user at the first stage. -/
def sampleKycRun (calls : List (Ctx × Request)) : Db :=
  calls.foldl (step sampleHost) (sampleUsers firstStage)

end Sample

/-- The NIN is held, and the profile is before a reviewer. -/
theorem no_check_stranded_sample : (readKycFacts (sampleKycRun sampleHeld) (.ofNat 1)).nin = .pending ∧
    ∃ p, profileOf (sampleKycRun sampleHeld) (.ofNat 1) = some p ∧ isReviewable p.status = true := by
  have hadmitted : AllAdmitted (step sampleHost) (fun s r ↦ Admitted s r ∧ strands s r = false)
      (sampleUsers firstStage) sampleHeld :=
    ⟨⟨trivial, rfl⟩, ⟨trivial, rfl⟩, trivial⟩
  have hrun : Reaches (step sampleHost) (fun s r ↦ Admitted s r ∧ strands s r = false)
      (sampleUsers firstStage) (sampleKycRun sampleHeld) := reaches_of_allAdmitted hadmitted
  have hpending : (readKycFacts (sampleKycRun sampleHeld) (.ofNat 1)).nin = .pending := by
    decide +kernel
  generalize sampleKycRun sampleHeld = db at hrun hpending ⊢
  exact ⟨hpending, no_check_stranded rfl hrun (.inl hpending)⟩

/-- An approval that names no tier closes the profile to review, and the NIN is still pending. -/
theorem held_nin_stranded :
    (sampleKycRun sampleApproved).kyc.profiles.rows.map (fun p ↦ (p.status, isReviewable p.status)) =
        [(.verified, false)] ∧
      (readKycFacts (sampleKycRun sampleApproved) (.ofNat 1)).nin = .pending := by
  decide +kernel

end AjoCloud.Kyc
