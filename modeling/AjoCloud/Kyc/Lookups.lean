import AjoCloud.Kyc.Personas
import Mathlib.Data.List.Dedup

/-!
# The ration of lookups

`assertAttemptsRemain` counts the refusals that are stored, before the provider is asked.  This module
counts the numbers that were sent, other than the user's own, within any window of the same length.
-/

namespace AjoCloud.Kyc

open Lib ServiceError

variable {host : Host} {told : Told} {v v' : Verification} {t : Thread}
variable {own : Uuid → IdentityKind → String → Bool} {userId : Uuid}

/-! ## Numbers that were sent -/

/-- The number of a lookup, which the kind belongs to. -/
def Lookup.number (l : Lookup) : IdentityKind × String := (l.kind, l.identityNumber)

/-- The lookup is of a number that is not the user's own. -/
def isForeign (own : Uuid → IdentityKind → String → Bool) (userId : Uuid) (l : Lookup) : Bool :=
  l.userId = userId && !own userId l.kind l.identityNumber

/-- The numbers other than the user's own that were sent within the window from a time on, each
once. -/
def foreignNumbers (own : Uuid → IdentityKind → String → Bool) (lookups : List Lookup)
    (userId : Uuid) (since : Timestamp) : List (IdentityKind × String) :=
  ((lookups.filter fun l ↦ isForeign own userId l && since ≤ l.sentAt &&
    l.sentAt ≤ since + IDENTITY_ATTEMPT_WINDOW_MS).map Lookup.number).dedup

theorem mem_foreignNumbers {lookups : List Lookup} {since : Timestamp}
    {number : IdentityKind × String} :
    number ∈ foreignNumbers own lookups userId since ↔ ∃ l ∈ lookups, isForeign own userId l = true ∧
      since ≤ l.sentAt ∧ l.sentAt ≤ since + IDENTITY_ATTEMPT_WINDOW_MS ∧ l.number = number := by
  simp only [foreignNumbers, List.mem_dedup, List.mem_map, List.mem_filter, Bool.and_eq_true,
    decide_eq_true_eq]
  constructor
  · rintro ⟨l, ⟨hl, ⟨hforeign, hfrom⟩, hto⟩, heq⟩
    exact ⟨l, hl, hforeign, hfrom, hto, heq⟩
  · rintro ⟨l, hl, hforeign, hfrom, hto, heq⟩
    exact ⟨l, ⟨hl, ⟨hforeign, hfrom⟩, hto⟩, heq⟩

/-- Different members have different partners. -/
theorem length_le_of_partners {α β : Type} {as : List α} {bs : List β} {R : α → β → Prop}
    (hnodup : as.Nodup) (hpartner : ∀ a ∈ as, ∃ b ∈ bs, R a b)
    (hone : ∀ a ∈ as, ∀ a' ∈ as, ∀ b, R a b → R a' b → a = a') : as.length ≤ bs.length := by
  have hpartner : ∀ a : {a // a ∈ as}, ∃ b, b ∈ bs ∧ R a b := fun a ↦ hpartner a a.2
  choose f hf using hpartner
  have hsub : as.attach.map f ⊆ bs := by
    intro b hb
    obtain ⟨a, -, rfl⟩ := List.mem_map.mp hb
    exact (hf a).1
  have hinj : Function.Injective f := fun a a' heq ↦
    Subtype.ext (hone a a.2 a' a'.2 (f a) (hf a).2 (heq ▸ (hf a').2))
  have hnodup : (as.attach.map f).Nodup := (List.nodup_attach.mpr hnodup).map hinj
  simpa using (List.subperm_of_subset hnodup hsub).length_le

/-! ## Steps -/

/-- The refusals are of checks that are stored, each of them for one lookup; and no more numbers were
sent within a window than the ration. -/
structure Rationed (own : Uuid → IdentityKind → String → Bool) (v : Verification) : Prop where
  stored : ∀ r ∈ v.refusals, ∃ c ∈ v.db.kyc.checks.rows, c.id = r.2
  one : ∀ r ∈ v.refusals, ∀ r' ∈ v.refusals, r'.2 = r.2 → r' = r
  numbers : ∀ userId since, (foreignNumbers own v.lookups userId since).length ≤
    IDENTITY_MAX_FAILED_ATTEMPTS

/-- The attempts that a request has counted were not used up. -/
def WithinBudget : Thread → Prop
  | .identityName _ _ _ failures | .identityLookup _ _ _ failures _ =>
      failures.length < IDENTITY_MAX_FAILED_ATTEMPTS
  | _ => True

/-- A number that is not the user's own is sent only when every other such number, sent within the
window before, is behind one of the refusals that the request has counted. -/
structure Accounted (own : Uuid → IdentityKind → String → Bool) (told : Told) (v : Verification)
    (t : Thread) : Prop where
  lookup : ∀ userId dto kycProfileId failures profile,
    t = .identityLookup userId dto kycProfileId failures profile →
    own userId dto.kind (normalizeIdentityNumber dto.identityNumber) = false →
    ∀ l ∈ v.lookups, isForeign own userId l = true →
      told.ctx.now - IDENTITY_ATTEMPT_WINDOW_MS ≤ l.sentAt →
      l.number ≠ (dto.kind, normalizeIdentityNumber dto.identityNumber) →
      ∃ c ∈ failures, (l, c.id) ∈ v.refusals
  elsewhere : ∀ db', t = .elsewhere db' → Elsewhere v.db db'

/-- A request goes on with the attempts that it has counted. -/
theorem withinBudget_exec {t' : Thread} (hbudget : WithinBudget t)
    (h : (exec host told v t).2 = some t') : WithinBudget t' := by
  cases t with
  | identityBudget userId dto kycProfileId =>
      rcases next_of_budget h with rfl | ⟨failures, rfl, hlt⟩
      · trivial
      · exact hlt
  | identityName userId dto kycProfileId failures =>
      obtain ⟨_, -, hnext⟩ := Verification.next_of_read h
      cases hnext
      exact hbudget
  | addressBudget userId dto kycProfileId =>
      rcases next_of_budget h with rfl | ⟨failures, rfl, -⟩
      · trivial
      · trivial
  | identity | bank | address | addressSave | document | identityLookup =>
      obtain ⟨_, -, hnext⟩ := Verification.next_of_read h
      cases hnext
      trivial
  | identityProfile | bankProfile | addressProfile | documentProfile | bankAccount | bankResult
  | documentResult | hold | basicInfo | personalDetails =>
      obtain ⟨_, _, -, hnext, -⟩ := Verification.next_of_write h
      cases hnext
      trivial
  | exhausted | profile | syncWrite =>
      obtain ⟨_, _, -, hnext, -⟩ := Verification.next_of_write h
      cases hnext
  | identityResult =>
      rcases next_of_storeIdentity h with rfl | rfl
      · trivial
      · trivial
  | addressResult =>
      obtain ⟨_, _, -, hnext, -⟩ := Verification.next_of_write h
      rcases next_of_afterAddress hnext with rfl | rfl
      · trivial
      · trivial
  | addressRecord | review | status | sync =>
      cases h
      trivial
  | statusProfile userId level =>
      have h : (if _ then some (Thread.syncProfile userId level) else none) = some t' := h
      split at h
      · cases h
        trivial
      · cases h
  | syncProfile userId level =>
      have h : (if syncNeeded level (profileOf v.db userId) = true then
        some (Thread.syncWrite userId level (profileOf v.db userId)) else none) = some t' := h
      split at h
      · cases h
        trivial
      · cases h
  | decide reviewerId kycProfileId decision reason tier seen =>
      rw [exec, next_of_storeDecision] at h
      cases h
  | elsewhere db' => cases h

theorem createCheck_keeps {check : KycCheck} {db db' : Db} {u : Unit}
    (h : createCheck check db = .ok (u, db')) {c : KycCheck} (hc : c ∈ db.kyc.checks.rows) :
    ∃ c' ∈ db'.kyc.checks.rows, c'.id = c.id := by
  obtain ⟨-, checks, hins, rfl⟩ := createCheck_eq_ok h
  exact ⟨c, insertRow_eq_ok hins ▸ List.mem_append_left _ hc, rfl⟩

/-- Checks stay under their identifiers. -/
theorem Effect.checks_kept (he : Effect host told v t v')
    (helsewhere : ∀ db', t = .elsewhere db' → Elsewhere v.db db') {c : KycCheck}
    (hc : c ∈ v.db.kyc.checks.rows) : ∃ c' ∈ v'.db.kyc.checks.rows, c'.id = c.id := by
  cases he with
  | idle | sent | accountLinked => exact ⟨c, hc, rfl⟩
  | profileCreated _ _ h => exact ⟨c, (createProfile_profilesOnly h).checks ▸ hc, rfl⟩
  | profileMarked _ hwrite h =>
      refine ⟨c, (updateProfile_profilesOnly h fun p ↦ ?_).checks ▸ hc, rfl⟩
      rcases hwrite with rfl | rfl
      · exact ⟨rfl, rfl⟩
      · exact ⟨rfl, rfl⟩
  | checkStored _ _ h => exact createCheck_keeps h hc
  | identityStored _ h => exact createCheck_keeps h hc
  | documentStored _ h => exact ⟨c, (storeDocument_profilesOnly h).checks ▸ hc, rfl⟩
  | detailsWritten _ h =>
      obtain ⟨_, -, rfl⟩ := updateUserProfile_eq_ok h
      exact ⟨c, hc, rfl⟩
  | tierWritten h => exact ⟨c, (writeTier_profilesOnly h).checks ▸ hc, rfl⟩
  | decided h =>
      obtain ⟨_, checks, _, _, -, -, hchecks, -, -, rfl⟩ := decideReview_eq_ok h
      obtain ⟨f, hrows, hf⟩ := mem_checksAfterDecision hchecks
      refine ⟨f c, ?_, (hf c hc).1.id⟩
      show f c ∈ checks.rows
      rw [hrows]
      exact List.mem_map_of_mem hc
  | elsewhere => exact ⟨c, (helsewhere _ rfl).checks ▸ hc, rfl⟩

/-- A number that is sent is one of five at most: the others are behind attempts that were counted. -/
theorem foreignNumbers_sent {lookups : List Lookup} {failures : List KycCheck} {l : Lookup}
    {since : Timestamp} {refusals : List (Lookup × Uuid)}
    (hone : ∀ r ∈ refusals, ∀ r' ∈ refusals, r'.2 = r.2 → r' = r)
    (hbudget : failures.length < IDENTITY_MAX_FAILED_ATTEMPTS)
    (hnow : l.sentAt ≤ since + IDENTITY_ATTEMPT_WINDOW_MS)
    (haccounted : ∀ x ∈ lookups, isForeign own userId x = true →
      l.sentAt - IDENTITY_ATTEMPT_WINDOW_MS ≤ x.sentAt → x.number ≠ l.number →
        ∃ c ∈ failures, (x, c.id) ∈ refusals) :
    (foreignNumbers own (lookups ++ [l]) userId since).length ≤ IDENTITY_MAX_FAILED_ATTEMPTS := by
  have hnodup : (foreignNumbers own (lookups ++ [l]) userId since).Nodup := List.nodup_dedup _
  have hothers : ((foreignNumbers own (lookups ++ [l]) userId since).erase l.number).length ≤
      failures.length := by
    refine length_le_of_partners (R := fun number c ↦ ∃ x, (x, c.id) ∈ refusals ∧ x.number = number)
      (hnodup.erase _) ?_ ?_
    · intro number hnumber
      rw [hnodup.mem_erase_iff, mem_foreignNumbers] at hnumber
      obtain ⟨hne, x, hx, hforeign, hfrom, -, rfl⟩ := hnumber
      rcases List.mem_append.mp hx with hx | hx
      · have hfrom : l.sentAt - IDENTITY_ATTEMPT_WINDOW_MS ≤ x.sentAt :=
          sub_le_iff_le_add.mpr (hnow.trans (add_le_add_left hfrom _))
        obtain ⟨c, hc, hrefused⟩ := haccounted x hx hforeign hfrom hne
        exact ⟨c, hc, x, hrefused, rfl⟩
      · rw [List.mem_singleton.mp hx] at hne
        exact absurd rfl hne
    · rintro _ - _ - c ⟨x, hx, rfl⟩ ⟨x', hx', rfl⟩
      have heq := hone (x, c.id) hx (x', c.id) hx' rfl
      exact congrArg (fun r ↦ Lookup.number r.1) heq.symm
  have hlength : (foreignNumbers own (lookups ++ [l]) userId since).length ≤
      ((foreignNumbers own (lookups ++ [l]) userId since).erase l.number).length + 1 := by
    rw [List.length_erase]
    split
    · omega
    · omega
  exact hlength.trans (Nat.succ_le_of_lt (hothers.trans_lt hbudget))

/-- One more lookup leaves the numbers of other users, and of windows it is not in, as they were. -/
theorem foreignNumbers_append_of_not {lookups : List Lookup} {l : Lookup} {since : Timestamp}
    (h : ¬ (isForeign own userId l = true ∧ since ≤ l.sentAt ∧
      l.sentAt ≤ since + IDENTITY_ATTEMPT_WINDOW_MS)) :
    foreignNumbers own (lookups ++ [l]) userId since = foreignNumbers own lookups userId since := by
  have hout : (isForeign own userId l && since ≤ l.sentAt &&
      l.sentAt ≤ since + IDENTITY_ATTEMPT_WINDOW_MS) = false := by
    simpa only [Bool.and_eq_false_iff, decide_eq_false_iff_not, Decidable.not_and_iff_not_or_not,
      Bool.not_eq_true, or_assoc] using h
  rw [foreignNumbers, List.filter_append, List.filter_cons_of_neg (by simp [hout]), List.filter_nil,
    List.append_nil, foreignNumbers]

/-- A check that is stored for the first time has a new identifier. -/
theorem createCheck_fresh {check : KycCheck} {db db' : Db} {u : Unit}
    (h : createCheck check db = .ok (u, db')) :
    (∀ c ∈ db.kyc.checks.rows, c.id ≠ check.id) ∧ check ∈ db'.kyc.checks.rows := by
  obtain ⟨-, checks, hins, rfl⟩ := createCheck_eq_ok h
  refine ⟨fun c hc heq ↦ not_clash_of_insertRow hins c hc (.inl heq), ?_⟩
  exact insertRow_eq_ok hins ▸ List.mem_append_right _ (List.mem_singleton_self check)

/-- Where neither lookups nor refusals are added, the ration is as it was. -/
theorem Rationed.of_same (h : Rationed own v) (hlookups : v'.lookups = v.lookups)
    (hrefusals : v'.refusals = v.refusals)
    (hkept : ∀ c ∈ v.db.kyc.checks.rows, ∃ c' ∈ v'.db.kyc.checks.rows, c'.id = c.id) :
    Rationed own v' where
  stored := by
    rw [hrefusals]
    intro r hr
    obtain ⟨c, hc, hid⟩ := h.stored r hr
    obtain ⟨c', hc', hid'⟩ := hkept c hc
    exact ⟨c', hc', hid'.trans hid⟩
  one := hrefusals ▸ h.one
  numbers := hlookups ▸ h.numbers

/-- An answer that is stored adds one refusal at most, under a new identifier. -/
theorem identityStored_rationed {lookup : Lookup} {check : KycCheck} {db' : Db} {u : Unit}
    (h : Rationed own v) (hok : createCheck check v.db = .ok (u, db')) {vouchers : List Voucher} :
    Rationed own { v with
      db := db'
      refusals := v.refusals ++ if check.status = .failed then [(lookup, check.id)] else []
      vouchers := vouchers } := by
  obtain ⟨hfresh, hstored⟩ := createCheck_fresh hok
  have hmem : ∀ {r : Lookup × Uuid},
      r ∈ v.refusals ++ (if check.status = .failed then [(lookup, check.id)] else []) →
        r ∈ v.refusals ∨ r = (lookup, check.id) := by
    intro r hr
    rcases List.mem_append.mp hr with hr | hr
    · exact .inl hr
    · split at hr
      · exact .inr (List.mem_singleton.mp hr)
      · cases hr
  -- The check of an earlier refusal is stored already, so the new one is not the same.
  have hnew : ∀ r ∈ v.refusals, r.2 ≠ check.id := by
    intro r hr heq
    obtain ⟨c, hc, hid⟩ := h.stored r hr
    exact hfresh c hc (hid.trans heq)
  refine ⟨fun r hr ↦ ?_, fun r hr r' hr' heq ↦ ?_, h.numbers⟩
  · rcases hmem hr with hr | rfl
    · obtain ⟨c, hc, hid⟩ := h.stored r hr
      obtain ⟨c', hc', hid'⟩ := createCheck_keeps hok hc
      exact ⟨c', hc', hid'.trans hid⟩
    · exact ⟨check, hstored, rfl⟩
  · rcases hmem hr with hr | rfl
    · rcases hmem hr' with hr' | rfl
      · exact h.one r hr r' hr' heq
      · exact absurd heq.symm (hnew r hr)
    · rcases hmem hr' with hr' | rfl
      · exact absurd heq (hnew r' hr')
      · rfl

/-- A step that is accounted for keeps the ration. -/
theorem Effect.rationed (he : Effect host told v t v') (h : Rationed own v)
    (hbudget : WithinBudget t) (hin : Accounted own told v t) : Rationed own v' := by
  have hkept := fun c ↦ he.checks_kept hin.elsewhere (c := c)
  cases he with
  | @sent userId dto =>
      refine ⟨h.stored, h.one, fun user since ↦ ?_⟩
      generalize hl : (⟨userId, dto.kind, normalizeIdentityNumber dto.identityNumber,
        told.ctx.now⟩ : Lookup) = l
      by_cases hcounts : isForeign own user l = true ∧ since ≤ l.sentAt ∧
        l.sentAt ≤ since + IDENTITY_ATTEMPT_WINDOW_MS
      · obtain ⟨hforeign, -, hto⟩ := hcounts
        subst hl
        simp only [isForeign, Bool.and_eq_true, decide_eq_true_eq, Bool.not_eq_true'] at hforeign
        obtain ⟨rfl, hown⟩ := hforeign
        exact foreignNumbers_sent h.one hbudget hto (hin.lookup _ _ _ _ _ rfl hown)
      · show (foreignNumbers own (v.lookups ++ [l]) user since).length ≤ _
        rw [foreignNumbers_append_of_not hcounts]
        exact h.numbers user since
  | identityStored _ hok => exact identityStored_rationed h hok
  | idle | profileCreated | profileMarked | accountLinked | checkStored | documentStored
  | detailsWritten | tierWritten | decided | elsewhere => exact h.of_same rfl rfl hkept

/-! ## Runs -/

/-- However the requests interleave, and whatever the provider answers: as long as a number that is
not the user's own is sent only when the other such numbers of the window are behind attempts that the
request has counted, no window has more of them than the ration. -/
theorem lookups_rationed (own : Uuid → IdentityKind → String → Bool)
    {start q : Pool Verification Thread} (hlookups : start.shared.lookups = [])
    (hrefusals : start.shared.refusals = []) (hthreads : start.threads = [])
    (hrun : Reaches (Pool.advance (exec host)) (Pool.Admitted (fun _ t ↦ t.isRequest = true)
      fun told v t ↦ Accounted own told v t) start q) (userId : Uuid) (since : Timestamp) :
    (foreignNumbers own q.shared.lookups userId since).length ≤ IDENTITY_MAX_FAILED_ATTEMPTS := by
  have hrationed : Rationed own start.shared := by
    refine ⟨?_, ?_, fun userId since ↦ ?_⟩
    · rw [hrefusals]
      exact List.forall_mem_nil _
    · rw [hrefusals]
      exact List.forall_mem_nil _
    · rw [hlookups]
      exact Nat.zero_le _
  have hholds := Pool.invariant_of_guarantees (S := Rationed own) (T := fun _ t ↦ WithinBudget t) hrun
    ⟨hrationed, by simp [hthreads]⟩ (fun _ t _ ht ↦ ?_) fun told v t h hbudget hin ↦
      ⟨(exec_effect host told v t).rationed h hbudget hin,
        fun _ ht' ↦ withinBudget_exec hbudget ht', fun _ hu ↦ hu⟩
  · exact hholds.shared.numbers userId since
  · cases t with
    | identityName | identityLookup => cases ht
    | _ => trivial

/-! ### Numbers of other people -/

section Sample

/-- The user owns none of the numbers. -/
def nothingOwn : Uuid → IdentityKind → String → Bool := fun _ _ _ ↦ false

/-- The check that a step is accounted for, as long as nothing was sent before. -/
def Thread.isAccounted (v : Verification) : Thread → Bool
  | .identityLookup .. => v.lookups.isEmpty
  | .elsewhere _ => false
  | _ => true

theorem accounted_of_isAccounted (h : t.isAccounted v = true) : Accounted own told v t := by
  cases t with
  | identityLookup =>
      refine ⟨fun _ _ _ _ _ _ _ l hl ↦ ?_, fun _ h ↦ (nomatch h)⟩
      rw [List.isEmpty_iff.mp h] at hl
      cases hl
  | elsewhere => cases h
  | _ => exact ⟨fun _ _ _ _ _ h ↦ (nomatch h), fun _ h ↦ (nomatch h)⟩

theorem lookups_rationed_sample :
    (foreignNumbers nothingOwn sampleNinVerified.shared.lookups (.ofNat 1) 0).length = 1 ∧
    (foreignNumbers nothingOwn sampleNinVerified.shared.lookups (.ofNat 1) 0).length ≤
      IDENTITY_MAX_FAILED_ATTEMPTS := by
  have hone : (foreignNumbers nothingOwn sampleNinVerified.shared.lookups (.ofNat 1) 0).length = 1 := by
    decide +kernel
  have hrun : Reaches (Pool.advance (exec sampleHost))
      (Pool.Admitted (fun _ t ↦ t.isRequest = true) fun _ v t ↦ t.isAccounted v = true)
      (samplePlatform firstStage) sampleNinVerified := by
    refine reaches_of_allAdmitted ?_
    decide +kernel
  generalize sampleNinVerified = q at hone hrun ⊢
  have hin : Reaches (Pool.advance (exec sampleHost))
      (Pool.Admitted (fun _ t ↦ t.isRequest = true) fun told v t ↦ Accounted nothingOwn told v t)
      (samplePlatform firstStage) q := by
    refine hrun.mono fun s m hm ↦ ?_
    cases m with
    | spawn t => exact hm
    | run i o => exact fun t ht ↦ accounted_of_isAccounted (hm t ht)
    | stop i => trivial
  exact ⟨hone, lookups_rationed nothingOwn rfl rfl rfl hin (.ofNat 1) 0⟩

/-- One request for a BVN that is known, as that of somebody else, until it is answered. -/
def sampleBvnAttempt (n : Nat) (identityNumber : String) : List (Move Thread Told) :=
  .spawn (.identity (.ofNat 1) ⟨.bvn, identityNumber⟩) ::
    (List.range 10).map fun k ↦ .run 0 (sampleTold (n + k) true "Eve Bad")

/-- Six BVNs are tried, one every half a minute. -/
def sampleBvnsTried : Pool Verification Thread :=
  sampleRun firstStage (sampleBvnAttempt 1 "22000000001" ++ sampleBvnAttempt 31 "22000000002" ++
    sampleBvnAttempt 61 "22000000003" ++ sampleBvnAttempt 91 "22000000004" ++
    sampleBvnAttempt 121 "22000000005" ++ sampleBvnAttempt 151 "22000000006")

/-- A number that belongs to somebody else is held for review and is not counted, so six of them can be
tried within three minutes. -/
theorem held_lookups_uncounted :
    Reaches (Pool.advance (exec sampleHost))
        (Pool.Admitted (fun _ t ↦ t.isRequest = true) fun _ _ _ ↦ True)
        (samplePlatform firstStage) sampleBvnsTried ∧
      (samplePlatform firstStage).shared.lookups = [] ∧
      sampleBvnsTried.threads.isEmpty = true ∧
      sampleBvnsTried.shared.db.kyc.checks.rows.all (fun c ↦ c.status = .pending) = true ∧
      IDENTITY_MAX_FAILED_ATTEMPTS <
        (foreignNumbers nothingOwn sampleBvnsTried.shared.lookups (.ofNat 1) 0).length := by
  refine ⟨reaches_of_allAdmitted ?_, rfl, ?_, ?_, ?_⟩
  · decide +kernel
  · decide +kernel
  · decide +kernel
  · decide +kernel

end Sample

end AjoCloud.Kyc
