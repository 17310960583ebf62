import AjoCloud.Ajo.Turns
import AjoCloud.Fees.Tiers

/-!
# The fee of a swap

`AjoSwapsService.assessFee` looks the definition up as `FeesService.assess` does, but reads it without
its tiers.
-/

namespace AjoCloud.Ajo

open Lib ServiceError Fees

variable {ctx : Ctx} {db db' : Db} {definition : FeeDefinition} {tiers : List FeeTier} {base : Int}

/-! ## What a definition assesses without its tiers -/

/-- The fee of the definition does not rest on its tiers, and fits its column: the definition is fixed
or proportional, with an amount below 2⁶³; or else the service refuses it as well, for its tiers or for
a fee below zero. -/
def FeeWithoutTiers (definition : FeeDefinition) (tiers : List FeeTier) (base : Int) : Prop :=
  match definition.calculationType with
  | .fixed => clamped definition (definition.amountMinor.getD 0) < 2 ^ 63
  | .percentage => clamped definition (percentageOf base definition.basisPoints) < 2 ^ 63
  | .tiered => assertTiersPartitionRange tiers ≠ .ok () ∨
      ∃ tier, tierFor tiers base = some tier ∧ clamped definition
        (max (percentageOf base definition.basisPoints)
          (providerCostMinor definition base + tier.amountMinor)) < 0

/-- A rule without tiers assesses the same fee with any. -/
theorem assessVersionedFee_of_not_tiered (h : definition.calculationType ≠ .tiered) :
    assessVersionedFee definition [] base = assessVersionedFee definition tiers base := by
  unfold assessVersionedFee unboundedFee
  cases htype : definition.calculationType with
  | fixed | percentage => rfl
  | tiered => exact absurd htype h

/-- Without its tiers a tiered definition assesses nothing. -/
theorem assessVersionedFee_tiered_nil (h : definition.calculationType = .tiered) (fee : Int) :
    assessVersionedFee definition [] base ≠ .ok fee := by
  intro hfee
  obtain ⟨-, _, hamount, -⟩ := assessVersionedFee_eq_ok.mp hfee
  simp only [unboundedFee, h, bind_eq_ok, assertTiersPartitionRange, require_eq_ok] at hamount
  obtain ⟨_, ⟨_, hnil, -⟩, -⟩ := hamount
  exact hnil rfl

/-- Where the service assesses a fee, the swap's own assessment is the same and can be stored. -/
theorem feeWithoutTiers_iff (hbase : 0 ≤ base) : FeeWithoutTiers definition tiers base ↔
    ∀ fee, assessVersionedFee definition tiers base = .ok fee →
      assessVersionedFee definition [] base = .ok fee ∧ fitsBigInt fee = true := by
  -- Fixed and proportional fees differ in the amount only.
  have hplain : ∀ amount : Int, definition.calculationType ≠ .tiered →
      unboundedFee definition tiers base = .ok amount → (clamped definition amount < 2 ^ 63 ↔
        ∀ fee, assessVersionedFee definition tiers base = .ok fee →
          assessVersionedFee definition [] base = .ok fee ∧ fitsBigInt fee = true) := by
    intro amount htype hamount
    have hassess : ∀ fee, assessVersionedFee definition tiers base = .ok fee ↔
        fee = clamped definition amount ∧ 0 ≤ fee := by
      intro fee
      rw [assessVersionedFee_eq_ok, hamount]
      simp only [hbase, true_and, Except.ok.injEq, exists_eq_left']
    constructor
    · intro hlt fee hfee
      obtain ⟨rfl, hnonneg⟩ := (hassess fee).mp hfee
      exact ⟨(assessVersionedFee_of_not_tiered htype).trans hfee, (fitsBigInt_iff hnonneg).mpr hlt⟩
    · intro hall
      rcases lt_or_ge (clamped definition amount) 0 with hneg | hnonneg
      · omega
      · have hfits := (hall _ ((hassess _).mpr ⟨rfl, hnonneg⟩)).2
        exact (fitsBigInt_iff hnonneg).mp hfits
  unfold FeeWithoutTiers
  cases htype : definition.calculationType with
  | fixed => exact hplain _ (by rw [htype]; decide) (by rw [unboundedFee, htype])
  | percentage => exact hplain _ (by rw [htype]; decide) (by rw [unboundedFee, htype])
  | tiered =>
      constructor
      · intro hrefused fee hfee
        obtain ⟨-, amount, hamount, rfl, hnonneg⟩ := assessVersionedFee_eq_ok.mp hfee
        have haccepted : assertTiersPartitionRange tiers = .ok () := by
          simp only [unboundedFee, htype, bind_eq_ok] at hamount
          obtain ⟨_, haccepted, -⟩ := hamount
          exact haccepted
        rcases hrefused with hnot | ⟨tier, htier, hneg⟩
        · exact absurd haccepted hnot
        · rw [unboundedFee_tiered htype haccepted htier] at hamount
          cases hamount
          exact absurd hnonneg (not_le.mpr hneg)
      · intro hall
        by_contra hboth
        obtain ⟨haccepted, hnonneg⟩ := not_or.mp hboth
        rw [not_not] at haccepted
        obtain ⟨tier, htier⟩ := exists_tierFor haccepted hbase
        have hle := not_lt.mp fun hneg ↦ hnonneg ⟨tier, htier, hneg⟩
        have hfee := assessVersionedFee_eq_ok.mpr
          ⟨hbase, _, unboundedFee_tiered htype haccepted htier, rfl, hle⟩
        exact assessVersionedFee_tiered_nil htype _ (hall _ hfee).1

/-! ## The fee that is recorded -/

/-- The fee that is recorded on a request, zero if none is. -/
def recordedFee (db : Db) (swapId : Uuid) : Int :=
  (((db.swapRequests.find? fun s ↦ s.id = swapId).bind (·.feeAssessmentId)).bind fun id ↦
    db.feeAssessments.find? fun a ↦ a.id = id).elim 0 (·.amountMinor)

/-- The same database with no fee configured. -/
def withoutFees (db : Db) : Db := { db with feeDefinitions := .empty }

/-- The two ways to a fee agree on a request: where it would be stored without a fee, and the service
assesses one, it is stored with that fee, and no other fee is ever recorded. -/
structure FeesAgree (ctx : Ctx) (db : Db) (userId groupId : Uuid) (dto : CreateSwapRequestDto)
    (base : Int) : Prop where
  charged : ∀ fee w db₀, assess db .ajoSwap base ctx.now = .ok fee →
    createSwap ctx (withoutFees db) userId groupId dto = .ok (w, db₀) →
      ∃ db', createSwap ctx db userId groupId dto = .ok (w, db') ∧ recordedFee db' w.id = fee
  recorded : ∀ w db', createSwap ctx db userId groupId dto = .ok (w, db') →
    assess db .ajoSwap base ctx.now = .ok (recordedFee db' w.id)

/-- What `create` stores of a request that is in order. -/
structure Requested (db : Db) (groupId : Uuid) (w : SwapRequest) (group : AjoGroup)
    (requests : Table SwapRequest) : Prop where
  found : db.ajoGroups.find? (fun g ↦ g.id = groupId) = some group
  unassessed : w.feeAssessmentId = none
  inserted : db.swapRequests.insert w = some requests

/-- A request that is stored had its fee assessed last. -/
theorem createSwap_assesses {userId groupId : Uuid} {dto : CreateSwapRequestDto} {w : SwapRequest}
    (h : createSwap ctx db userId groupId dto = .ok (w, db')) :
    ∃ group requests, Requested db groupId w group requests ∧
      assessSwapFee ctx { db with swapRequests := requests } w.id group.currency
        group.baseContributionMinor = .ok db' := by
  simp only [createSwap, bind_eq_ok, require_eq_ok, orThrow_eq_ok, pure_eq_ok, exists_const,
    Prod.mk.injEq] at h
  obtain ⟨-, membership, -, group, hgroup, -, -, origin, -, target, -, -, -, -, -, -, requests, hins,
    _, hfee, rfl, rfl⟩ := h
  exact ⟨group, requests, ⟨hgroup, rfl, hins⟩, hfee⟩

/-- A request that is in order without a fee is stored once its fee is. -/
theorem createSwap_of_assess {userId groupId : Uuid} {dto : CreateSwapRequestDto} {w : SwapRequest}
    {db₀ : Db} (h : createSwap ctx (withoutFees db) userId groupId dto = .ok (w, db₀)) :
    ∃ group requests, Requested db groupId w group requests ∧
      ∀ db', assessSwapFee ctx { db with swapRequests := requests } w.id group.currency
        group.baseContributionMinor = .ok db' →
          createSwap ctx db userId groupId dto = .ok (w, db') := by
  simp only [createSwap, bind_eq_ok, require_eq_ok, orThrow_eq_ok, pure_eq_ok, exists_const,
    Prod.mk.injEq] at h
  obtain ⟨hne, membership, hmembership, group, hgroup, hstatus, howners, origin, horigin, target,
    htarget, hrole, hconflict, _, hpayout, hoverdue, requests, hins, _, -, rfl, -⟩ := h
  refine ⟨group, requests, ⟨hgroup, rfl, hins⟩, fun db' hfee ↦ ?_⟩
  simp only [createSwap, bind_eq_ok, require_eq_ok, orThrow_eq_ok, pure_eq_ok, exists_const,
    Prod.mk.injEq]
  exact ⟨hne, membership, hmembership, group, hgroup, hstatus, howners, origin, horigin, target,
    htarget, hrole, hconflict, _, hpayout, hoverdue, requests, hins, db', hfee, rfl, rfl⟩

theorem recordedFee_eq (db : Db) {w : SwapRequest} (hw : w ∈ db.swapRequests.rows) :
    recordedFee db w.id = (w.feeAssessmentId.bind fun id ↦
      db.feeAssessments.find? fun a ↦ a.id = id).elim 0 (·.amountMinor) := by
  have hfind : (db.swapRequests.find? fun s ↦ s.id = w.id) = some w :=
    db.swapRequests.find?_eq_some_of_mem hw (decide_eq_true rfl)
      fun x _ hx ↦ .inl (of_decide_eq_true hx)
  rw [recordedFee, hfind]
  rfl

/-- With no definition in force nothing is recorded. -/
theorem assessSwapFee_of_none {groupId : Uuid} {w : SwapRequest} {group : AjoGroup}
    {requests : Table SwapRequest} (h : Requested db groupId w group requests)
    (hnone : activeDefinition db .ajoSwap ctx.now = none) (currency : String) (base : Int) :
    assessSwapFee ctx { db with swapRequests := requests } w.id currency base =
        .ok { db with swapRequests := requests } ∧
      recordedFee { db with swapRequests := requests } w.id = 0 := by
  constructor
  · have hactive : activeDefinition { db with swapRequests := requests } .ajoSwap ctx.now = none := hnone
    rw [assessSwapFee, hactive]
  · rw [recordedFee_eq _ (Table.mem_of_insert h.inserted), h.unassessed]
    rfl

/-- The identifier that the assessment is given is a new one. -/
structure FreshAssessment (ctx : Ctx) (db : Db) : Prop where
  assessments : ∀ a ∈ db.feeAssessments.rows, a.id ≠ ctx.uuid 1
  requests : ∀ s ∈ db.swapRequests.rows, s.feeAssessmentId ≠ some (ctx.uuid 1)

/-- The assessment can be written on the request. -/
theorem FreshAssessment.exists_update (h : FreshAssessment ctx db) {groupId : Uuid} {w : SwapRequest}
    {group : AjoGroup} {requests : Table SwapRequest}
    (hrequested : Requested db groupId w group requests) :
    ∃ updated, requests.update (fun s ↦ s.id = w.id)
      (fun s ↦ { s with feeAssessmentId := some (ctx.uuid 1) }) = some updated := by
  have hother : ∀ s ∈ requests.rows, s.feeAssessmentId ≠ some (ctx.uuid 1) := by
    intro s hs
    rw [Table.rows_of_insert hrequested.inserted, List.mem_append, List.mem_singleton] at hs
    rcases hs with hs | rfl
    · exact h.requests s hs
    · rw [hrequested.unassessed]
      exact nofun
  refine requests.exists_update_of _ _ fun a ha b hb hab ↦ ?_
  by_cases haw : a.id = w.id
  · by_cases hbw : b.id = w.id
    · exact absurd (.inl (haw.trans hbw.symm)) hab
    · rw [if_pos (decide_eq_true haw), if_neg (by simpa using hbw)]
      rintro (hid | ⟨-, hfee⟩)
      · exact hab (.inl hid)
      · exact hother b hb hfee.symm
  · rw [if_neg (by simpa using haw)]
    split
    · rintro (hid | ⟨-, hfee⟩)
      · exact hab (.inl hid)
      · exact hother a ha hfee
    · exact hab

/-- With a definition in force the fee it assesses without tiers is recorded. -/
theorem assessSwapFee_of_some {groupId : Uuid} {w : SwapRequest} {group : AjoGroup}
    {requests : Table SwapRequest} (h : Requested db groupId w group requests)
    (hsome : activeDefinition db .ajoSwap ctx.now = some definition) (currency : String) (base : Int) :
    (∀ db', assessSwapFee ctx { db with swapRequests := requests } w.id currency base = .ok db' →
      assessVersionedFee definition [] base = .ok (recordedFee db' w.id) ∧
        fitsBigInt (recordedFee db' w.id) = true) ∧
    ∀ fee, FreshAssessment ctx db → assessVersionedFee definition [] base = .ok fee →
      fitsBigInt fee = true →
        ∃ db', assessSwapFee ctx { db with swapRequests := requests } w.id currency base = .ok db' := by
  have hactive : activeDefinition { db with swapRequests := requests } .ajoSwap ctx.now =
      some definition := hsome
  rw [assessSwapFee, hactive]
  constructor
  · intro db' hok
    simp only [bind_eq_ok, require_eq_ok, orThrow_eq_ok, pure_eq_ok, exists_const] at hok
    obtain ⟨fee, hfee, hfits, assessments, hins, updated, hupdate, rfl⟩ := hok
    have hw : { w with feeAssessmentId := some (ctx.uuid 1) } ∈ updated.rows := by
      rw [Table.rows_of_update hupdate]
      exact List.mem_map.mpr ⟨w, Table.mem_of_insert h.inserted, if_pos (decide_eq_true rfl)⟩
    have hrecorded : recordedFee { db with swapRequests := updated, feeAssessments := assessments }
        w.id = fee := by
      refine (recordedFee_eq { db with
        swapRequests := updated, feeAssessments := assessments } hw).trans ?_
      have hfind : (assessments.find? fun a ↦ a.id = ctx.uuid 1) = some
          ⟨ctx.uuid 1, definition.id, "SwapRequest", w.id, fee, currency, some base⟩ :=
        assessments.find?_eq_some_of_mem (Table.mem_of_insert hins) (decide_eq_true rfl)
          fun x _ hx ↦ of_decide_eq_true hx
      exact congrArg (fun a ↦ Option.elim a 0 FeeAssessment.amountMinor) hfind
    rw [hrecorded]
    exact ⟨hfee, hfits⟩
  · intro fee hfresh hfee hfits
    have hinsert : ∃ assessments, db.feeAssessments.insert
        ⟨ctx.uuid 1, definition.id, "SwapRequest", w.id, fee, currency, some base⟩ =
          some assessments := ⟨_, dif_pos hfresh.assessments⟩
    obtain ⟨assessments, hinsert⟩ := hinsert
    obtain ⟨updated, hupdate⟩ := hfresh.exists_update h
    simp only [bind_eq_ok, require_eq_ok, orThrow_eq_ok, pure_eq_ok, exists_const]
    exact ⟨_, fee, hfee, hfits, assessments, hinsert, updated, hupdate, rfl⟩

/-- The fee that a swap is charged is the fee that the service assesses, exactly when the definition in
force, if there is one, assesses it without its tiers. -/
theorem fees_agree_iff {userId groupId : Uuid} {dto : CreateSwapRequestDto} {group : AjoGroup}
    {w : SwapRequest} {db₀ : Db} (hgroup : db.ajoGroups.find? (fun g ↦ g.id = groupId) = some group)
    (horder : createSwap ctx (withoutFees db) userId groupId dto = .ok (w, db₀))
    (hfresh : FreshAssessment ctx db) :
    FeesAgree ctx db userId groupId dto group.baseContributionMinor ↔
      ∀ definition, activeDefinition db .ajoSwap ctx.now = some definition →
        0 ≤ group.baseContributionMinor →
          FeeWithoutTiers definition (tiersOf db definition) group.baseContributionMinor := by
  obtain ⟨found, requests, hrequested, hstores⟩ := createSwap_of_assess horder
  obtain rfl : group = found := Option.some_inj.mp (hgroup.symm.trans hrequested.found)
  have hassess : ∀ {definition : FeeDefinition} (fee : Int),
      activeDefinition db .ajoSwap ctx.now = some definition →
      (assess db .ajoSwap group.baseContributionMinor ctx.now = .ok fee ↔
        assessVersionedFee definition (tiersOf db definition) group.baseContributionMinor = .ok fee) := by
    intro definition fee hactive
    rw [assess, hactive]
  constructor
  · intro hagree definition hactive hbase
    rw [feeWithoutTiers_iff hbase]
    intro fee hfee
    obtain ⟨db', hstored, hrecorded⟩ := hagree.charged fee w db₀ ((hassess fee hactive).mpr hfee) horder
    obtain ⟨found, requests', hrequested', hrecords⟩ := createSwap_assesses hstored
    obtain rfl : group = found := Option.some_inj.mp (hgroup.symm.trans hrequested'.found)
    have hown := (assessSwapFee_of_some hrequested' hactive _ _).1 db' hrecords
    rw [hrecorded] at hown
    exact hown
  · intro hwithout
    refine ⟨fun fee v db₁ hfee hv ↦ ?_, fun v db' hstored ↦ ?_⟩
    · obtain ⟨found, requests', hrequested', hstores'⟩ := createSwap_of_assess hv
      obtain rfl : group = found := Option.some_inj.mp (hgroup.symm.trans hrequested'.found)
      cases hactive : activeDefinition db .ajoSwap ctx.now with
      | none =>
          obtain ⟨hok, hzero⟩ := assessSwapFee_of_none hrequested' hactive group.currency
            group.baseContributionMinor
          rw [assess, hactive] at hfee
          cases hfee
          exact ⟨_, hstores' _ hok, hzero⟩
      | some definition =>
          rw [hassess fee hactive] at hfee
          have hbase := (assessVersionedFee_eq_ok.mp hfee).1
          obtain ⟨hown, hfits⟩ :=
            (feeWithoutTiers_iff hbase).mp (hwithout definition hactive hbase) fee hfee
          obtain ⟨hrecords, hstorable⟩ := assessSwapFee_of_some hrequested' hactive group.currency
            group.baseContributionMinor
          obtain ⟨db', hok⟩ := hstorable fee hfresh hown hfits
          refine ⟨db', hstores' _ hok, ?_⟩
          exact Except.ok.inj ((hrecords db' hok).1.symm.trans hown)
    · obtain ⟨found, requests', hrequested', hok⟩ := createSwap_assesses hstored
      obtain rfl : group = found := Option.some_inj.mp (hgroup.symm.trans hrequested'.found)
      cases hactive : activeDefinition db .ajoSwap ctx.now with
      | none =>
          obtain ⟨hnone, hzero⟩ := assessSwapFee_of_none hrequested' hactive group.currency
            group.baseContributionMinor
          obtain rfl := Except.ok.inj (hnone.symm.trans hok)
          rw [assess, hactive, hzero]
      | some definition =>
          have hown := ((assessSwapFee_of_some hrequested' hactive _ _).1 db' hok).1
          rw [hassess _ hactive, ← hown]
          -- A tiered definition would have been refused.
          exact (assessVersionedFee_of_not_tiered fun htiered ↦
            assessVersionedFee_tiered_nil htiered _ hown).symm

/-! ### A swap with a fee -/

section Sample

/-- The fee is the sample rule's, on swaps. -/
def sampleSwapFee (calculationType : FeeCalculationType) : FeeDefinition :=
  { sampleRule with code := "AJO_SWAP", calculationType := calculationType }

/-- The group, and the fee with its tiers. -/
def sampleCharged (calculationType : FeeCalculationType) : Db :=
  { sampleGroup with
    feeDefinitions := ⟨[sampleSwapFee calculationType], by simp⟩
    feeTiers := ⟨sampleTiers, by decide⟩ }

theorem sampleCharged_fresh (calculationType : FeeCalculationType) :
    FreshAssessment (sampleCtx 5) (sampleCharged calculationType) := ⟨nofun, nofun⟩

end Sample

theorem fees_agree_sample : ∃ w db', createSwap (sampleCtx 5) (sampleCharged .percentage) (.ofNat 1)
    (.ofNat 30) ⟨.ofNat 41, .ofNat 42, none⟩ = .ok (w, db') ∧ recordedFee db' w.id = 2 := by
  have horder : ∃ answer, createSwap (sampleCtx 5) (withoutFees (sampleCharged .percentage)) (.ofNat 1)
      (.ofNat 30) ⟨.ofNat 41, .ofNat 42, none⟩ = .ok answer := by
    rw [exists_eq_ok_iff]
    decide +kernel
  obtain ⟨⟨w, db₀⟩, horder⟩ := horder
  have hactive : activeDefinition (sampleCharged .percentage) .ajoSwap (sampleCtx 5).now =
      some (sampleSwapFee .percentage) := by
    decide +kernel
  have hwithout : FeeWithoutTiers (sampleSwapFee .percentage)
      (tiersOf (sampleCharged .percentage) (sampleSwapFee .percentage)) 100 := by
    show clamped _ _ < 2 ^ 63
    decide +kernel
  have hgroup : (sampleCharged .percentage).ajoGroups.find? (fun g ↦ g.id = .ofNat 30) =
      some sampleFriends := rfl
  have hagree := (fees_agree_iff hgroup horder (sampleCharged_fresh .percentage)).mpr
    fun definition hdefinition _ ↦ by
      obtain rfl := Option.some_inj.mp (hactive.symm.trans hdefinition)
      exact hwithout
  obtain ⟨db', hstored⟩ := hagree.charged 2 w db₀ (by decide +kernel) horder
  exact ⟨w, db', hstored⟩

/-- A swap cannot be requested while its fee is tiered. -/
theorem tiered_swap_refused :
    ¬ ∀ (ctx : Ctx) (db : Db) (userId groupId : Uuid) (dto : CreateSwapRequestDto) (group : AjoGroup)
      (w : SwapRequest) (db₀ : Db), db.ajoGroups.find? (fun g ↦ g.id = groupId) = some group →
      createSwap ctx (withoutFees db) userId groupId dto = .ok (w, db₀) → FreshAssessment ctx db →
        FeesAgree ctx db userId groupId dto group.baseContributionMinor := by
  intro h
  have horder : ∃ answer, createSwap (sampleCtx 5) (withoutFees (sampleCharged .tiered)) (.ofNat 1)
      (.ofNat 30) ⟨.ofNat 41, .ofNat 42, none⟩ = .ok answer := by
    rw [exists_eq_ok_iff]
    decide +kernel
  obtain ⟨⟨w, db₀⟩, horder⟩ := horder
  have hagree := h _ _ _ _ _ sampleFriends w db₀ rfl horder (sampleCharged_fresh .tiered)
  obtain ⟨db', hstored, -⟩ := hagree.charged 5201 w db₀ (by decide +kernel) horder
  have hrefused : ¬ ∃ answer, createSwap (sampleCtx 5) (sampleCharged .tiered) (.ofNat 1)
      (.ofNat 30) ⟨.ofNat 41, .ofNat 42, none⟩ = .ok answer := by
    rw [exists_eq_ok_iff]
    decide +kernel
  exact hrefused ⟨_, hstored⟩

end AjoCloud.Ajo
