import AjoCloud.Food.HandOut

/-!
# What completion means

A distribution or a programme can be completed when no item is without a confirmation.  A confirmation
is there from the moment a code is issued; it is used when the member collects.
-/

namespace AjoCloud.Food

open Lib ServiceError Ledger Payments

variable {s s' : Desk} {k : HandOutCall} {digest : String → String}

/-! ## What is asserted -/

/-- Every item of a completed distribution was collected. -/
def DistributionsCollected (db : Db) : Prop :=
  ∀ d ∈ db.food.distributions.rows, d.status = .completed →
    ∀ i ∈ db.food.distributionItems.rows, i.distributionId = d.id → Collected db i.id

/-- Every member who paid for a completed programme has collected. -/
def ProgrammesCollected (db : Db) : Prop :=
  ∀ g ∈ db.food.groups.rows, g.status = .completed →
    ∀ x ∈ db.food.subscriptions.rows, x.groupId = g.id → x.status = .active →
      ∃ i ∈ db.food.distributionItems.rows, i.subscriptionId = x.id ∧ Collected db i.id

/-! ## The condition -/

/-- No code that was issued for the item is still unused. -/
def CodesUsed (db : Db) (i : FoodDistributionItem) : Prop :=
  ∀ c ∈ db.food.confirmations.rows, c.distributionItemId = i.id → c.usedAt ≠ none

/-- Every member who paid has an item in a distribution of the programme that was not cancelled. -/
def EveryoneListed (db : Db) (programmeId : Uuid) : Prop :=
  ∀ x ∈ db.food.subscriptions.rows, x.groupId = programmeId → x.status = .active →
    ∃ i ∈ db.food.distributionItems.rows, i.subscriptionId = x.id ∧
      inLiveDistribution db programmeId i = true

/-- A distribution is completed only when no code for its items is unused; a programme only when
besides everyone who paid has an item. -/
def CompletesInOrder (s : Desk) (k : HandOutCall) : Prop :=
  Served s k ∧ match k with
    | .transitionDistribution _ _ _ distributionId .completed =>
        ∀ i ∈ s.db.food.distributionItems.rows, i.distributionId = distributionId →
          CodesUsed s.db i
    | .desk (.transitionProgramme _ _ programmeId .completed) =>
        EveryoneListed s.db programmeId ∧ ∀ i ∈ s.db.food.distributionItems.rows,
          inLiveDistribution s.db programmeId i = true → CodesUsed s.db i
    | _ => True

/-- An item with a confirmation that is used was collected. -/
theorem CodesUsed.collected {db : Db} {i : FoodDistributionItem} (h : CodesUsed db i)
    (hissued : hasConfirmation db i = true) : Collected db i.id := by
  obtain ⟨c, hfind⟩ := Option.isSome_iff_exists.mp hissued
  have hitem : c.distributionItemId = i.id := by simpa using Table.prop_of_find? hfind
  exact ⟨c, Table.mem_of_find? hfind, hitem, h c (Table.mem_of_find? hfind) hitem⟩

/-- With nothing outstanding, every item that is counted has a confirmation. -/
theorem hasConfirmation_of_count {db : Db} {q : FoodDistributionItem → Bool}
    (h : (db.food.distributionItems.findMany fun i ↦ q i && !hasConfirmation db i).length = 0)
    {i : FoodDistributionItem} (hi : i ∈ db.food.distributionItems.rows) (hq : q i = true) :
    hasConfirmation db i = true := by
  rw [List.length_eq_zero_iff, Table.findMany, List.filter_eq_nil_iff] at h
  simpa [hq] using h i hi

/-! ## Distributions -/

/-- Items are added with their distribution only. -/
theorem ServedEffect.item_cases (h : ServedEffect digest s k s') {i : FoodDistributionItem}
    (hi : i ∈ s'.db.food.distributionItems.rows) :
    i ∈ s.db.food.distributionItems.rows ∨
      ∃ d items, Planned s.db s'.db d items ∧ i ∈ items := by
  cases h with
  | desk _ _ _ same => exact .inl (same.items ▸ hi)
  | refused same => exact .inl (same ▸ hi)
  | planned _ d items h =>
      rw [h.stored, List.mem_append] at hi
      exact hi.imp_right fun hi ↦ ⟨d, items, h, hi⟩
  | movedOn _ _ _ _ d status _ h => exact .inl (by rw [h.after] at hi; exact hi)
  | issued _ h => exact .inl (by rw [h.after] at hi; exact hi)
  | handedOut _ _ _ _ _ _ _ c i' _ h => exact .inl (by rw [h.after] at hi; exact hi)

/-- The distributions after a step: new ones are planned, and the others kept or moved on. -/
theorem ServedEffect.distribution_cases (h : ServedEffect digest s k s') {d : FoodDistribution}
    (hd : d ∈ s'.db.food.distributions.rows) :
    d ∈ s.db.food.distributions.rows ∨ d.status = .planned ∨
      ∃ ctx userId programmeId d₀ status,
        k = .transitionDistribution ctx userId programmeId d₀.id status ∧
        MovedOn ctx s.db s'.db d₀ status ∧ d = moveDistribution ctx.now status d₀ := by
  cases h with
  | desk _ _ _ same => exact .inl (same.distributions ▸ hd)
  | refused same => exact .inl (same ▸ hd)
  | planned _ d₀ items h =>
      rw [insertRow_eq_ok h.distributions, List.mem_append, List.mem_singleton] at hd
      rcases hd with hd | rfl
      · exact .inl hd
      · exact .inr (.inl h.status)
  | movedOn _ ctx userId programmeId d₀ status asked h =>
      rw [h.distributions] at hd
      rcases mem_rewrite (fun y hy hid ↦ s.db.food.distributions.eq_of_clash hy h.mem
        (of_decide_eq_true hid)) hd with ⟨hd, -⟩ | rfl
      · exact .inl hd
      · exact .inr (.inr ⟨ctx, userId, programmeId, d₀, status, asked, h, rfl⟩)
  | issued _ h => exact .inl (by rw [h.after] at hd; exact hd)
  | handedOut _ _ _ _ _ _ _ c i' _ h => exact .inl (by rw [h.after] at hd; exact hd)

theorem DistributionsCollected.step (h : DistributionsCollected s.db)
    (he : ServedEffect digest s k s') (hk : CompletesInOrder s k) :
    DistributionsCollected s'.db := by
  intro d hd hcompleted i hi hitem
  rcases he.distribution_cases hd with hmem | hplanned |
    ⟨ctx, userId, programmeId, d₀, status, asked, hmoved, rfl⟩
  · rcases he.item_cases hi with hi | ⟨d', items, hplan, hi⟩
    · exact he.collected (h d hmem hcompleted i hi hitem)
    · -- The items of a new distribution belong to no other.
      have hid : d.id = d'.id := hitem.symm.trans (hplan.belongs i hi).1
      exact absurd hid (not_clash_of_insertRow hplan.distributions d hmem)
  · rw [hplanned] at hcompleted
    cases hcompleted
  · have hstatus : status = .completed := hcompleted
    subst hstatus
    have hi' : i ∈ s.db.food.distributionItems.rows := by
      rw [hmoved.after] at hi
      exact hi
    have hissued := hasConfirmation_of_count (hmoved.completed rfl) hi' (decide_eq_true hitem)
    rw [asked] at hk
    exact he.collected ((hk.2 i hi' hitem).collected hissued)

/-! ## Programmes -/

/-- A member becomes a paying one only while the programme takes payments. -/
theorem Effect.active_cases {call : Call} (h : Effect s call s') {x : FoodSubscription}
    (hx : x ∈ s'.db.food.subscriptions.rows) (hactive : x.status = .active) :
    (∃ y ∈ s.db.food.subscriptions.rows, y.id = x.id ∧ y.groupId = x.groupId ∧
      y.status = .active) ∨
      ∃ g ∈ s.db.food.groups.rows, g.id = x.groupId ∧ acceptsPayment g.status = true ∧
        s'.db.food.groups = s.db.food.groups := by
  have hkeep : x ∈ s.db.food.subscriptions.rows →
      ∃ y ∈ s.db.food.subscriptions.rows, y.id = x.id ∧ y.groupId = x.groupId ∧
        y.status = .active := fun hmem ↦ ⟨x, hmem, rfl, rfl, hactive⟩
  cases h with
  | aside _ ha => exact .inl (hkeep (ha.subscriptions ▸ hx))
  | created _ g ps ha => exact .inl (hkeep (by rw [ha.after] at hx; exact hx))
  | moved _ ctx _ g status _ ha => exact .inl (hkeep (by rw [ha.after] at hx; exact hx))
  | edited _ p dto ha => exact .inl (hkeep (by rw [ha.after] at hx; exact hx))
  | subscribed _ y may hy after =>
      rcases hy.mem_cases hx with hx | rfl
      · exact .inl (hkeep hx)
      · rw [may.pending] at hactive
        cases hactive
  | paid _ _ _ e ha =>
      rw [ha.subscriptions] at hx
      rcases mem_rewriteSubscription ha.stored.subscription hx with ⟨hx, -⟩ | rfl
      · exact .inl (hkeep hx)
      · exact .inr ⟨e.group, ha.stored.group, ha.stored.group_id, ha.accepts, ha.groups⟩
  | withdrawn _ _ _ _ _ e ha =>
      rw [ha.subscriptions] at hx
      rcases mem_rewriteSubscription ha.stored.subscription hx with ⟨hx, -⟩ | rfl
      · exact .inl (hkeep hx)
      · cases hactive

/-- A programme that is completed was completed before, or is now. -/
theorem Effect.completed_cases {call : Call} (h : Effect s call s') {g : FoodAjoGroup}
    (hg : g ∈ s'.db.food.groups.rows) (hcompleted : g.status = .completed) :
    g ∈ s.db.food.groups.rows ∨ ∃ ctx userId g₀, Moved ctx s.db s'.db g₀ .completed ∧
      call = .transitionProgramme ctx userId g₀.id .completed ∧ g.id = g₀.id := by
  cases h with
  | aside _ ha => exact .inl (ha.groups ▸ hg)
  | created _ g' ps ha =>
      rw [insertRow_eq_ok ha.groups, List.mem_append, List.mem_singleton] at hg
      rcases hg with hg | rfl
      · exact .inl hg
      · rw [ha.draft] at hcompleted
        cases hcompleted
  | moved _ ctx userId g₀ status asked ha =>
      have hgroups := hg
      rw [ha.groups] at hgroups
      rcases mem_rewrite (fun y hy hid ↦ group_eq_of_id hy ha.mem (of_decide_eq_true hid)) hgroups
        with ⟨hg, -⟩ | rfl
      · exact .inl hg
      · have hstatus : status = .completed := hcompleted
        subst hstatus
        exact .inr ⟨ctx, userId, g₀, ha, asked, rfl⟩
  | edited _ p dto ha => exact .inl (by rw [ha.after] at hg; exact hg)
  | subscribed _ y _ _ after => exact .inl (by rw [after] at hg; exact hg)
  | paid _ _ _ e ha => exact .inl (ha.groups ▸ hg)
  | withdrawn _ _ _ _ _ e ha => exact .inl (ha.groups ▸ hg)

/-- Who paid for a completed programme had paid before it was completed. -/
theorem Effect.active_before {call : Call} (h : Effect s call s') {x : FoodSubscription}
    (hx : x ∈ s'.db.food.subscriptions.rows) (hactive : x.status = .active) {g : FoodAjoGroup}
    (hg : g ∈ s'.db.food.groups.rows) (hcompleted : g.status = .completed)
    (hgroup : x.groupId = g.id) :
    ∃ y ∈ s.db.food.subscriptions.rows, y.id = x.id ∧ y.groupId = x.groupId ∧
      y.status = .active := by
  rcases h.active_cases hx hactive with hbefore | ⟨g', hg', hid, haccepts, hsame⟩
  · exact hbefore
  · rw [group_eq_of_id (hsame ▸ hg') hg (hid.trans hgroup), hcompleted] at haccepts
    cases haccepts

theorem ProgrammesCollected.step (h : ProgrammesCollected s.db) (he : ServedEffect digest s k s')
    (hk : CompletesInOrder s k) : ProgrammesCollected s'.db := by
  intro g hg hcompleted x hx hgroup hactive
  have hcarry : ∀ i ∈ s.db.food.distributionItems.rows, Collected s.db i.id →
      i.subscriptionId = x.id → ∃ i ∈ s'.db.food.distributionItems.rows,
        i.subscriptionId = x.id ∧ Collected s'.db i.id :=
    fun i hi hcollected hmine ↦ ⟨i, he.items hi, hmine, he.collected hcollected⟩
  obtain ⟨call, heffect⟩ := he.effect
  obtain ⟨y, hy, hyid, hygroup, hyactive⟩ := heffect.active_before hx hactive hg hcompleted hgroup
  have hold : g ∈ s.db.food.groups.rows → ∃ i ∈ s'.db.food.distributionItems.rows,
      i.subscriptionId = x.id ∧ Collected s'.db i.id := by
    intro hmem
    obtain ⟨i, hi, hmine, hcollected⟩ := h g hmem hcompleted y hy (hygroup.trans hgroup) hyactive
    exact hcarry i hi hcollected (hmine.trans hyid)
  have hcarryGroups : s'.db.food.groups = s.db.food.groups → g ∈ s.db.food.groups.rows :=
    fun hsame ↦ hsame ▸ hg
  cases he with
  | desk call' asked hdesk same =>
      rcases hdesk.completed_cases hg hcompleted with hmem | ⟨ctx, userId, g₀, hmoved, rfl, hgid⟩
      · exact hold hmem
      · rw [asked] at hk
        obtain ⟨hlisted, hused⟩ := hk.2
        obtain ⟨i, hi, hmine, hlive⟩ :=
          hlisted y hy ((hygroup.trans hgroup).trans hgid) hyactive
        have hissued := hasConfirmation_of_count (hmoved.completed rfl) hi hlive
        exact hcarry i hi ((hused i hi hlive).collected hissued) (hmine.trans hyid)
  | refused same => exact hold (same ▸ hg)
  | planned _ d items ha => exact hold (hcarryGroups (by rw [ha.after]))
  | movedOn _ _ _ _ d status _ ha => exact hold (hcarryGroups (by rw [ha.after]))
  | issued _ ha => exact hold (hcarryGroups (by rw [ha.after]))
  | handedOut _ _ _ _ _ _ _ c i _ ha => exact hold (hcarryGroups (by rw [ha.after]))

/-- **Completed means collected, when no code is left unused.**  In every run in which a distribution
is completed only when no code for its items is unused, and a programme only when besides everyone who
paid has an item in a distribution that was not cancelled: every item of a completed distribution was
collected, and everyone who paid for a completed programme has collected.  A call without effect need
not meet the condition. -/
theorem completed_means_collected {s₀ s : Desk} (h₀ : HandOutStarts s₀)
    (h : Reaches (serve digest) (Effective (serve digest) CompletesInOrder) s₀ s) :
    DistributionsCollected s.db ∧ ProgrammesCollected s.db := by
  obtain ⟨hstarts, hdistributions, -, -⟩ := h₀
  have hinvariant : Sound s ∧ DistributionsCollected s.db ∧ ProgrammesCollected s.db := by
    refine h.of_effective.invariant (I := fun s ↦ Sound s ∧ DistributionsCollected s.db ∧
      ProgrammesCollected s.db) ⟨hstarts.sound, ?_, ?_⟩ ?_
    · rw [DistributionsCollected, hdistributions]
      exact List.forall_mem_nil _
    · rw [ProgrammesCollected, hstarts.1]
      exact List.forall_mem_nil _
    · rintro s k ⟨hs, hdone, hprogrammes⟩ hk
      have he : ServedEffect digest s k (serve digest s k) := serve_effect hs.intents hk.1
      exact ⟨hs.serve hk.1, hdone.step he hk, hprogrammes.step he hk⟩
  exact hinvariant.2

section Sample

instance (db : Db) (i : FoodDistributionItem) : Decidable (CodesUsed db i) := by
  unfold CodesUsed
  infer_instance

instance (db : Db) (programmeId : Uuid) : Decidable (EveryoneListed db programmeId) := by
  unfold EveryoneListed
  infer_instance

/-- The calls that complete in order, apart from those of the rest of the platform. -/
def completesInOrder (s : Desk) (k : HandOutCall) : Bool :=
  admitsHandOut s k && match k with
    | .transitionDistribution _ _ _ distributionId .completed =>
        decide (∀ i ∈ s.db.food.distributionItems.rows, i.distributionId = distributionId →
          CodesUsed s.db i)
    | .desk (.transitionProgramme _ _ programmeId .completed) =>
        decide (EveryoneListed s.db programmeId ∧ ∀ i ∈ s.db.food.distributionItems.rows,
          inLiveDistribution s.db programmeId i = true → CodesUsed s.db i)
    | _ => true

theorem completesInOrder_of (s : Desk) (k : HandOutCall) (h : completesInOrder s k = true) :
    CompletesInOrder s k := by
  unfold completesInOrder at h
  rw [Bool.and_eq_true] at h
  refine ⟨served_of_admits h.1, ?_⟩
  split
  · exact of_decide_eq_true h.2
  · exact of_decide_eq_true h.2
  · trivial

/-- The member collects what they paid for; distribution and programme are completed. -/
def sampleCollected : List HandOutCall :=
  sampleReady ++ [sampleAsks 32 1 [0, 0, 0, 0, 0, 0], sampleMovesOn 33 .distributing,
    sampleConfirms 34 "aaa-aaa", sampleMovesOn 35 .completed, .desk (sampleMoves 36 .completed)]

/-- The member is issued a code but does not come; the distribution is completed. -/
def sampleForgotten : List HandOutCall :=
  sampleReady ++ [sampleAsks 32 1 [0, 0, 0, 0, 0, 0], sampleMovesOn 33 .distributing,
    sampleMovesOn 35 .completed]

theorem completed_means_collected_sample :
    (sampleServed (sampleStocked sampleBuying) sampleCollected).db.food.distributions.rows.map
        (·.status) = [.completed] ∧
      (sampleServed (sampleStocked sampleBuying) sampleCollected).db.food.groups.rows.map
        (·.status) = [.completed] ∧
      DistributionsCollected (sampleServed (sampleStocked sampleBuying) sampleCollected).db ∧
      ProgrammesCollected (sampleServed (sampleStocked sampleBuying) sampleCollected).db := by
  have hstarts : HandOutStarts sampleMembers := by decide +kernel
  refine ⟨by decide +kernel, by decide +kernel, completed_means_collected hstarts
    (reaches_sampleServed completesInOrder_of ?_ (by decide +kernel) (by decide +kernel)).effective⟩
  intro s
  exact ⟨served_sampleReceives s, trivial⟩

/-- A code that was issued is enough to complete a distribution. -/
theorem completed_without_collection :
    ¬ ∀ (digest : String → String) (s₀ s : Desk), HandOutStarts s₀ →
      Reaches (serve digest) Served s₀ s →
        DistributionsCollected s.db ∧ ProgrammesCollected s.db := by
  intro h
  have hcollected := (h sampleDigest sampleMembers
    (sampleServed (sampleStocked sampleBuying) sampleForgotten) (by decide +kernel)
    (reaches_sampleServed (fun _ _ ↦ served_of_admits) served_sampleReceives (by decide +kernel)
      (by decide +kernel))).1
  have hnot : ¬ ∀ d ∈ (sampleServed (sampleStocked sampleBuying)
      sampleForgotten).db.food.distributions.rows, d.status = .completed →
      ∀ i ∈ (sampleServed (sampleStocked sampleBuying)
        sampleForgotten).db.food.distributionItems.rows, i.distributionId = d.id →
        ∃ c ∈ (sampleServed (sampleStocked sampleBuying)
          sampleForgotten).db.food.confirmations.rows,
          c.distributionItemId = i.id ∧ c.usedAt ≠ none := by decide +kernel
  exact hnot hcollected

end Sample

end AjoCloud.Food
