import AjoCloud.Food.Completion

/-!
# Who collects, and how much

A code is issued for the item of the first live subscription that is found for the member.  A
collection is confirmed against the code alone: neither the payment of the subscription nor what was
collected for it before is looked at.
-/

namespace AjoCloud.Food

open Lib ServiceError Ledger Payments

variable {s s' : Desk} {k : HandOutCall} {call : Call} {digest : String → String} {db : Db}

/-! ## Where an item comes from -/

theorem any_confirmationOf {itemId : Uuid} :
    (confirmationOf db itemId).any (·.usedAt.isSome) = true ↔ Collected db itemId := by
  constructor
  · intro h
    obtain ⟨c, hfind, hused⟩ := (Option.any_eq_true _ _).mp h
    exact ⟨c, Table.mem_of_find? hfind, by simpa using Table.prop_of_find? hfind,
      Option.isSome_iff_ne_none.mp hused⟩
  · rintro ⟨c, hc, hitem, hused⟩
    have hfind : confirmationOf db itemId = some c :=
      db.food.confirmations.find?_eq_some_of_mem hc (decide_eq_true hitem) fun y _ hy ↦
        .inr ⟨rfl, congrArg some ((of_decide_eq_true hy).trans hitem.symm)⟩
    rw [hfind, Option.any_some]
    exact Option.isSome_iff_ne_none.mpr hused

/-- Subscriptions stay, in their programme. -/
theorem Effect.subscription_stays (h : Effect s call s') {x : FoodSubscription}
    (hx : x ∈ s.db.food.subscriptions.rows) :
    ∃ x' ∈ s'.db.food.subscriptions.rows, x'.id = x.id ∧ x'.groupId = x.groupId := by
  cases h with
  | aside _ ha => exact ⟨x, ha.subscriptions ▸ hx, rfl, rfl⟩
  | created _ g ps ha => exact ⟨x, by rw [ha.after]; exact hx, rfl, rfl⟩
  | moved _ ctx _ g status _ ha => exact ⟨x, by rw [ha.after]; exact hx, rfl, rfl⟩
  | edited _ p dto ha => exact ⟨x, by rw [ha.after]; exact hx, rfl, rfl⟩
  | subscribed _ y may hy after =>
      cases hy with
      | joined _ insert =>
          refine ⟨x, ?_, rfl, rfl⟩
          rw [insertRow_eq_ok insert]
          exact List.mem_append_left _ hx
      | rejoined z _ _ _ rows =>
          refine ⟨_, rows ▸ List.mem_map_of_mem hx, ?_⟩
          split
          · exact ⟨rfl, rfl⟩
          · exact ⟨rfl, rfl⟩
  | paid _ _ _ e ha =>
      refine ⟨_, ha.subscriptions ▸ List.mem_map_of_mem hx, ?_⟩
      split
      · exact ⟨rfl, rfl⟩
      · exact ⟨rfl, rfl⟩
  | withdrawn _ _ _ _ _ e ha =>
      refine ⟨_, ha.subscriptions ▸ List.mem_map_of_mem hx, ?_⟩
      split
      · exact ⟨rfl, rfl⟩
      · exact ⟨rfl, rfl⟩

/-- Distributions stay, in their programme. -/
theorem ServedEffect.distribution_stays (h : ServedEffect digest s k s') {d : FoodDistribution}
    (hd : d ∈ s.db.food.distributions.rows) :
    ∃ d' ∈ s'.db.food.distributions.rows, d'.id = d.id ∧ d'.groupId = d.groupId := by
  cases h with
  | desk _ _ _ same => exact ⟨d, same.distributions ▸ hd, rfl, rfl⟩
  | refused same => exact ⟨d, same ▸ hd, rfl, rfl⟩
  | planned _ d₀ items h =>
      refine ⟨d, ?_, rfl, rfl⟩
      rw [insertRow_eq_ok h.distributions]
      exact List.mem_append_left _ hd
  | movedOn _ _ _ _ d₀ status _ h =>
      refine ⟨_, h.distributions ▸ List.mem_map_of_mem hd, ?_⟩
      split
      · exact ⟨rfl, rfl⟩
      · exact ⟨rfl, rfl⟩
  | issued _ h => exact ⟨d, by rw [h.after]; exact hd, rfl, rfl⟩
  | handedOut _ _ _ _ _ _ _ c i _ h => exact ⟨d, by rw [h.after]; exact hd, rfl, rfl⟩

/-- An item is that of a subscription in a distribution of the same programme. -/
def Listed (db : Db) (i : FoodDistributionItem) : Prop :=
  ∃ x ∈ db.food.subscriptions.rows, ∃ d ∈ db.food.distributions.rows,
    x.id = i.subscriptionId ∧ d.id = i.distributionId ∧ x.groupId = d.groupId

theorem Listed.step (he : ServedEffect digest s k s')
    (h : ∀ i ∈ s.db.food.distributionItems.rows, Listed s.db i) :
    ∀ i ∈ s'.db.food.distributionItems.rows, Listed s'.db i := by
  intro i hi
  obtain ⟨call, heffect⟩ := he.effect
  rcases he.item_cases hi with hi | ⟨d, items, hplan, hi⟩
  · obtain ⟨x, hx, d, hd, hxid, hdid, hgroup⟩ := h i hi
    obtain ⟨x', hx', hxid', hxgroup⟩ := heffect.subscription_stays hx
    obtain ⟨d', hd', hdid', hdgroup⟩ := he.distribution_stays hd
    exact ⟨x', hx', d', hd', hxid'.trans hxid, hdid'.trans hdid,
      hxgroup.trans (hgroup.trans hdgroup.symm)⟩
  · obtain ⟨hdid, x, hx, hxid, hgroup, -⟩ := hplan.belongs i hi
    obtain ⟨x', hx', hxid', hxgroup⟩ := heffect.subscription_stays hx
    refine ⟨x', hx', d, ?_, hxid'.trans hxid, hdid.symm, hxgroup.trans hgroup⟩
    rw [insertRow_eq_ok hplan.distributions]
    exact List.mem_append_right _ (List.mem_singleton_self _)

theorem listed_of_reaches {s₀ : Desk} (h₀ : HandOutStarts s₀)
    (h : Reaches (serve digest) Served s₀ s) :
    Sound s ∧ ∀ i ∈ s.db.food.distributionItems.rows, Listed s.db i := by
  refine h.invariant (I := fun s ↦ Sound s ∧ ∀ i ∈ s.db.food.distributionItems.rows,
    Listed s.db i) ⟨h₀.1.sound, ?_⟩ ?_
  · rw [h₀.2.2.1]
    exact List.forall_mem_nil _
  · rintro s k ⟨hs, hlisted⟩ hk
    exact ⟨hs.serve hk, Listed.step (serve_effect hs.intents hk) hlisted⟩

/-! ## Which item a code is issued for -/

/-- The subscription is the one that `findFirst` returns of those of its member in the programme that are
live: the first of them in the table. -/
def FirstLive (db : Db) (x : FoodSubscription) : Prop :=
  isLive x = true ∧ ∃ before after, db.food.subscriptions.rows = before ++ x :: after ∧
    ∀ y ∈ before, y.groupId = x.groupId → y.userId = x.userId → isLive y = false

theorem memberSubscription_eq_some_iff {x : FoodSubscription} :
    memberSubscription db x.userId x.groupId = some x ↔ FirstLive db x := by
  unfold memberSubscription FirstLive
  rw [Table.find?, List.find?_eq_some_iff_append]
  simp only [decide_true, Bool.true_and, Bool.not_and, Bool.or_eq_true, Bool.not_eq_true',
    decide_eq_false_iff_not]
  refine and_congr_right fun _ ↦ exists_congr fun before ↦ exists_congr fun after ↦
    and_congr_right fun _ ↦ forall_congr' fun y ↦ forall_congr' fun _ ↦ ?_
  rw [← imp_iff_not_or, ← imp_iff_not_or]

/-- The code of an item can be stored unless it has been used. -/
theorem exists_storeCode {ctx : Ctx} (hfresh : ∀ c ∈ db.food.confirmations.rows, c.id ≠ ctx.uuid 0)
    (itemId userId : Uuid) (hash : String) (expiresAt : Timestamp) :
    ∃ confirmations, storeCode ctx db itemId userId hash expiresAt = .ok confirmations := by
  unfold storeCode
  split
  · next c hc =>
      have hmine := Table.prop_of_find? (show db.food.confirmations.find? _ = some c from hc)
      exact exists_updateRow (Table.mem_of_find? hc) hmine fun h ↦ h
  · next hnone =>
      refine exists_insertRow fun c hc hclash ↦ ?_
      rcases hclash with hid | ⟨-, hitem⟩
      · exact hfresh c hc hid
      · exact Table.not_of_find?_eq_none hnone hc (decide_eq_true (Option.some_inj.mp hitem))

/-- Asking for a code succeeds for the item of the subscription that is found, unless it has been
collected. -/
theorem issueCollectionCode_for {ctx : Ctx} {d : FoodDistribution} {i : FoodDistributionItem}
    {x : FoodSubscription} (hd : d ∈ db.food.distributions.rows)
    (hstatus : d.status = .ready ∨ d.status = .distributing)
    (hi : i ∈ db.food.distributionItems.rows) (hitem : i.distributionId = d.id)
    (hmine : x.id = i.subscriptionId) (hleft : ¬ Collected db i.id)
    (hfresh : ∀ c ∈ db.food.confirmations.rows, c.id ≠ ctx.uuid 0)
    (hfind : memberSubscription db x.userId d.groupId = some x) (randomBytes : List UInt8) :
    ∃ r db', issueCollectionCode ctx db digest randomBytes x.userId d.id = .ok (r, db') ∧
      r.distributionItemId = i.id := by
  have hfindDistribution : (db.food.distributions.find? fun y ↦ y.id = d.id) = some d :=
    db.food.distributions.find?_eq_some_of_mem hd (decide_eq_true rfl)
      fun y _ hy ↦ of_decide_eq_true hy
  have hfindItem : (db.food.distributionItems.find? fun j ↦
      j.distributionId = d.id ∧ j.subscriptionId = x.id) = some i := by
    refine db.food.distributionItems.find?_eq_some_of_mem hi (decide_eq_true ⟨hitem, hmine.symm⟩) ?_
    intro j _ hj
    obtain ⟨hjd, hjx⟩ := of_decide_eq_true hj
    exact .inr ⟨rfl, congrArg some (Prod.ext (hjd.trans hitem.symm) (hjx.trans hmine))⟩
  obtain ⟨confirmations, hstored⟩ := exists_storeCode hfresh i.id x.userId
    (digest (generateCollectionCode randomBytes)) (ctx.now + COLLECTION_CODE_TTL_MS)
  refine ⟨⟨i.id, ctx.now + COLLECTION_CODE_TTL_MS, generateCollectionCode randomBytes⟩,
    { db with food := { db.food with confirmations := confirmations } }, ?_, rfl⟩
  rw [issueCollectionCode, orThrow_bind_eq_ok]
  refine ⟨d, hfindDistribution, orThrow_bind_eq_ok.mpr ⟨x, hfind, orThrow_bind_eq_ok.mpr
    ⟨i, hfindItem, require_bind_eq_ok.mpr ⟨fun hused ↦ hleft (any_confirmationOf.mp hused),
      require_bind_eq_ok.mpr ⟨hstatus, ?_⟩⟩⟩⟩⟩
  exact bind_eq_ok.mpr ⟨confirmations, hstored, rfl⟩

/-- A code is issued for the item of the subscription that is found. -/
theorem memberSubscription_of_issued {ctx : Ctx} {randomBytes : List UInt8} {d : FoodDistribution}
    {i : FoodDistributionItem} {x : FoodSubscription} {userId : Uuid} {r : IssuedCode} {db' : Db}
    (hd : d ∈ db.food.distributions.rows) (hi : i ∈ db.food.distributionItems.rows)
    (hx : x ∈ db.food.subscriptions.rows) (hmine : x.id = i.subscriptionId)
    (h : issueCollectionCode ctx db digest randomBytes userId d.id = .ok (r, db'))
    (hr : r.distributionItemId = i.id) : memberSubscription db userId d.groupId = some x := by
  simp only [issueCollectionCode, bind_eq_ok, require_eq_ok, orThrow_eq_ok, pure_eq_ok,
    exists_const, Prod.mk.injEq] at h
  obtain ⟨d', hd', y, hy, j, hj, -, -, confirmations, -, rfl, -⟩ := h
  have hid : d'.id = d.id := by simpa using Table.prop_of_find? hd'
  obtain rfl : d' = d := db.food.distributions.eq_of_clash (Table.mem_of_find? hd') hd hid
  obtain rfl : j = i := db.food.distributionItems.eq_of_clash (Table.mem_of_find? hj) hi (.inl hr)
  have hprop := Table.prop_of_find? hj
  rw [decide_eq_true_eq] at hprop
  obtain rfl : y = x :=
    subscription_eq_of_id (Table.mem_of_find? hy) hx (hprop.2.symm.trans hmine.symm)
  exact hy

/-- **A code is obtained for the first live subscription.**  In every state of every run, a member can
be issued a code for an item they have not collected, in a distribution that is ready or handing out,
if and only if the subscription of the item is live and no live one of theirs in the programme comes
before it. -/
theorem code_obtained_iff {s₀ : Desk} (h₀ : HandOutStarts s₀)
    (h : Reaches (serve digest) Served s₀ s) {d : FoodDistribution}
    (hd : d ∈ s.db.food.distributions.rows)
    (hstatus : d.status = .ready ∨ d.status = .distributing) {i : FoodDistributionItem}
    (hi : i ∈ s.db.food.distributionItems.rows) (hitem : i.distributionId = d.id)
    {x : FoodSubscription} (hx : x ∈ s.db.food.subscriptions.rows)
    (hmine : x.id = i.subscriptionId) (hleft : ¬ Collected s.db i.id) {ctx : Ctx}
    (hfresh : ∀ c ∈ s.db.food.confirmations.rows, c.id ≠ ctx.uuid 0) (randomBytes : List UInt8) :
    (∃ r db', issueCollectionCode ctx s.db digest randomBytes x.userId d.id = .ok (r, db') ∧
      r.distributionItemId = i.id) ↔ FirstLive s.db x := by
  obtain ⟨x', hx', d', hd', hxid, hdid, hgroup⟩ := (listed_of_reaches h₀ h).2 i hi
  obtain rfl : x' = x := subscription_eq_of_id hx' hx (hxid.trans hmine.symm)
  obtain rfl : d' = d := s.db.food.distributions.eq_of_clash hd' hd (hdid.trans hitem)
  rw [← memberSubscription_eq_some_iff, hgroup]
  constructor
  · rintro ⟨r, db', hok, hr⟩
    exact memberSubscription_of_issued hd hi hx hmine hok hr
  · intro hfind
    exact issueCollectionCode_for hd hstatus hi hitem hmine hleft hfresh hfind randomBytes

section Sample

/-- A member enrols for both packages and pays for both; the programme starts buying. -/
def sampleBothPackages : List Call :=
  sampleOpening ++ sampleEnrols 10 10 1 sampleRice ++ sampleEnrols 14 14 1 sampleBeans ++
    [sampleMoves 20 .active]

/-- The distribution of both packages, once it is ready. -/
def sampleBothReady : Desk := sampleServed (sampleStocked sampleBothPackages) sampleReady

theorem reaches_sampleBothReady : Reaches (serve sampleDigest) Served sampleMembers sampleBothReady :=
  reaches_sampleServed (fun _ _ ↦ served_of_admits) served_sampleReceives (by decide +kernel)
    (by decide +kernel)

/-- The subscriptions of the member, and the items of the distribution. -/
def sampleRicePaid : FoodSubscription :=
  ⟨(sampleDraw 10 10).uuid 0, sampleProgramme, sampleRice, .ofNat 1, .active, 2, .pickup, 200, some 10⟩
def sampleBeansPaid : FoodSubscription :=
  ⟨(sampleDraw 14 14).uuid 0, sampleProgramme, sampleBeans, .ofNat 1, .active, 2, .pickup, 100, some 14⟩
def sampleItem (n : Nat) (x : FoodSubscription) : FoodDistributionItem :=
  ⟨(sampleDraw 30 30).uuid n, sampleDistribution, x.id, 2⟩

theorem code_obtained_iff_sample :
    FirstLive sampleBothReady.db sampleRicePaid ∧
      ∃ r db', issueCollectionCode (sampleDraw 32 32) sampleBothReady.db sampleDigest
        [0, 0, 0, 0, 0, 0] (.ofNat 1) sampleDistribution = .ok (r, db') ∧
        r.distributionItemId = (sampleItem 1 sampleRicePaid).id := by
  have hfirst : FirstLive sampleBothReady.db sampleRicePaid :=
    memberSubscription_eq_some_iff.mp (by decide +kernel)
  refine ⟨hfirst, (code_obtained_iff (by decide +kernel) reaches_sampleBothReady
    (d := ⟨sampleDistribution, sampleProgramme, .ready, 1000, none⟩)
    (by decide +kernel) (.inl rfl) (i := sampleItem 1 sampleRicePaid) (by decide +kernel) rfl
    (x := sampleRicePaid) (by decide +kernel) rfl ?_ (by decide +kernel) _).mpr hfirst⟩
  rw [← any_confirmationOf]
  decide +kernel

/-- With two packages, only the first can be collected. -/
theorem second_package_without_code :
    ¬ ∀ (digest : String → String) (s₀ s : Desk), HandOutStarts s₀ →
      Reaches (serve digest) Served s₀ s → ∀ d ∈ s.db.food.distributions.rows,
      d.status = .ready ∨ d.status = .distributing →
      ∀ i ∈ s.db.food.distributionItems.rows, i.distributionId = d.id →
      ∀ x ∈ s.db.food.subscriptions.rows, x.id = i.subscriptionId → ¬ Collected s.db i.id →
      ∀ (ctx : Ctx) (randomBytes : List UInt8),
        (∀ c ∈ s.db.food.confirmations.rows, c.id ≠ ctx.uuid 0) →
        ∃ r db', issueCollectionCode ctx s.db digest randomBytes x.userId d.id = .ok (r, db') ∧
          r.distributionItemId = i.id := by
  intro h
  have hleft : ¬ Collected sampleBothReady.db (sampleItem 2 sampleBeansPaid).id := by
    rw [← any_confirmationOf]
    decide +kernel
  obtain ⟨r, db', hok, hr⟩ := h sampleDigest sampleMembers sampleBothReady (by decide +kernel)
    reaches_sampleBothReady ⟨sampleDistribution, sampleProgramme, .ready, 1000, none⟩
    (by decide +kernel) (.inl rfl) (sampleItem 2 sampleBeansPaid) (by decide +kernel) rfl
    sampleBeansPaid (by decide +kernel) rfl hleft (sampleDraw 32 32) [0, 0, 0, 0, 0, 0]
    (by decide +kernel)
  have hrice : (issueCollectionCode (sampleDraw 32 32) sampleBothReady.db sampleDigest
      [0, 0, 0, 0, 0, 0] (.ofNat 1) sampleDistribution).toOption.map
        (·.1.distributionItemId) = some (sampleItem 1 sampleRicePaid).id := by decide +kernel
  have hbeans := congrArg (fun result ↦ result.toOption.map (·.1.distributionItemId)) hok
  have hboth := hrice.symm.trans (hbeans.trans (congrArg some hr))
  exact absurd hboth (by decide +kernel)

end Sample

/-! ## What is collected for a subscription -/

/-- The portions collected for a subscription, over all distributions. -/
def collectedQuantity (db : Db) (subscriptionId : Uuid) : Int :=
  sumWhere db.food.distributionItems.rows (fun i ↦ i.subscriptionId = subscriptionId &&
    (confirmationOf db i.id).any (·.usedAt.isSome)) (·.quantity)

/-- What has been paid on a subscription is the price of its package for each portion. -/
def FullyPaid (db : Db) (x : FoodSubscription) : Prop :=
  ∃ p ∈ db.food.packages.rows, p.id = x.packageId ∧
    x.amountPaidMinor = subscriptionTotalMinor p.priceMinor x.quantity

/-- A confirmation that has become used is that of a subscription which had been paid in full. -/
def PaidWhenUsed (s s' : Desk) : Prop :=
  ∀ c' ∈ s'.db.food.confirmations.rows, c'.usedAt ≠ none → ¬ Collected s.db c'.distributionItemId →
    ∃ i ∈ s.db.food.distributionItems.rows, i.id = c'.distributionItemId ∧
      ∃ x ∈ s.db.food.subscriptions.rows, x.id = i.subscriptionId ∧ FullyPaid s.db x

/-- A collection is confirmed only for a subscription that has been paid, for which nothing has been
collected and which is for no fewer portions than the item; and whoever takes an enrolment up again
takes no fewer portions than were collected for it. -/
def HandsOutFairly (digest : String → String) (s : Desk) (k : HandOutCall) : Prop :=
  Served s k ∧ match k with
    | .confirmCollection _ _ _ distributionId dto =>
        ∀ c, presented s.db digest distributionId dto.code = some c →
        ∀ i ∈ s.db.food.distributionItems.rows, i.id = c.distributionItemId →
        ∀ x ∈ s.db.food.subscriptions.rows, x.id = i.subscriptionId →
          x.status = .active ∧ i.quantity ≤ x.quantity ∧
            ∀ j ∈ s.db.food.distributionItems.rows, j.subscriptionId = x.id →
              ¬ Collected s.db j.id
    | .desk (.subscribe _ userId programmeId dto) =>
        ∀ x ∈ s.db.food.subscriptions.rows, x.userId = userId → x.groupId = programmeId →
          x.packageId = dto.packageId →
          ∀ i ∈ s.db.food.distributionItems.rows, i.subscriptionId = x.id →
            Collected s.db i.id → i.quantity ≤ dto.quantity
    | _ => True

/-- What was collected for a subscription is one item, of no more portions than the subscription. -/
structure Fair (db : Db) : Prop where
  listed : ∀ i ∈ db.food.distributionItems.rows, Listed db i
  confirmed : ∀ c ∈ db.food.confirmations.rows,
    ∃ i ∈ db.food.distributionItems.rows, i.id = c.distributionItemId
  once : ∀ i ∈ db.food.distributionItems.rows, ∀ j ∈ db.food.distributionItems.rows,
    i.subscriptionId = j.subscriptionId → Collected db i.id → Collected db j.id → i = j
  fits : ∀ i ∈ db.food.distributionItems.rows, Collected db i.id →
    ∀ x ∈ db.food.subscriptions.rows, x.id = i.subscriptionId → i.quantity ≤ x.quantity

/-- What is collected after a step was collected before, or is collected now. -/
theorem ServedEffect.collected_cases (h : ServedEffect digest s k s') {itemId : Uuid}
    (hc : Collected s'.db itemId) :
    Collected s.db itemId ∨ ∃ ctx userId programmeId distributionId dto c i,
      k = .confirmCollection ctx userId programmeId distributionId dto ∧
      presented s.db digest distributionId dto.code = some c ∧
      HandedOut ctx s.db s'.db distributionId c i dto.evidenceStorageKey ∧ itemId = i.id := by
  obtain ⟨c', hmem, hitem, hused⟩ := hc
  cases h with
  | desk _ _ _ same => exact .inl ⟨c', same.confirmations ▸ hmem, hitem, hused⟩
  | refused same => exact .inl (same ▸ ⟨c', hmem, hitem, hused⟩)
  | planned _ d items h => exact .inl ⟨c', by rw [h.after] at hmem; exact hmem, hitem, hused⟩
  | movedOn _ _ _ _ d status _ h =>
      exact .inl ⟨c', by rw [h.after] at hmem; exact hmem, hitem, hused⟩
  | issued _ h =>
      rcases h.unused c' hmem with hnone | ⟨c, hc, hcitem, hcused⟩
      · exact absurd hnone hused
      · exact .inl ⟨c, hc, hcitem.trans hitem, hcused ▸ hused⟩
  | handedOut _ ctx userId programmeId distributionId dto asked c i matched h =>
      rw [h.confirmations] at hmem
      rcases mem_rewrite (fun y hy hid ↦ confirmation_eq_of_id hy h.mem (of_decide_eq_true hid)) hmem
        with ⟨hmem, -⟩ | rfl
      · exact .inl ⟨c', hmem, hitem, hused⟩
      · exact .inr ⟨ctx, userId, programmeId, distributionId, dto, c, i, asked, matched, h,
          hitem.symm.trans h.item_id.symm⟩

/-- The subscriptions after a step: kept with their quantity, new, or taken up again. -/
theorem Effect.subscription_cases (h : Effect s call s') {x : FoodSubscription}
    (hx : x ∈ s'.db.food.subscriptions.rows) :
    (∃ y ∈ s.db.food.subscriptions.rows, y.id = x.id ∧ y.quantity = x.quantity) ∨
      (∀ y ∈ s.db.food.subscriptions.rows, y.id ≠ x.id) ∨
      ∃ ctx userId programmeId dto, call = .subscribe ctx userId programmeId dto ∧
        x.quantity = dto.quantity ∧ ∃ y ∈ s.db.food.subscriptions.rows, y.id = x.id ∧
          y.userId = userId ∧ y.groupId = programmeId ∧ y.packageId = dto.packageId := by
  have hkeep : x ∈ s.db.food.subscriptions.rows →
      ∃ y ∈ s.db.food.subscriptions.rows, y.id = x.id ∧ y.quantity = x.quantity :=
    fun hmem ↦ ⟨x, hmem, rfl, rfl⟩
  cases h with
  | aside _ ha => exact .inl (hkeep (ha.subscriptions ▸ hx))
  | created _ g ps ha => exact .inl (hkeep (by rw [ha.after] at hx; exact hx))
  | moved _ ctx _ g status _ ha => exact .inl (hkeep (by rw [ha.after] at hx; exact hx))
  | edited _ p dto ha => exact .inl (hkeep (by rw [ha.after] at hx; exact hx))
  | subscribed _ y may hy after asked =>
      rcases hy.mem_cases hx with hx | rfl
      · exact .inl (hkeep hx)
      · cases hy with
        | joined _ insert =>
            exact .inr (.inl fun y hy hid ↦ not_clash_of_insertRow insert y hy (.inl hid))
        | rejoined z mem _ renewed _ =>
            obtain ⟨ctx, userId, programmeId, dto, hcall, hasked⟩ := asked
            refine .inr (.inr ⟨ctx, userId, programmeId, dto, hcall, hasked.quantity, z, mem, ?_⟩)
            refine ⟨?_, hasked.user ▸ ?_, hasked.group ▸ ?_, hasked.package ▸ ?_⟩
            all_goals rw [renewed]; rfl
  | paid _ _ _ e ha =>
      rw [ha.subscriptions] at hx
      rcases mem_rewriteSubscription ha.stored.subscription hx with ⟨hx, -⟩ | rfl
      · exact .inl (hkeep hx)
      · exact .inl ⟨e.subscription, ha.stored.subscription, rfl, rfl⟩
  | withdrawn _ _ _ _ _ e ha =>
      rw [ha.subscriptions] at hx
      rcases mem_rewriteSubscription ha.stored.subscription hx with ⟨hx, -⟩ | rfl
      · exact .inl (hkeep hx)
      · exact .inl ⟨e.subscription, ha.stored.subscription, rfl, rfl⟩

/-- The same, for the calls of the hand-outs, which leave the subscriptions alone. -/
theorem ServedEffect.subscription_cases (h : ServedEffect digest s k s') {x : FoodSubscription}
    (hx : x ∈ s'.db.food.subscriptions.rows) :
    (∃ y ∈ s.db.food.subscriptions.rows, y.id = x.id ∧ y.quantity = x.quantity) ∨
      (∀ y ∈ s.db.food.subscriptions.rows, y.id ≠ x.id) ∨
      ∃ ctx userId programmeId dto, k = .desk (.subscribe ctx userId programmeId dto) ∧
        x.quantity = dto.quantity ∧ ∃ y ∈ s.db.food.subscriptions.rows, y.id = x.id ∧
          y.userId = userId ∧ y.groupId = programmeId ∧ y.packageId = dto.packageId := by
  have hkeep : x ∈ s.db.food.subscriptions.rows →
      ∃ y ∈ s.db.food.subscriptions.rows, y.id = x.id ∧ y.quantity = x.quantity :=
    fun hmem ↦ ⟨x, hmem, rfl, rfl⟩
  cases h with
  | desk call asked h _ =>
      rcases h.subscription_cases hx with hkept | hnew | ⟨ctx, userId, programmeId, dto, rfl, hrest⟩
      · exact .inl hkept
      · exact .inr (.inl hnew)
      · exact .inr (.inr ⟨ctx, userId, programmeId, dto, asked, hrest⟩)
  | refused same => exact .inl (hkeep (same ▸ hx))
  | planned _ d items h => exact .inl (hkeep (by rw [h.after] at hx; exact hx))
  | movedOn _ _ _ _ d status _ h => exact .inl (hkeep (by rw [h.after] at hx; exact hx))
  | issued _ h => exact .inl (hkeep (by rw [h.after] at hx; exact hx))
  | handedOut _ _ _ _ _ _ _ c i _ h => exact .inl (hkeep (by rw [h.after] at hx; exact hx))

/-- A new item is not that of any confirmation. -/
theorem Fair.not_collected_of_planned (h : Fair s.db) {d : FoodDistribution}
    {items : List FoodDistributionItem} (hplan : Planned s.db s'.db d items)
    {i : FoodDistributionItem} (hi : i ∈ items) : ¬ Collected s.db i.id := by
  rintro ⟨c, hc, hitem, -⟩
  obtain ⟨j, hj, hid⟩ := h.confirmed c hc
  have hnodup := s'.db.food.distributionItems.nodup
  have hsame : j = i := s'.db.food.distributionItems.eq_of_clash
    (hplan.stored ▸ List.mem_append_left _ hj) (hplan.stored ▸ List.mem_append_right _ hi)
    (.inl (hid.trans hitem))
  rw [hplan.stored, List.nodup_append] at hnodup
  exact hnodup.2.2 j hj i hi hsame

/-- What is collected after a step, as an item that was there before it. -/
theorem Fair.collected_item (h : Fair s.db) (he : ServedEffect digest s k s')
    {i : FoodDistributionItem} (hi : i ∈ s'.db.food.distributionItems.rows)
    (hc : Collected s'.db i.id) :
    i ∈ s.db.food.distributionItems.rows ∧ (Collected s.db i.id ∨
      ∃ ctx userId programmeId distributionId dto c,
        k = .confirmCollection ctx userId programmeId distributionId dto ∧
        presented s.db digest distributionId dto.code = some c ∧
        HandedOut ctx s.db s'.db distributionId c i dto.evidenceStorageKey) := by
  rcases he.collected_cases hc with hbefore |
    ⟨ctx, userId, programmeId, distributionId, dto, c, j, hask, hmatched, hout, hid⟩
  · refine ⟨?_, .inl hbefore⟩
    rcases he.item_cases hi with hi | ⟨d, items, hplan, hi⟩
    · exact hi
    · exact absurd hbefore (h.not_collected_of_planned hplan hi)
  · have hi' : i ∈ s.db.food.distributionItems.rows := by
      rw [hout.after] at hi
      exact hi
    obtain rfl : i = j := s.db.food.distributionItems.eq_of_clash hi' hout.item (.inl hid)
    exact ⟨hi', .inr ⟨ctx, userId, programmeId, distributionId, dto, c, hask, hmatched, hout⟩⟩

theorem Fair.confirmed_step (h : Fair s.db) (he : ServedEffect digest s k s') :
    ∀ c ∈ s'.db.food.confirmations.rows,
      ∃ i ∈ s'.db.food.distributionItems.rows, i.id = c.distributionItemId := by
  intro c hc
  have hkeep : ∀ c₀ ∈ s.db.food.confirmations.rows,
      c₀.distributionItemId = c.distributionItemId →
      ∃ i ∈ s'.db.food.distributionItems.rows, i.id = c.distributionItemId := by
    intro c₀ hc₀ hitem
    obtain ⟨i, hi, hid⟩ := h.confirmed c₀ hc₀
    exact ⟨i, he.items hi, hid.trans hitem⟩
  have heffect := he
  cases he with
  | desk _ _ _ same => exact hkeep c (same.confirmations ▸ hc) rfl
  | refused same => exact hkeep c (same ▸ hc) rfl
  | planned _ d items ha => exact hkeep c (by rw [ha.after] at hc; exact hc) rfl
  | movedOn _ _ _ _ d status _ ha => exact hkeep c (by rw [ha.after] at hc; exact hc) rfl
  | issued _ ha =>
      rcases ha.items c hc with ⟨c₀, hc₀, hitem⟩ | ⟨i, hi, hid⟩
      · exact hkeep c₀ hc₀ hitem
      · exact ⟨i, heffect.items hi, hid⟩
  | handedOut _ _ _ _ _ _ _ c₀ i _ ha =>
      rw [ha.confirmations] at hc
      rcases mem_rewrite (fun y hy hid ↦ confirmation_eq_of_id hy ha.mem (of_decide_eq_true hid)) hc
        with ⟨hc, -⟩ | rfl
      · exact hkeep c hc rfl
      · exact hkeep c₀ ha.mem rfl

theorem Fair.once_step (h : Fair s.db) (he : ServedEffect digest s k s')
    (hk : HandsOutFairly digest s k) :
    ∀ i ∈ s'.db.food.distributionItems.rows, ∀ j ∈ s'.db.food.distributionItems.rows,
      i.subscriptionId = j.subscriptionId → Collected s'.db i.id → Collected s'.db j.id → i = j := by
  intro i hi j hj hsame hci hcj
  obtain ⟨hi, hci⟩ := h.collected_item he hi hci
  obtain ⟨hj, hcj⟩ := h.collected_item he hj hcj
  obtain ⟨x, hx, -, -, hxid, -⟩ := h.listed i hi
  rcases hci with hci | ⟨ctx, userId, programmeId, distributionId, dto, c, rfl, hpresented, hout⟩
  · rcases hcj with hcj | ⟨ctx, userId, programmeId, distributionId, dto, c, rfl, hpresented, hout⟩
    · exact h.once i hi j hj hsame hci hcj
    · exact absurd hci ((hk.2 c hpresented j hj hout.item_id x hx (hxid.trans hsame)).2.2 i hi
        hxid.symm)
  · rcases hcj with hcj | ⟨_, _, _, _, _, c', heq, hpresented', hout'⟩
    · exact absurd hcj ((hk.2 c hpresented i hi hout.item_id x hx hxid).2.2 j hj
        (hsame.symm.trans hxid.symm))
    · -- Both are handed out against the same code.
      cases heq
      obtain rfl : c = c' := Option.some_inj.mp (hpresented.symm.trans hpresented')
      exact s.db.food.distributionItems.eq_of_clash hi hj
        (.inl (hout.item_id.trans hout'.item_id.symm))

theorem Fair.fits_step (h : Fair s.db) (he : ServedEffect digest s k s')
    (hk : HandsOutFairly digest s k) :
    ∀ i ∈ s'.db.food.distributionItems.rows, Collected s'.db i.id →
      ∀ x ∈ s'.db.food.subscriptions.rows, x.id = i.subscriptionId → i.quantity ≤ x.quantity := by
  intro i hi hc x hx hxid
  obtain ⟨hi, hc⟩ := h.collected_item he hi hc
  rcases hc with hc | ⟨ctx, userId, programmeId, distributionId, dto, c, rfl, hpresented, hout⟩
  · rcases he.subscription_cases hx with ⟨y, hy, hyid, hquantity⟩ | hnew |
      ⟨ctx, userId, programmeId, dto, rfl, hquantity, y, hy, hyid, huser, hgroup, hpackage⟩
    · exact hquantity ▸ h.fits i hi hc y hy (hyid.trans hxid)
    · obtain ⟨y, hy, -, -, hyid, -⟩ := h.listed i hi
      exact absurd (hyid.trans hxid.symm) (hnew y hy)
    · rw [hquantity]
      exact hk.2 y hy huser hgroup hpackage i hi (hxid.symm.trans hyid.symm) hc
  · have hx' : x ∈ s.db.food.subscriptions.rows := by
      rw [hout.after] at hx
      exact hx
    exact (hk.2 c hpresented i hi hout.item_id x hx' hxid).2.1

theorem Fair.step (h : Fair s.db) (he : ServedEffect digest s k s')
    (hk : HandsOutFairly digest s k) : Fair s'.db :=
  ⟨Listed.step he h.listed, h.confirmed_step he, h.once_step he hk, h.fits_step he hk⟩

/-- What was collected for a subscription is at most what it is for. -/
theorem Fair.collectedQuantity_le (h : Fair s.db) (hs : Sound s) {x : FoodSubscription}
    (hx : x ∈ s.db.food.subscriptions.rows) : collectedQuantity s.db x.id ≤ x.quantity := by
  by_cases hsome : ∃ i ∈ s.db.food.distributionItems.rows, i.subscriptionId = x.id ∧
    Collected s.db i.id
  · obtain ⟨i, hi, hmine, hc⟩ := hsome
    have hsum : collectedQuantity s.db x.id = i.quantity := by
      refine sumWhere_eq_single s.db.food.distributionItems.nodup hi fun j hj ↦ ?_
      rw [Bool.and_eq_true, decide_eq_true_eq, any_confirmationOf]
      constructor
      · rintro ⟨hjx, hcj⟩
        exact h.once j hj i hi (hjx.trans hmine.symm) hcj hc
      · rintro rfl
        exact ⟨hmine, hc⟩
    rw [hsum]
    exact h.fits i hi hc x hx hmine.symm
  · have hsum : collectedQuantity s.db x.id = 0 := by
      refine sumWhere_eq_zero fun i hi hp ↦ hsome ⟨i, hi, ?_⟩
      rwa [Bool.and_eq_true, decide_eq_true_eq, any_confirmationOf] at hp
    have hone := (hs.subscriptions x hx).quantity
    omega

/-- An active subscription has been paid in full. -/
theorem Sound.fullyPaid (h : Sound s) {x : FoodSubscription}
    (hx : x ∈ s.db.food.subscriptions.rows) (hactive : x.status = .active) :
    FullyPaid s.db x := by
  obtain ⟨p, hp, hid, -, hsettlement⟩ := (h.subscriptions x hx).package
  refine ⟨p, hp, hid, ?_⟩
  cases hsettlement with
  | active _ full => exact full
  | unpaid status =>
      rw [hactive] at status
      rcases status with status | status
      · cases status
      · cases status

theorem Fair.paidWhenUsed (h : Fair s.db) (hs : Sound s) (he : ServedEffect digest s k s')
    (hk : HandsOutFairly digest s k) : PaidWhenUsed s s' := by
  intro c' hc' hused hbefore
  rcases he.collected_cases ⟨c', hc', rfl, hused⟩ with hcollected |
    ⟨ctx, userId, programmeId, distributionId, dto, c, i, rfl, hpresented, hout, hid⟩
  · exact absurd hcollected hbefore
  · obtain ⟨x, hx, -, -, hxid, -⟩ := h.listed i hout.item
    exact ⟨i, hout.item, hid.symm, x, hx, hxid,
      hs.fullyPaid hx (hk.2 c hpresented i hout.item hout.item_id x hx hxid).1⟩

/-- **Food goes to those who paid, once, when the confirmation looks at it.**  In every run in which a
collection is confirmed only for a subscription that is paid and has had nothing, for no more portions
than it is for, and no enrolment is taken up again for fewer portions than were collected: what is
collected for a subscription over all distributions is at most its quantity, and a confirmation is
used only for a subscription that has been paid in full.  A call without effect need not meet the
condition. -/
theorem collected_once_and_paid {s₀ : Desk} (h₀ : HandOutStarts s₀)
    (h : Reaches (serve digest) (Effective (serve digest) (HandsOutFairly digest)) s₀ s) :
    (∀ x ∈ s.db.food.subscriptions.rows, collectedQuantity s.db x.id ≤ x.quantity) ∧
      ∀ k, Effective (serve digest) (HandsOutFairly digest) s k →
        PaidWhenUsed s (serve digest s k) := by
  obtain ⟨hstarts, hdistributions, hitems, hconfirmations⟩ := h₀
  obtain ⟨hs, hfair⟩ : Sound s ∧ Fair s.db := by
    refine h.of_effective.invariant (I := fun s ↦ Sound s ∧ Fair s.db) ⟨hstarts.sound, ?_, ?_, ?_, ?_⟩ ?_
    · rw [hitems]
      exact List.forall_mem_nil _
    · rw [hconfirmations]
      exact List.forall_mem_nil _
    · rw [hitems]
      exact List.forall_mem_nil _
    · rw [hitems]
      exact List.forall_mem_nil _
    · rintro s k ⟨hs, hfair⟩ hk
      exact ⟨hs.serve hk.1, hfair.step (serve_effect hs.intents hk.1) hk⟩
  refine ⟨fun x hx ↦ hfair.collectedQuantity_le hs hx, fun k hk ↦ ?_⟩
  rcases hk with hsame | hk
  · rw [hsame]
    exact fun c' hc' hused hbefore ↦ absurd ⟨c', hc', rfl, hused⟩ hbefore
  · exact hfair.paidWhenUsed hs (serve_effect hs.intents hk.1) hk

section Sample

instance (db : Db) (itemId : Uuid) : Decidable (Collected db itemId) := by
  unfold Collected
  infer_instance

instance (db : Db) (x : FoodSubscription) : Decidable (FullyPaid db x) := by
  unfold FullyPaid
  infer_instance

instance (s s' : Desk) : Decidable (PaidWhenUsed s s') := by
  unfold PaidWhenUsed
  infer_instance

/-- The calls that hand out fairly, apart from those of the rest of the platform. -/
def handsOutFairly (digest : String → String) (s : Desk) (k : HandOutCall) : Bool :=
  admitsHandOut s k && match k with
    | .confirmCollection _ _ _ distributionId dto =>
        (presented s.db digest distributionId dto.code).all fun c ↦
          decide (∀ i ∈ s.db.food.distributionItems.rows, i.id = c.distributionItemId →
            ∀ x ∈ s.db.food.subscriptions.rows, x.id = i.subscriptionId →
              x.status = .active ∧ i.quantity ≤ x.quantity ∧
                ∀ j ∈ s.db.food.distributionItems.rows, j.subscriptionId = x.id →
                  ¬ Collected s.db j.id)
    | .desk (.subscribe _ userId programmeId dto) =>
        decide (∀ x ∈ s.db.food.subscriptions.rows, x.userId = userId → x.groupId = programmeId →
          x.packageId = dto.packageId →
          ∀ i ∈ s.db.food.distributionItems.rows, i.subscriptionId = x.id →
            Collected s.db i.id → i.quantity ≤ dto.quantity)
    | _ => true

theorem handsOutFairly_of (s : Desk) (k : HandOutCall) (h : handsOutFairly digest s k = true) :
    HandsOutFairly digest s k := by
  unfold handsOutFairly at h
  rw [Bool.and_eq_true] at h
  refine ⟨served_of_admits h.1, ?_⟩
  split
  · intro c hc
    have hall := h.2
    rw [Option.all_eq_true] at hall
    exact of_decide_eq_true (hall c hc)
  · exact of_decide_eq_true h.2
  · trivial

/-- The member who paid is issued a code. -/
def sampleServing : List HandOutCall :=
  sampleReady ++ [sampleAsks 32 1 [0, 0, 0, 0, 0, 0], sampleMovesOn 33 .distributing]

theorem collected_once_and_paid_sample :
    (∀ x ∈ (sampleServed (sampleStocked sampleBuying)
        (sampleServing ++ [sampleConfirms 34 "aaa-aaa"])).db.food.subscriptions.rows,
      collectedQuantity (sampleServed (sampleStocked sampleBuying)
        (sampleServing ++ [sampleConfirms 34 "aaa-aaa"])).db x.id = 2) ∧
    (∀ x ∈ (sampleServed (sampleStocked sampleBuying)
        (sampleServing ++ [sampleConfirms 34 "aaa-aaa"])).db.food.subscriptions.rows,
      collectedQuantity (sampleServed (sampleStocked sampleBuying)
        (sampleServing ++ [sampleConfirms 34 "aaa-aaa"])).db x.id ≤ x.quantity) := by
  have hstarts : HandOutStarts sampleMembers := by decide +kernel
  refine ⟨by decide +kernel, (collected_once_and_paid hstarts
    (reaches_sampleServed handsOutFairly_of ?_ (by decide +kernel)
      (by decide +kernel)).effective).1⟩
  intro s
  exact ⟨served_sampleReceives s, trivial⟩

/-- A second member enrols and does not pay. -/
def sampleOneUnpaid : List Call :=
  sampleFirstRound ++
    [.subscribe (sampleDraw 14 14) (.ofNat 2) sampleProgramme ⟨sampleBeans, 2, none⟩,
      sampleMoves 20 .active]

/-- They are issued a code, and the food is being handed out. -/
def sampleUnpaidServing : Desk :=
  sampleServed (sampleStocked sampleOneUnpaid)
    (sampleReady ++ [sampleAsks 32 2 [0, 0, 0, 0, 0, 0], sampleMovesOn 33 .distributing])

/-- Whoever has a code collects, paid or not. -/
theorem collected_without_payment :
    ¬ ∀ (digest : String → String) (s₀ s : Desk), HandOutStarts s₀ →
      Reaches (serve digest) Served s₀ s →
        (∀ x ∈ s.db.food.subscriptions.rows, collectedQuantity s.db x.id ≤ x.quantity) ∧
        ∀ k, Served s k → PaidWhenUsed s (serve digest s k) := by
  intro h
  have hpaid := (h sampleDigest sampleMembers sampleUnpaidServing (by decide +kernel)
    (reaches_sampleServed (fun _ _ ↦ served_of_admits) served_sampleReceives (by decide +kernel)
      (by decide +kernel))).2 (sampleConfirms 34 "aaa-aaa") trivial
  have hnot : ¬ PaidWhenUsed sampleUnpaidServing
      (serve sampleDigest sampleUnpaidServing (sampleConfirms 34 "aaa-aaa")) := by decide +kernel
  exact hnot hpaid

end Sample

end AjoCloud.Food
